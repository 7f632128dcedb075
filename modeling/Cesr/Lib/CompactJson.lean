import Cesr.Lib.WriterJson

set_option autoImplicit false

namespace CompactJson

open WriterJson

section Grammar

-- What the content of a string stands for; a content that stands for nothing is no string.
variable (denotes : Text → Text → Prop)

inductive Part where
  | value
  | items
  | members (seen : List Text)

def Scalar (text : Text) : Prop := text ∈ words ∨ Numeral text ∨ ∃ content name, denotes content name ∧ text = quoted content

-- The spellings without space between the tokens of a value, of the items of an
-- array and of the members of an object, no name of which is among those seen.
inductive Spells : Part → Text → Prop
  | scalar (text : Text) (plain : Scalar denotes text) : Spells .value text
  | emptyArray : Spells .value [0x5B, 0x5D]
  | array (items : Text) (spelled : Spells .items items) : Spells .value (0x5B :: (items ++ [0x5D]))
  | emptyObject : Spells .value [0x7B, 0x7D]
  | object (members : Text) (spelled : Spells (.members []) members) : Spells .value (0x7B :: (members ++ [0x7D]))
  | lastItem (item : Text) (spelled : Spells .value item) : Spells .items item
  | moreItems (item rest : Text) (spelled : Spells .value item) (others : Spells .items rest) :
      Spells .items (item ++ 0x2C :: rest)
  | lastMember (seen : List Text) (key name item : Text) (named : denotes key name) (fresh : name ∉ seen)
      (spelled : Spells .value item) : Spells (.members seen) (quoted key ++ 0x3A :: item)
  | moreMembers (seen : List Text) (key name item rest : Text) (named : denotes key name) (fresh : name ∉ seen)
      (spelled : Spells .value item) (others : Spells (.members (name :: seen)) rest) :
      Spells (.members seen) (quoted key ++ 0x3A :: (item ++ 0x2C :: rest))

inductive Place where
  | firstMember
  | nextMember
  | value
  | firstItem
  | afterValue
deriving DecidableEq, Repr

abbrev Container := Bool × List Text

abbrev Next := Option (Place × List Container)

def popped : List Container → Next
  | [] => none
  | outer => some (.afterValue, outer)

-- One turn of a reader that keeps the open containers on a stack.
inductive Step : Place → List Container → Text → Next → Prop
  | scalar (containers : List Container) (text : Text) (plain : Scalar denotes text) :
      Step .value containers text (some (.afterValue, containers))
  | openObject (containers : List Container) : Step .value containers [0x7B] (some (.firstMember, (true, []) :: containers))
  | openArray (containers : List Container) : Step .value containers [0x5B] (some (.firstItem, (false, []) :: containers))
  | firstKey (seen : List Text) (outer : List Container) (key name : Text) (named : denotes key name) (fresh : name ∉ seen) :
      Step .firstMember ((true, seen) :: outer) (quoted key ++ [0x3A]) (some (.value, (true, name :: seen) :: outer))
  | nextKey (seen : List Text) (outer : List Container) (key name : Text) (named : denotes key name) (fresh : name ∉ seen) :
      Step .nextMember ((true, seen) :: outer) (quoted key ++ [0x3A]) (some (.value, (true, name :: seen) :: outer))
  | noMembers (seen : List Text) (outer : List Container) : Step .firstMember ((true, seen) :: outer) [0x7D] (popped outer)
  | noItems (seen : List Text) (outer : List Container) : Step .firstItem ((false, seen) :: outer) [0x5D] (popped outer)
  | item (seen : List Text) (outer : List Container) :
      Step .firstItem ((false, seen) :: outer) [] (some (.value, (false, seen) :: outer))
  | moreMembers (seen : List Text) (outer : List Container) :
      Step .afterValue ((true, seen) :: outer) [0x2C] (some (.nextMember, (true, seen) :: outer))
  | moreItems (seen : List Text) (outer : List Container) :
      Step .afterValue ((false, seen) :: outer) [0x2C] (some (.value, (false, seen) :: outer))
  | closeObject (seen : List Text) (outer : List Container) : Step .afterValue ((true, seen) :: outer) [0x7D] (popped outer)
  | closeArray (seen : List Text) (outer : List Container) : Step .afterValue ((false, seen) :: outer) [0x5D] (popped outer)

inductive Runs : Place → List Container → Text → Prop
  | stop (place : Place) (containers : List Container) (text : Text) (last : Step denotes place containers text none) :
      Runs place containers text
  | go (place place' : Place) (containers containers' : List Container) (text later : Text)
      (step : Step denotes place containers text (some (place', containers'))) (others : Runs place' containers' later) :
      Runs place containers (text ++ later)

def Closing : Container → Text → Prop
  | (true, seen), text => text = [0x7D] ∨ ∃ members, Spells denotes (.members seen) members ∧ text = 0x2C :: (members ++ [0x7D])
  | (false, _), text => text = [0x5D] ∨ ∃ items, Spells denotes .items items ∧ text = 0x2C :: (items ++ [0x5D])

def Closes : List Container → Text → Prop
  | [], text => text = []
  | container :: outer, text => ∃ closing rest, Closing denotes container closing ∧ Closes outer rest ∧ text = closing ++ rest

def Opened : Place → Container → Text → Prop
  | .firstMember, (_, seen), text =>
      text = [0x7D] ∨ ∃ members, Spells denotes (.members seen) members ∧ text = members ++ [0x7D]
  | .nextMember, (_, seen), text => ∃ members, Spells denotes (.members seen) members ∧ text = members ++ [0x7D]
  | .firstItem, _, text => text = [0x5D] ∨ ∃ items, Spells denotes .items items ∧ text = items ++ [0x5D]
  | _, _, _ => False

def Demand : Place → List Container → Text → Prop
  | .afterValue, containers, text => Closes denotes containers text
  | .value, containers, text => ∃ item rest, Spells denotes .value item ∧ Closes denotes containers rest ∧ text = item ++ rest
  | place, container :: outer, text =>
      ∃ body rest, Opened denotes place container body ∧ Closes denotes outer rest ∧ text = body ++ rest
  | _, [], _ => False

def Proper : Place → List Container → Prop
  | .firstMember, containers => ∃ seen outer, containers = (true, seen) :: outer
  | .nextMember, containers => ∃ seen outer, containers = (true, seen) :: outer
  | .firstItem, containers => ∃ seen outer, containers = (false, seen) :: outer
  | _, containers => containers ≠ []

def Later : Next → Text → Prop
  | none, text => text = []
  | some (place, containers), text => Demand denotes place containers text

def Kept : Next → Prop
  | none => True
  | some (place, containers) => Proper place containers

theorem popped_later (outer : List Container) (text : Text) : Later denotes (popped outer) text ↔ Closes denotes outer text := by
  cases outer with
  | nil => exact Iff.rfl
  | cons container rest => exact Iff.rfl

theorem popped_kept (outer : List Container) : Kept (popped outer) := by
  cases outer with
  | nil => trivial
  | cons container rest => exact List.cons_ne_nil container rest

theorem step_kept (place : Place) (containers : List Container) (text : Text) (next : Next)
    (step : Step denotes place containers text next) (proper : Proper place containers) : Kept next := by
  cases step with
  | scalar => exact proper
  | openObject => exact ⟨[], containers, rfl⟩
  | openArray => exact ⟨[], containers, rfl⟩
  | firstKey seen outer key name => exact List.cons_ne_nil _ outer
  | nextKey seen outer key name => exact List.cons_ne_nil _ outer
  | noMembers seen outer => exact popped_kept outer
  | noItems seen outer => exact popped_kept outer
  | item seen outer => exact List.cons_ne_nil _ outer
  | moreMembers seen outer => exact ⟨seen, outer, rfl⟩
  | moreItems seen outer => exact List.cons_ne_nil _ outer
  | closeObject seen outer => exact popped_kept outer
  | closeArray seen outer => exact popped_kept outer

theorem member_demand (seen : List Text) (outer : List Container) (key name later : Text) (named : denotes key name)
    (fresh : name ∉ seen) (follows : Demand denotes .value ((true, name :: seen) :: outer) later) :
    Demand denotes .nextMember ((true, seen) :: outer) (quoted key ++ [0x3A] ++ later) := by
  obtain ⟨item, rest, spelled, ⟨closing, rest', closed, others, split'⟩, split⟩ := follows
  rcases closed with ended | ⟨members, spelled', ended⟩
  · refine ⟨quoted key ++ 0x3A :: item ++ [0x7D], rest', ⟨_, .lastMember _ _ _ _ named fresh spelled, rfl⟩, others, ?_⟩
    rw [split, split', ended]
    simp only [List.append_assoc, List.cons_append, List.nil_append]
  · refine ⟨quoted key ++ 0x3A :: (item ++ 0x2C :: members) ++ [0x7D], rest',
      ⟨_, .moreMembers _ _ _ _ _ named fresh spelled spelled', rfl⟩, others, ?_⟩
    rw [split, split', ended]
    simp only [List.append_assoc, List.cons_append, List.nil_append]

theorem items_demand (seen : List Text) (outer : List Container) (later : Text)
    (follows : Demand denotes .value ((false, seen) :: outer) later) :
    ∃ items rest, Spells denotes .items items ∧ Closes denotes outer rest ∧ later = items ++ [0x5D] ++ rest := by
  obtain ⟨item, rest, spelled, ⟨closing, rest', closed, others, split'⟩, split⟩ := follows
  rcases closed with ended | ⟨items, spelled', ended⟩
  · refine ⟨item, rest', .lastItem item spelled, others, ?_⟩
    rw [split, split', ended, List.append_assoc]
  · refine ⟨item ++ 0x2C :: items, rest', .moreItems item items spelled spelled', others, ?_⟩
    rw [split, split', ended]
    simp only [List.append_assoc, List.cons_append, List.nil_append]

theorem step_demand (place : Place) (containers : List Container) (text later : Text) (next : Next)
    (step : Step denotes place containers text next) (follows : Later denotes next later) :
    Demand denotes place containers (text ++ later) := by
  cases step with
  | scalar _ _ plain => exact ⟨text, later, .scalar text plain, follows, rfl⟩
  | openObject =>
      obtain ⟨body, rest, opened, closes, split⟩ := follows
      rcases opened with empty | ⟨members, spelled, whole⟩
      · exact ⟨[0x7B, 0x7D], rest, .emptyObject, closes, by rw [split, empty]; rfl⟩
      · exact ⟨_, rest, .object members spelled, closes, by rw [split, whole]; rfl⟩
  | openArray =>
      obtain ⟨body, rest, opened, closes, split⟩ := follows
      rcases opened with empty | ⟨items, spelled, whole⟩
      · exact ⟨[0x5B, 0x5D], rest, .emptyArray, closes, by rw [split, empty]; rfl⟩
      · exact ⟨_, rest, .array items spelled, closes, by rw [split, whole]; rfl⟩
  | firstKey seen outer key name named fresh =>
      obtain ⟨body, rest, opened, closes, split⟩ := member_demand denotes seen outer key name later named fresh follows
      exact ⟨body, rest, .inr opened, closes, split⟩
  | nextKey seen outer key name named fresh => exact member_demand denotes seen outer key name later named fresh follows
  | noMembers seen outer => exact ⟨[0x7D], later, .inl rfl, (popped_later denotes outer later).mp follows, rfl⟩
  | noItems seen outer => exact ⟨[0x5D], later, .inl rfl, (popped_later denotes outer later).mp follows, rfl⟩
  | item seen outer =>
      obtain ⟨items, rest, spelled, closes, split⟩ := items_demand denotes seen outer later follows
      exact ⟨items ++ [0x5D], rest, .inr ⟨items, spelled, rfl⟩, closes, split⟩
  | moreMembers seen outer =>
      obtain ⟨body, rest, ⟨members, spelled, whole⟩, closes, split⟩ := follows
      exact ⟨0x2C :: (members ++ [0x7D]), rest, .inr ⟨members, spelled, rfl⟩, closes, by rw [split, whole]; rfl⟩
  | moreItems seen outer =>
      obtain ⟨items, rest, spelled, closes, split⟩ := items_demand denotes seen outer later follows
      exact ⟨0x2C :: (items ++ [0x5D]), rest, .inr ⟨items, spelled, rfl⟩, closes, by rw [split]; rfl⟩
  | closeObject seen outer => exact ⟨[0x7D], later, .inl rfl, (popped_later denotes outer later).mp follows, rfl⟩
  | closeArray seen outer => exact ⟨[0x5D], later, .inl rfl, (popped_later denotes outer later).mp follows, rfl⟩

-- A reader takes two turns for a byte at the most.
def need : Place → Text → Nat
  | .firstItem, text => 2 * text.length + 2
  | _, text => 2 * text.length + 1

theorem need_le (place : Place) (text : Text) : need place text ≤ 2 * text.length + 2 := by
  cases place with
  | firstItem => exact Nat.le_refl _
  | _ => exact Nat.le_succ _

theorem le_need (place : Place) (text : Text) : 2 * text.length + 1 ≤ need place text := by
  cases place with
  | firstItem => exact Nat.le_succ _
  | _ => exact Nat.le_refl _

theorem numeral_head (text : Text) (numeral : Numeral text) :
    ∃ byte rest, text = byte :: rest ∧ (byte = 0x2D ∨ isDigit byte = true) := by
  obtain ⟨sign, whole, fraction, exponent, known, digits, _, _, spelled⟩ := numeral
  have start : ∃ first rest, whole = first :: rest ∧ isDigit first = true := by
    rcases digits with zero | ⟨first, rest, same, digit, _⟩
    · exact ⟨0x30, [], zero, rfl⟩
    · exact ⟨first, rest, same, digit⟩
  obtain ⟨first, rest, same, digit⟩ := start
  rcases known with none' | minus
  · exact ⟨first, rest ++ fraction ++ exponent, by rw [spelled, none', same]; rfl, .inr digit⟩
  · exact ⟨0x2D, whole ++ fraction ++ exponent, by rw [spelled, minus]; rfl, .inl rfl⟩

theorem scalar_head (text : Text) (plain : Scalar denotes text) : ∃ byte rest, text = byte :: rest ∧ byte ≠ 0x5D := by
  rcases plain with known | numeral | ⟨content, name, _, same⟩
  · simp only [words, List.mem_cons, List.not_mem_nil, or_false] at known
    rcases known with same | same | same
    all_goals exact ⟨_, _, same, by decide⟩
  · obtain ⟨byte, rest, same, which⟩ := numeral_head text numeral
    refine ⟨byte, rest, same, ?_⟩
    rcases which with minus | digit
    · rw [minus]
      decide
    · intro other
      rw [other] at digit
      cases digit
  · exact ⟨quote, content ++ [quote], same, by decide⟩

theorem step_need (place place' : Place) (containers containers' : List Container) (text later : Text)
    (step : Step denotes place containers text (some (place', containers'))) : need place' later < need place (text ++ later) := by
  have most := need_le place' later
  have least := le_need place (text ++ later)
  rw [List.length_append] at least
  by_cases empty : text = []
  · generalize following : some (place', containers') = next at step
    cases step with
    | item seen outer =>
        cases following
        exact Nat.lt_succ_self _
    | scalar _ _ plain =>
        obtain ⟨byte, rest, same, _⟩ := scalar_head denotes text plain
        rw [empty] at same
        cases same
    | _ => cases empty
  · have long : 0 < text.length := List.length_pos_iff.mpr empty
    omega

theorem member_step (place : Place) (first : place = .firstMember ∨ place = .nextMember) (seen : List Text) (outer : List Container)
    (members rest : Text) (spelled : Spells denotes (.members seen) members) (closes : Closes denotes outer rest) :
    ∃ part next later, members ++ [0x7D] ++ rest = part ++ later ∧ Step denotes place ((true, seen) :: outer) part next ∧
      Later denotes next later := by
  have key : ∀ key name, denotes key name → name ∉ seen →
      Step denotes place ((true, seen) :: outer) (quoted key ++ [0x3A]) (some (.value, (true, name :: seen) :: outer)) := by
    intro key name named fresh
    rcases first with same | same
    · exact same ▸ .firstKey seen outer key name named fresh
    · exact same ▸ .nextKey seen outer key name named fresh
  cases spelled with
  | lastMember _ text name item named fresh spelled =>
      refine ⟨_, _, item ++ ([0x7D] ++ rest), ?_, key text name named fresh, item, _, spelled,
        ⟨[0x7D], rest, .inl rfl, closes, rfl⟩, rfl⟩
      simp only [List.append_assoc, List.cons_append, List.nil_append]
  | moreMembers _ text name item more named fresh spelled others =>
      refine ⟨_, _, item ++ (0x2C :: (more ++ [0x7D]) ++ rest), ?_, key text name named fresh, item, _, spelled,
        ⟨_, rest, .inr ⟨more, others, rfl⟩, closes, rfl⟩, rfl⟩
      simp only [List.append_assoc, List.cons_append, List.nil_append]

theorem items_later (seen : List Text) (outer : List Container) (items rest : Text) (spelled : Spells denotes .items items)
    (closes : Closes denotes outer rest) : Demand denotes .value ((false, seen) :: outer) (items ++ [0x5D] ++ rest) := by
  cases spelled with
  | lastItem _ spelled =>
      exact ⟨items, [0x5D] ++ rest, spelled, ⟨[0x5D], rest, .inl rfl, closes, rfl⟩, List.append_assoc _ _ _⟩
  | moreItems item more spelled others =>
      refine ⟨item, 0x2C :: (more ++ [0x5D]) ++ rest, spelled, ⟨_, rest, .inr ⟨more, others, rfl⟩, closes, rfl⟩, ?_⟩
      simp only [List.append_assoc, List.cons_append, List.nil_append]

theorem demand_step (place : Place) (containers : List Container) (text : Text) (proper : Proper place containers)
    (demand : Demand denotes place containers text) :
    ∃ part next later, text = part ++ later ∧ Step denotes place containers part next ∧ Later denotes next later := by
  cases place with
  | value =>
      obtain ⟨item, rest, spelled, closes, split⟩ := demand
      cases spelled with
      | scalar _ plain => exact ⟨item, _, rest, split, .scalar containers item plain, closes⟩
      | emptyArray =>
          exact ⟨[0x5B], _, [0x5D] ++ rest, split, .openArray containers, [0x5D], rest, .inl rfl, closes, rfl⟩
      | array items spelled =>
          exact ⟨[0x5B], _, items ++ [0x5D] ++ rest, split, .openArray containers, _, rest, .inr ⟨items, spelled, rfl⟩, closes, rfl⟩
      | emptyObject =>
          exact ⟨[0x7B], _, [0x7D] ++ rest, split, .openObject containers, [0x7D], rest, .inl rfl, closes, rfl⟩
      | object members spelled =>
          exact ⟨[0x7B], _, members ++ [0x7D] ++ rest, split, .openObject containers, _, rest, .inr ⟨members, spelled, rfl⟩, closes,
            rfl⟩
  | firstMember =>
      obtain ⟨seen, outer, same⟩ := proper
      subst same
      obtain ⟨body, rest, opened, closes, split⟩ := demand
      rcases opened with empty | ⟨members, spelled, whole⟩
      · exact ⟨[0x7D], _, rest, by rw [split, empty], .noMembers seen outer, (popped_later denotes outer rest).mpr closes⟩
      · rw [split, whole]
        exact member_step denotes .firstMember (.inl rfl) seen outer members rest spelled closes
  | nextMember =>
      obtain ⟨seen, outer, same⟩ := proper
      subst same
      obtain ⟨body, rest, ⟨members, spelled, whole⟩, closes, split⟩ := demand
      rw [split, whole]
      exact member_step denotes .nextMember (.inr rfl) seen outer members rest spelled closes
  | firstItem =>
      obtain ⟨seen, outer, same⟩ := proper
      subst same
      obtain ⟨body, rest, opened, closes, split⟩ := demand
      rcases opened with empty | ⟨items, spelled, whole⟩
      · exact ⟨[0x5D], _, rest, by rw [split, empty], .noItems seen outer, (popped_later denotes outer rest).mpr closes⟩
      · rw [split, whole]
        exact ⟨[], _, _, rfl, .item seen outer, items_later denotes seen outer items rest spelled closes⟩
  | afterValue =>
      cases containers with
      | nil => exact absurd rfl proper
      | cons container outer =>
          obtain ⟨closing, rest, closed, closes, split⟩ := demand
          obtain ⟨isObject, seen⟩ := container
          cases isObject with
          | true =>
              rcases closed with ended | ⟨members, spelled, ended⟩
              · exact ⟨[0x7D], _, rest, by rw [split, ended], .closeObject seen outer, (popped_later denotes outer rest).mpr closes⟩
              · refine ⟨[0x2C], _, members ++ [0x7D] ++ rest, by rw [split, ended]; rfl, .moreMembers seen outer, ?_⟩
                exact ⟨_, rest, ⟨members, spelled, rfl⟩, closes, rfl⟩
          | false =>
              rcases closed with ended | ⟨items, spelled, ended⟩
              · exact ⟨[0x5D], _, rest, by rw [split, ended], .closeArray seen outer, (popped_later denotes outer rest).mpr closes⟩
              · refine ⟨[0x2C], _, items ++ [0x5D] ++ rest, by rw [split, ended]; rfl, .moreItems seen outer, ?_⟩
                exact items_later denotes seen outer items rest spelled closes

theorem runs_demand (place : Place) (containers : List Container) (text : Text) (proper : Proper place containers) :
    Runs denotes place containers text ↔ Demand denotes place containers text := by
  apply Iff.intro
  · intro runs
    induction runs with
    | stop place containers text last =>
        have whole := step_demand denotes place containers text [] none last rfl
        rw [List.append_nil] at whole
        exact whole
    | go place place' containers containers' text later step others ih =>
        exact step_demand denotes place containers text later _ step (ih (step_kept denotes place containers text _ step proper))
  · intro demand
    generalize size : need place text = count
    induction count using Nat.strongRecOn generalizing place containers text with
    | ind count ih =>
        obtain ⟨part, next, later, split, step, follows⟩ := demand_step denotes place containers text proper demand
        have kept := step_kept denotes place containers part next step proper
        cases next with
        | none =>
            rw [split, show later = [] from follows, List.append_nil]
            exact .stop place containers part step
        | some both =>
            have smaller := step_need denotes place both.1 containers both.2 part later step
            rw [← split, size] at smaller
            rw [split]
            exact .go place both.1 containers both.2 part later step (ih _ smaller both.1 both.2 later kept follows rfl)

theorem object_runs (text : Text) :
    Runs denotes .firstMember [(true, [])] text ↔ Spells denotes .value (0x7B :: text) := by
  rw [runs_demand denotes .firstMember _ _ ⟨[], [], rfl⟩]
  apply Iff.intro
  · intro demand
    obtain ⟨body, rest, opened, closes, split⟩ := demand
    rw [split, show rest = [] from closes, List.append_nil]
    rcases opened with empty | ⟨members, spelled, whole⟩
    · rw [empty]
      exact .emptyObject
    · rw [whole]
      exact .object members spelled
  · intro spelled
    generalize whole : (0x7B : UInt8) :: text = object at spelled
    cases spelled with
    | scalar _ plain =>
        rw [← whole] at plain
        rcases plain with known | numeral | ⟨content, name, _, same⟩
        · simp [words] at known
        · obtain ⟨byte, rest, same, which⟩ := numeral_head _ numeral
          rw [← (List.cons.inj same).1] at which
          exact absurd which (by decide)
        · exact absurd (List.cons.inj same).1 (by decide)
    | emptyObject => exact ⟨text, [], .inl (List.cons.inj whole).2, rfl, (List.append_nil text).symm⟩
    | object members spelled =>
        exact ⟨text, [], .inr ⟨members, spelled, (List.cons.inj whole).2⟩, rfl, (List.append_nil text).symm⟩
    | emptyArray => exact absurd (List.cons.inj whole).1 (by decide)
    | array items _ => exact absurd (List.cons.inj whole).1 (by decide)

theorem after_value_head (containers : List Container) (text : Text) (runs : Runs denotes .afterValue containers text) :
    ∃ byte rest, text = byte :: rest ∧ (byte = 0x2C ∨ byte = 0x7D ∨ byte = 0x5D) := by
  generalize at' : Place.afterValue = place at runs
  have first : ∀ (text : Text) (next : Next), Step denotes place containers text next →
      ∃ byte, text = [byte] ∧ (byte = 0x2C ∨ byte = 0x7D ∨ byte = 0x5D) := by
    intro text next step
    cases step with
    | moreMembers => exact ⟨_, rfl, .inl rfl⟩
    | moreItems => exact ⟨_, rfl, .inl rfl⟩
    | closeObject => exact ⟨_, rfl, .inr (.inl rfl)⟩
    | closeArray => exact ⟨_, rfl, .inr (.inr rfl)⟩
    | _ => cases at'
  cases runs with
  | stop _ _ _ last =>
      obtain ⟨byte, same, which⟩ := first _ _ last
      exact ⟨byte, [], same, which⟩
  | go _ _ _ _ part later step others =>
      obtain ⟨byte, same, which⟩ := first _ _ step
      exact ⟨byte, later, by rw [same]; rfl, which⟩

theorem value_run_head (containers : List Container) (text : Text) (runs : Runs denotes .value containers text) :
    ∃ byte rest, text = byte :: rest ∧ byte ≠ 0x5D := by
  generalize at' : Place.value = place at runs
  have first : ∀ (text : Text) (next : Next), Step denotes place containers text next →
      ∃ byte rest, text = byte :: rest ∧ byte ≠ 0x5D := by
    intro text next step
    cases step with
    | scalar _ _ plain => exact scalar_head denotes text plain
    | openObject => exact ⟨_, [], rfl, by decide⟩
    | openArray => exact ⟨_, [], rfl, by decide⟩
    | _ => cases at'
  cases runs with
  | stop _ _ _ last => exact first _ _ last
  | go _ _ _ _ part later step others =>
      obtain ⟨byte, rest, same, other⟩ := first _ _ step
      exact ⟨byte, rest ++ later, by rw [same]; rfl, other⟩

end Grammar

theorem spells_mono (denotes other : Text → Text → Prop) (weaker : ∀ content name, denotes content name → other content name)
    (part : Part) (text : Text) (spelled : Spells denotes part text) : Spells other part text := by
  induction spelled with
  | scalar text plain =>
      apply Spells.scalar
      rcases plain with known | numeral | ⟨content, name, named, same⟩
      · exact .inl known
      · exact .inr (.inl numeral)
      · exact .inr (.inr ⟨content, name, weaker content name named, same⟩)
  | emptyArray => exact .emptyArray
  | array items _ ih => exact .array items ih
  | emptyObject => exact .emptyObject
  | object members _ ih => exact .object members ih
  | lastItem item _ ih => exact .lastItem item ih
  | moreItems item rest _ _ ih ih' => exact .moreItems item rest ih ih'
  | lastMember seen key name item named fresh _ ih => exact .lastMember seen key name item (weaker key name named) fresh ih
  | moreMembers seen key name item rest named fresh _ _ ih ih' =>
      exact .moreMembers seen key name item rest (weaker key name named) fresh ih ih'

end CompactJson
