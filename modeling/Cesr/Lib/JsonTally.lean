import Cesr.Lib.CompactJson
import Cesr.Lib.JsonString

set_option autoImplicit false

namespace JsonTally

open WriterJson

-- Where a byte stands: between the strings, in one, or behind a backslash in one.
inductive Mode where
  | outside
  | inside
  | escaped
deriving DecidableEq, Repr

-- What a byte outside the strings does: it names a member, or opens or closes a container.
inductive Mark where
  | member
  | opening
  | closing
deriving DecidableEq, Repr

def next : Mode → UInt8 → Mode
  | .outside, byte => if byte = quote then .inside else .outside
  | .inside, byte => if byte = quote then .outside else if byte = backslash then .escaped else .inside
  | .escaped, _ => .inside

def mark : Mode → UInt8 → List Mark
  | .outside, byte =>
      if byte = 0x3A then [.member]
      else if byte = 0x7B ∨ byte = 0x5B then [.opening]
      else if byte = 0x7D ∨ byte = 0x5D then [.closing]
      else []
  | _, _ => []

def ends : Mode → Text → Mode
  | mode, [] => mode
  | mode, byte :: rest => ends (next mode byte) rest

def marks : Mode → Text → List Mark
  | _, [] => []
  | mode, byte :: rest => mark mode byte ++ marks (next mode byte) rest

def height : Nat → List Mark → Nat
  | depth, [] => depth
  | depth, .member :: rest => height depth rest
  | depth, .opening :: rest => height (depth + 1) rest
  | depth, .closing :: rest => height (depth - 1) rest

def peak : Nat → List Mark → Nat
  | depth, [] => depth
  | depth, .member :: rest => peak depth rest
  | depth, .opening :: rest => peak (depth + 1) rest
  | depth, .closing :: rest => max depth (peak (depth - 1) rest)

def members (text : Text) : Nat := (marks .outside text).count .member

def deepest (text : Text) : Nat := peak 0 (marks .outside text)

section Append

theorem ends_append (mode : Mode) (text more : Text) : ends mode (text ++ more) = ends (ends mode text) more := by
  induction text generalizing mode with
  | nil => rfl
  | cons byte rest ih => exact ih (next mode byte)

theorem marks_append (mode : Mode) (text more : Text) : marks mode (text ++ more) = marks mode text ++ marks (ends mode text) more := by
  induction text generalizing mode with
  | nil => rfl
  | cons byte rest ih => rw [List.cons_append, marks, marks, ih, List.append_assoc, ends]

theorem height_append (depth : Nat) (first more : List Mark) : height depth (first ++ more) = height (height depth first) more := by
  induction first generalizing depth with
  | nil => rfl
  | cons mark rest ih =>
      cases mark with
      | member => exact ih depth
      | opening => exact ih (depth + 1)
      | closing => exact ih (depth - 1)

theorem le_peak (depth : Nat) (list : List Mark) : depth ≤ peak depth list := by
  induction list generalizing depth with
  | nil => exact Nat.le_refl depth
  | cons mark rest ih =>
      cases mark with
      | member => exact ih depth
      | opening => exact Nat.le_trans (Nat.le_succ depth) (ih (depth + 1))
      | closing => exact Nat.le_max_left _ _

end Append

-- A text that does nothing to the containers and names no member.
structure Silent (start stop : Mode) (text : Text) : Prop where
  ends : ends start text = stop
  marks : marks start text = []

section Silent

theorem silent_nil (mode : Mode) : Silent mode mode [] := ⟨rfl, rfl⟩

theorem silent_append (first middle last : Mode) (text more : Text) (left : Silent first middle text) (right : Silent middle last more) :
    Silent first last (text ++ more) := by
  refine ⟨?_, ?_⟩
  · rw [ends_append, left.ends, right.ends]
  · rw [marks_append, left.marks, left.ends, right.marks, List.append_nil]

theorem silent_cons (start stop : Mode) (byte : UInt8) (rest : Text) (quiet : mark start byte = [])
    (later : Silent (next start byte) stop rest) : Silent start stop (byte :: rest) := by
  refine ⟨later.ends, ?_⟩
  rw [marks, quiet, later.marks]
  rfl

def Calm (byte : UInt8) : Prop := byte ≠ quote ∧ byte ≠ 0x3A ∧ byte ≠ 0x7B ∧ byte ≠ 0x5B ∧ byte ≠ 0x7D ∧ byte ≠ 0x5D

instance calmDecidable (byte : UInt8) : Decidable (Calm byte) := inferInstanceAs (Decidable (_ ∧ _))

theorem silent_calm (text : Text) (calm : ∀ byte ∈ text, Calm byte) : Silent .outside .outside text := by
  induction text with
  | nil => exact silent_nil _
  | cons byte rest ih =>
      obtain ⟨⟨string, member, brace, bracket, brace', bracket'⟩, others⟩ := List.forall_mem_cons.mp calm
      apply silent_cons
      · rw [mark, if_neg member, if_neg (by simp [brace, bracket]), if_neg (by simp [brace', bracket'])]
      · rw [next, if_neg string]
        exact ih others

theorem silent_checked (text : Text) (checked : (text.all fun byte => decide (Calm byte)) = true) :
    Silent .outside .outside text :=
  silent_calm text fun byte inside => of_decide_eq_true (List.all_eq_true.mp checked byte inside)

theorem silent_raw (byte : UInt8) (rest : Text) (raw : byte ≠ quote ∧ byte ≠ backslash) (others : Silent .inside .inside rest) :
    Silent .inside .inside (byte :: rest) := by
  apply silent_cons _ _ _ _ rfl
  rw [next, if_neg raw.1, if_neg raw.2]
  exact others

theorem silent_escape (byte : UInt8) (rest : Text) (others : Silent .inside .inside rest) :
    Silent .inside .inside (backslash :: byte :: rest) :=
  silent_cons _ _ _ _ rfl (silent_cons .escaped _ _ _ rfl others)

theorem silent_text (text rest : Text) (raw : ∀ byte ∈ text, byte ≠ quote ∧ byte ≠ backslash) (others : Silent .inside .inside rest) :
    Silent .inside .inside (text ++ rest) := by
  induction text with
  | nil => exact others
  | cons byte text ih =>
      obtain ⟨first, later⟩ := List.forall_mem_cons.mp raw
      exact silent_raw byte _ first (ih later)

theorem hex_raw (digits : Text) (start unit : Nat) (spelled : JsonString.hexFrom start digits = some unit) :
    ∀ byte ∈ digits, byte ≠ quote ∧ byte ≠ backslash := by
  induction digits generalizing start with
  | nil => exact List.forall_mem_nil _
  | cons byte rest ih =>
      obtain ⟨value, here, later⟩ := Option.bind_eq_some_iff.mp spelled
      refine List.forall_mem_cons.mpr ⟨⟨?_, ?_⟩, ih _ later⟩
      · intro same
        rw [same] at here
        cases here
      · intro same
        rw [same] at here
        cases here

theorem silent_denotes (content text : Text) (denotes : JsonString.Denotes content text) : Silent .inside .inside content := by
  induction denotes with
  | nil => exact silent_nil _
  | plain byte rest text raw _ ih => exact silent_raw byte rest raw.2 ih
  | short mark byte rest text _ _ ih => exact silent_escape mark rest ih
  | unit digits rest text unit spelled _ _ ih => exact silent_escape 0x75 _ (silent_text digits rest (hex_raw digits _ _ spelled.2) ih)
  | pair first second rest text high low spelled spelled' _ _ _ ih =>
      apply silent_escape
      apply silent_text first _ (hex_raw first _ _ spelled.2)
      apply silent_escape
      exact silent_text second rest (hex_raw second _ _ spelled'.2) ih

theorem silent_quoted (content : Text) (inside : Silent .inside .inside content) : Silent .outside .outside (quoted content) :=
  silent_cons .outside _ _ _ rfl (silent_append .inside .inside .outside content [quote] inside (silent_cons .inside _ _ _ rfl (silent_nil _)))

theorem digit_calm (byte : UInt8) (digit : isDigit byte = true) : Calm byte := by
  have inside := of_decide_eq_true digit
  refine ⟨?_, ?_, ?_, ?_, ?_, ?_⟩
  all_goals
    intro same
    rw [same] at inside
    exact absurd inside (by decide)

theorem silent_numeral (text : Text) (numeral : Numeral text) : Silent .outside .outside text := by
  obtain ⟨sign, whole, fraction, exponent, signed, digits, part, power, same⟩ := numeral
  have run : ∀ digits : Text, (∀ byte ∈ digits, isDigit byte = true) → Silent .outside .outside digits :=
    fun digits all => silent_calm digits fun byte inside => digit_calm byte (all byte inside)
  have signs : Silent .outside .outside sign := by
    rcases signed with none' | minus
    · rw [none']
      exact silent_nil _
    · rw [minus]
      exact silent_checked _ (by decide)
  have wholes : Silent .outside .outside whole := by
    rcases digits with zero | ⟨first, rest, spelled, digit, _, others⟩
    · rw [zero]
      exact silent_checked _ (by decide)
    · rw [spelled]
      exact run _ (List.forall_mem_cons.mpr ⟨digit, others⟩)
  have fractions : Silent .outside .outside fraction := by
    rcases part with none' | ⟨digits, all, spelled⟩
    · rw [none']
      exact silent_nil _
    · rw [spelled]
      exact silent_cons .outside _ _ _ rfl (run digits all.2)
  have exponents : Silent .outside .outside exponent := by
    rcases power with none' | ⟨mark, sign, digits, marked, signed, all, spelled⟩
    · rw [none']
      exact silent_nil _
    · have first : Silent .outside .outside [mark] := by
        rcases marked with small | large
        · rw [small]
          exact silent_checked _ (by decide)
        · rw [large]
          exact silent_checked _ (by decide)
      have second : Silent .outside .outside sign := by
        rcases signed with none' | plus | minus
        · rw [none']
          exact silent_nil _
        · rw [plus]
          exact silent_checked _ (by decide)
        · rw [minus]
          exact silent_checked _ (by decide)
      rw [spelled]
      exact silent_append _ _ _ _ _ first (silent_append _ _ _ _ _ second (run digits all.2))
  rw [same]
  exact silent_append _ _ _ _ _ (silent_append _ _ _ _ _ (silent_append _ _ _ _ _ signs wholes) fractions) exponents

theorem silent_word (text : Text) (known : text ∈ words) : Silent .outside .outside text := by
  simp only [words, List.mem_cons, List.not_mem_nil, or_false] at known
  rcases known with same | same | same
  all_goals
    rw [same]
    exact silent_checked _ (by decide)

theorem silent_scalar (denotes : Text → Text → Prop) (keeps : ∀ content name, denotes content name → Silent .inside .inside content)
    (text : Text) (plain : CompactJson.Scalar denotes text) : Silent .outside .outside text := by
  rcases plain with known | numeral | ⟨content, name, named, same⟩
  · exact silent_word text known
  · exact silent_numeral text numeral
  · rw [same]
    exact silent_quoted content (keeps content name named)

end Silent

structure Level (text : Text) : Prop where
  ends : ends .outside text = .outside
  even : ∀ depth, height depth (marks .outside text) = depth
  above : ∀ part rest, text = part ++ rest → ∀ depth, depth ≤ height depth (marks .outside part)

section Level

theorem level_unmarked (text : Text) (ended : ends .outside text = .outside) (all : ∀ mark ∈ marks .outside text, mark = .member) :
    Level text := by
  have flat : ∀ list : List Mark, (∀ mark ∈ list, mark = .member) → ∀ depth, height depth list = depth := by
    intro list members depth
    induction list with
    | nil => rfl
    | cons mark rest ih =>
        obtain ⟨first, others⟩ := List.forall_mem_cons.mp members
        rw [first]
        exact ih others
  refine ⟨ended, flat _ all, ?_⟩
  intro part rest split depth
  have inside : ∀ mark ∈ marks .outside part, mark = .member := by
    intro mark found
    apply all
    rw [split, marks_append]
    exact List.mem_append_left _ found
  exact Nat.le_of_eq (flat _ inside depth).symm

theorem level_silent (text : Text) (silent : Silent .outside .outside text) : Level text := by
  apply level_unmarked text silent.ends
  rw [silent.marks]
  exact List.forall_mem_nil _

theorem level_append (text more : Text) (first : Level text) (second : Level more) : Level (text ++ more) := by
  refine ⟨?_, ?_, ?_⟩
  · rw [ends_append, first.ends, second.ends]
  · intro depth
    rw [marks_append, height_append, first.even, first.ends, second.even]
  · intro part rest split depth
    rcases List.append_eq_append_iff.mp split with ⟨behind, same, later⟩ | ⟨ahead, same, _⟩
    · rw [same, marks_append, height_append, first.even, first.ends]
      exact second.above behind rest later depth
    · exact first.above part ahead same depth

theorem enclosed_above (opener closer : UInt8) (body part rest : Text) (opens : marks .outside [opener] = [.opening])
    (stays : next .outside opener = .outside) (level : Level body) (split : opener :: (body ++ [closer]) = part ++ rest)
    (some' : part ≠ []) (more : rest ≠ []) (depth : Nat) : depth < height depth (marks .outside part) := by
  obtain ⟨first, front, rfl⟩ := List.exists_cons_of_ne_nil some'
  obtain ⟨rfl, inner⟩ := List.cons.inj split
  have inside : ∃ ahead, body = front ++ ahead := by
    rcases List.append_eq_append_iff.mp inner with ⟨behind, same, later⟩ | ⟨ahead, same, _⟩
    · cases behind with
      | nil => exact ⟨[], by rw [same, List.append_nil, List.append_nil]⟩
      | cons byte behind =>
          have size := congrArg List.length later
          have left := List.length_pos_iff.mpr more
          rw [List.length_singleton, List.length_append, List.length_cons] at size
          omega
    · exact ⟨ahead, same⟩
  obtain ⟨ahead, same⟩ := inside
  have opened : mark .outside opener = [.opening] := by
    rw [marks, marks, List.append_nil] at opens
    exact opens
  rw [marks, opened, stays]
  exact level.above front ahead same (depth + 1)

theorem level_enclosed (opener closer : UInt8) (body : Text) (opens : marks .outside [opener] = [.opening])
    (stays : next .outside opener = .outside) (closes : marks .outside [closer] = [.closing]) (stays' : next .outside closer = .outside)
    (level : Level body) : Level (opener :: (body ++ [closer])) := by
  have opened : mark .outside opener = [.opening] := by
    rw [marks, marks, List.append_nil] at opens
    exact opens
  have whole : ∀ depth, height depth (marks .outside (opener :: (body ++ [closer]))) = depth := by
    intro depth
    rw [marks, opened, stays, marks_append, level.ends, closes]
    show height (depth + 1) (marks .outside body ++ [.closing]) = depth
    rw [height_append, level.even]
    rfl
  refine ⟨?_, whole, ?_⟩
  · rw [ends, stays, ends_append, level.ends]
    exact stays'
  · intro part rest split depth
    cases part with
    | nil => exact Nat.le_refl depth
    | cons first front =>
        cases rest with
        | nil =>
            rw [List.append_nil] at split
            rw [← split]
            exact Nat.le_of_eq (whole depth).symm
        | cons byte rest =>
            exact Nat.le_of_lt (enclosed_above opener closer body _ _ opens stays level split (List.cons_ne_nil _ _)
              (List.cons_ne_nil _ _) depth)

theorem level_object (body : Text) (level : Level body) : Level (0x7B :: (body ++ [0x7D])) :=
  level_enclosed 0x7B 0x7D body rfl rfl rfl rfl level

theorem level_array (body : Text) (level : Level body) : Level (0x5B :: (body ++ [0x5D])) :=
  level_enclosed 0x5B 0x5D body rfl rfl rfl rfl level

theorem level_byte (byte : UInt8) (rest : Text) (known : byte = 0x2C ∨ byte = 0x3A) (level : Level rest) : Level (byte :: rest) := by
  have first : Level [byte] := by
    rcases known with comma | colon
    · rw [comma]
      exact level_unmarked _ rfl (by decide)
    · rw [colon]
      exact level_unmarked _ rfl (by decide)
  exact level_append [byte] rest first level

theorem level_spells (denotes : Text → Text → Prop) (keeps : ∀ content name, denotes content name → Silent .inside .inside content)
    (part : CompactJson.Part) (text : Text) (spelled : CompactJson.Spells denotes part text) : Level text := by
  induction spelled with
  | scalar text plain => exact level_silent text (silent_scalar denotes keeps text plain)
  | emptyArray => exact level_array [] (level_silent [] (silent_nil _))
  | array items _ ih => exact level_array items ih
  | emptyObject => exact level_object [] (level_silent [] (silent_nil _))
  | object members _ ih => exact level_object members ih
  | lastItem item _ ih => exact ih
  | moreItems item rest _ _ ih ih' => exact level_append item _ ih (level_byte 0x2C rest (.inl rfl) ih')
  | lastMember seen key name item named _ _ ih =>
      exact level_append _ _ (level_silent _ (silent_quoted key (keeps key name named))) (level_byte 0x3A item (.inr rfl) ih)
  | moreMembers seen key name item rest named _ _ _ ih ih' =>
      exact level_append _ _ (level_silent _ (silent_quoted key (keeps key name named)))
        (level_byte 0x3A _ (.inr rfl) (level_append item _ ih (level_byte 0x2C rest (.inl rfl) ih')))

theorem object_prefix (body body' rest : Text) (level : Level body) (level' : Level body')
    (same : 0x7B :: (body' ++ [0x7D]) = 0x7B :: (body ++ [0x7D]) ++ rest) : rest = [] := by
  by_cases more : rest = []
  · exact more
  · have inside := enclosed_above 0x7B 0x7D body' (0x7B :: (body ++ [0x7D])) rest rfl rfl level' same (List.cons_ne_nil _ _) more 0
    rw [(level_object body level).even 0] at inside
    exact absurd inside (Nat.lt_irrefl 0)

end Level

end JsonTally
