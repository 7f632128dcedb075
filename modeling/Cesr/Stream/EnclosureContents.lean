import Cesr.Stream.GroupLimits
import Cesr.Stream.EnclosureScan

set_option autoImplicit false

namespace Cesr.Stream

open Base64 Checks Calls Resume

section Items

-- What an enclosure holds, one item at a time; a group is listed before what it encloses.
inductive EnclosedItem where
  | body (size : Nat)
  | primitive (code : MatterCode)
  | group (depth : Nat) (group : CesrGroup)
deriving DecidableEq, Repr

def EnclosedItem.signatures : EnclosedItem → Nat
  | .body _ => 0
  | .primitive code => if (SignatureCode.tryFrom code).isOk then 1 else 0
  | .group _ framed => framed.signatures

def EnclosedItem.groups : EnclosedItem → Nat
  | .group _ _ => 1
  | _ => 0

def itemSignatures (items : List EnclosedItem) : Nat := (items.map EnclosedItem.signatures).sum

def itemGroups (items : List EnclosedItem) : Nat := (items.map EnclosedItem.groups).sum

def CesrGroup.counters : CesrGroup → List Nat
  | .group kind raw count version => count.val :: kind.declaredEach version count.val raw
  | .frame _ _ _ => []

def EnclosedItem.Fits (limits : FrameLimits) : EnclosedItem → Prop
  | .body size => size ≤ limits.maxBodyBytes
  | .primitive _ => True
  | .group depth framed => (∀ declared ∈ framed.counters, declared ≤ limits.maxGroupElements) ∧
      (framed.enclosed ≠ none → depth + 1 ≤ limits.maxNestingDepth)

-- An embedded body or a standalone primitive at the head of the bytes, and its size.
inductive AtomAt (bytes : Bytes) : EnclosedItem → Nat → Prop where
  | body (first : UInt8) (cold : ColdCode) (size : Nat) (headed : bytes.head? = some first)
      (detected : ColdCode.detect first = .ok cold) (kept : cold ≠ .cesrBase64 ∧ cold ≠ .cesrBinary)
      (declared : JsonVersionHead.eventSize bytes cold = .ok size) (whole : size ≤ bytes.length) : AtomAt bytes (.body size) size
  | primitive (first : UInt8) (code : MatterCode) (size : Nat) (headed : bytes.head? = some first)
      (detected : ColdCode.detect first = .ok .cesrBase64) (coded : MatterCode.fromBase64Stream bytes = .ok code)
      (taken : skipMatter bytes = .ok size) : AtomAt bytes (.primitive code) size

-- What the bytes of an enclosure hold from left to right, the contents of the
-- enclosures inside it in their places, each read with the table its selector
-- names or else with the table around it.
inductive Contents : CesrVersion → Nat → Bytes → List EnclosedItem → Prop where
  | nil (version : CesrVersion) (depth : Nat) : Contents version depth [] []
  | atom (version : CesrVersion) (depth : Nat) (bytes : Bytes) (item : EnclosedItem) (size : Nat) (items : List EnclosedItem)
      (plain : bytes.head? ≠ some 0x2D) (here : AtomAt bytes item size)
      (later : Contents version depth (bytes.drop size) items) : Contents version depth bytes (item :: items)
  | group (version : CesrVersion) (depth : Nat) (bytes : Bytes) (group : CesrGroup) (size : Nat) (items : List EnclosedItem)
      (headed : bytes.head? = some 0x2D) (read : CesrGroup.sizedOf version bytes = .ok (group, size))
      (closed : group.enclosed = none) (later : Contents version depth (bytes.drop size) items) :
      Contents version depth bytes (.group depth group :: items)
  | enclosure (version : CesrVersion) (depth : Nat) (bytes payload : Bytes) (group : CesrGroup) (size : Nat)
      (selected : CesrVersion × Nat) (inner items : List EnclosedItem) (headed : bytes.head? = some 0x2D)
      (read : CesrGroup.sizedOf version bytes = .ok (group, size)) (encloses : group.enclosed = some payload)
      (selects : FrameLimits.enclosedVersion payload version = .ok selected)
      (inside : Contents selected.1 (depth + 1) (payload.drop selected.2) inner)
      (later : Contents version depth (bytes.drop size) items) :
      Contents version depth bytes (.group depth group :: inner ++ items)

end Items

section Turns

variable (limits : FrameLimits)

theorem skip_atom_at (bytes : Bytes) (atom : Nat × Nat) :
    limits.skipEnclosedAtom bytes = .ok atom ↔
      ∃ item, AtomAt bytes item atom.1 ∧ item.Fits limits ∧ atom.2 = item.signatures := by
  cases bytes with
  | nil =>
      refine iff_of_false (by rintro ⟨⟩) ?_
      intro found
      obtain ⟨item, here, _⟩ := found
      cases here with
      | body first cold size headed => cases headed
      | primitive first code size headed => cases headed
  | cons first rest =>
      have heads : ∀ other, (first :: rest).head? = some other → other = first := fun other same => (Option.some.inj same).symm
      cases detected : ColdCode.detect first with
      | error error =>
          refine iff_of_false ?_ ?_
          · simp only [FrameLimits.skipEnclosedAtom, List.head?_cons, detected]
            rintro ⟨⟩
          · intro found
            obtain ⟨item, here, _⟩ := found
            cases here with
            | body other cold size headed detected' =>
                rw [heads other headed, detected] at detected'
                cases detected'
            | primitive other code size headed detected' =>
                rw [heads other headed, detected] at detected'
                cases detected'
      | ok cold =>
          by_cases base64 : cold = .cesrBase64
          · rw [base64] at detected
            rw [skip_primitive limits first rest detected]
            simp only [bind_ok, pure_ok, map_error_ok]
            apply Iff.intro
            · intro found
              obtain ⟨code, coded, size, taken, same⟩ := found
              rw [← same]
              exact ⟨.primitive code, .primitive first code size rfl detected coded taken, trivial, rfl⟩
            · intro found
              obtain ⟨item, here, _, counted⟩ := found
              generalize long : atom.1 = size at here
              cases here with
              | body other cold' size headed detected' kept =>
                  rw [heads other headed, detected] at detected'
                  cases detected'
                  exact absurd rfl kept.1
              | primitive other code size headed detected' coded taken =>
                  exact ⟨code, coded, size, taken, Prod.ext long.symm counted.symm⟩
          · by_cases binary : cold = .cesrBinary
            · rw [binary] at detected
              refine iff_of_false ?_ ?_
              · simp only [FrameLimits.skipEnclosedAtom, List.head?_cons, detected, ok_bind]
                rintro ⟨⟩
              · intro found
                obtain ⟨item, here, _⟩ := found
                cases here with
                | body other cold' size headed detected' kept =>
                    rw [heads other headed, detected] at detected'
                    cases detected'
                    exact kept.2 rfl
                | primitive other code size headed detected' =>
                    rw [heads other headed, detected] at detected'
                    cases detected'
            · rw [skip_body limits first rest cold detected ⟨base64, binary⟩]
              simp only [bind_ok, pure_ok, reject_if_ok, exists_done, Nat.not_lt]
              apply Iff.intro
              · intro found
                obtain ⟨size, declared, small, whole, same⟩ := found
                rw [← same]
                exact ⟨.body size, .body first cold size rfl detected ⟨base64, binary⟩ declared whole, small, rfl⟩
              · intro found
                obtain ⟨item, here, small, counted⟩ := found
                generalize long : atom.1 = size at here
                cases here with
                | body other cold' size headed detected' kept declared whole =>
                    rw [heads other headed, detected] at detected'
                    cases detected'
                    exact ⟨size, declared, small, whole, Prod.ext long.symm counted.symm⟩
                | primitive other code size headed detected' =>
                    rw [heads other headed, detected] at detected'
                    cases detected'
                    exact absurd rfl base64

theorem check_elements_counted (version : CesrVersion) (bytes : Bytes) (cursor : GroupFrameCursor) (group : CesrGroup)
    (size : Nat) (fresh : GroupFrameCursor.newOf version bytes = .ok cursor)
    (read : CesrGroup.sizedOf version bytes = .ok (group, size)) :
    (limits.checkElements cursor = .ok () ∧ ∀ declared ∈ group.declaredEach, declared ≤ limits.maxGroupElements) ↔
      ∀ declared ∈ group.counters, declared ≤ limits.maxGroupElements := by
  have frames := new_of_frames version bytes cursor group size fresh read
  unfold FrameLimits.checkElements GroupFrameCursor.elementCount
  cases group with
  | group kind raw count table =>
      rw [frames.1, frames.2.1]
      simp only [Option.map_some, reject_if_ok, Nat.not_lt, CesrGroup.counters, CesrGroup.declaredEach, List.forall_mem_cons]
  | frame kind payload table =>
      rw [frames.1]
      simp only [Option.map_none, CesrGroup.counters, CesrGroup.declaredEach, true_and]

inductive TurnTakes (level : EnclosureLevel) (scan : EnclosureScan) : EnclosureScan → Prop where
  | ended (done : level.cursor = level.bytes.length) : TurnTakes level scan scan
  | atom (item : EnclosedItem) (size : Nat) (more : level.cursor < level.bytes.length)
      (plain : (level.bytes.drop level.cursor).head? ≠ some 0x2D) (here : AtomAt (level.bytes.drop level.cursor) item size)
      (fits : item.Fits limits) (few : scan.signatures + item.signatures ≤ limits.maxSignatures) :
      TurnTakes level scan
        { scan with
          stack := { level with cursor := level.cursor + size } :: scan.stack
          signatures := scan.signatures + item.signatures }
  | group (group : CesrGroup) (size : Nat) (more : level.cursor < level.bytes.length)
      (headed : (level.bytes.drop level.cursor).head? = some 0x2D)
      (read : CesrGroup.sizedOf level.version (level.bytes.drop level.cursor) = .ok (group, size))
      (closed : group.enclosed = none) (fits : ∀ declared ∈ group.counters, declared ≤ limits.maxGroupElements)
      (room : scan.nestedGroups + 1 ≤ limits.maxNestedGroups)
      (few : group.signatures ≤ limits.maxSignatures - scan.signatures) :
      TurnTakes level scan
        ⟨{ level with cursor := level.cursor + size } :: scan.stack, scan.nestedGroups + 1, scan.signatures + group.signatures⟩
  | enclosure (group : CesrGroup) (size : Nat) (payload : Bytes) (selected : CesrVersion × Nat)
      (more : level.cursor < level.bytes.length) (headed : (level.bytes.drop level.cursor).head? = some 0x2D)
      (read : CesrGroup.sizedOf level.version (level.bytes.drop level.cursor) = .ok (group, size))
      (encloses : group.enclosed = some payload) (fits : ∀ declared ∈ group.counters, declared ≤ limits.maxGroupElements)
      (room : scan.nestedGroups + 1 ≤ limits.maxNestedGroups)
      (few : group.signatures ≤ limits.maxSignatures - scan.signatures)
      (shallow : level.depth + 1 ≤ limits.maxNestingDepth)
      (selects : FrameLimits.enclosedVersion payload level.version = .ok selected) :
      TurnTakes level scan
        ⟨⟨payload, selected.2, level.depth + 1, selected.1⟩ :: { level with cursor := level.cursor + size } :: scan.stack,
          scan.nestedGroups + 1, scan.signatures + group.signatures⟩

theorem scan_group_takes (level : EnclosureLevel) (scan next : EnclosureScan) (more : level.cursor < level.bytes.length)
    (headed : (level.bytes.drop level.cursor).head? = some 0x2D) :
    limits.scanGroup level (level.bytes.drop level.cursor) scan = .ok next ↔ TurnTakes limits level scan next := by
  generalize same : level.bytes.drop level.cursor = tail at headed
  simp only [FrameLimits.scanGroup, FrameLimits.enterNestedGroup, bind_ok, map_error_ok, reject_if_ok, exists_done, pure_ok,
    Nat.not_lt]
  apply Iff.intro
  · intro turned
    obtain ⟨nestedGroups, ⟨room, counted⟩, fresh, begun, allowed, stop, ran, inner, enclosing, turned⟩ := turned
    generalize answered : exec (GroupFrameCursor.advanceLimited (noLimit tail) limits.maxGroupElements
      (limits.maxSignatures - scan.signatures) tail) fresh = answer at ran enclosing turned
    obtain ⟨result, final⟩ := answer
    rw [show result = .ok stop from ran] at answered
    obtain ⟨group, read, _, holds⟩ := (group_limited (noLimit tail) limits.maxGroupElements
      (limits.maxSignatures - scan.signatures) level.version tail fresh stop begun).mp ⟨final, answered⟩
    obtain ⟨group', read', framed⟩ := limited_framed _ _ _ level.version tail fresh final stop begun answered
    rw [read] at read'
    cases read'
    have fits := (check_elements_counted limits level.version tail fresh group stop begun read).mp ⟨allowed, holds.nested⟩
    have inner' : inner = group.enclosed := Except.ok.inj (enclosing.symm.trans framed.payload)
    rw [← same] at headed read
    rw [← counted] at turned
    cases encloses : group.enclosed with
    | none =>
        rw [inner', encloses, pure_ok] at turned
        rw [← turned, framed.signatures]
        exact .group group stop more headed read encloses fits room holds.signatures
    | some payload =>
        rw [inner', encloses] at turned
        simp only [FrameLimits.scanInner, bind_ok, reject_if_ok, exists_done, pure_ok, Nat.not_lt] at turned
        obtain ⟨shallow, selected, selects, turned⟩ := turned
        rw [← turned, framed.signatures]
        exact .enclosure group stop payload selected more headed read encloses fits room holds.signatures shallow selects
  · intro takes
    have begin' : ∀ group size, CesrGroup.sizedOf level.version tail = .ok (group, size) →
        (∀ declared ∈ group.counters, declared ≤ limits.maxGroupElements) →
        group.signatures ≤ limits.maxSignatures - scan.signatures →
        ∃ fresh final, GroupFrameCursor.newOf level.version tail = .ok fresh ∧ limits.checkElements fresh = .ok () ∧
          exec (GroupFrameCursor.advanceLimited (noLimit tail) limits.maxGroupElements
            (limits.maxSignatures - scan.signatures) tail) fresh = (.ok size, final) ∧
          final.enclosingPayload tail = .ok group.enclosed ∧ final.signatureTotal = group.signatures := by
      intro group size read fits few
      obtain ⟨fresh, begun⟩ := sized_of_head level.version tail (group, size) read
      have reach : size ≤ tail.length := (sized_of_reads level.version).within tail _ read
      obtain ⟨allowed, nested⟩ := (check_elements_counted limits level.version tail fresh group size begun read).mpr fits
      obtain ⟨final, ran⟩ := (group_limited (noLimit tail) limits.maxGroupElements (limits.maxSignatures - scan.signatures)
        level.version tail fresh size begun).mpr ⟨group, read, by unfold noLimit; omega, nested, few⟩
      obtain ⟨group', read', framed⟩ := limited_framed _ _ _ level.version tail fresh final size begun ran
      rw [read] at read'
      cases read'
      exact ⟨fresh, final, begun, allowed, ran, framed.payload, framed.signatures⟩
    cases takes with
    | ended done => exact absurd done (Nat.ne_of_lt more)
    | atom item size _ plain => exact absurd (by rw [same]; exact headed) plain
    | group group size _ _ read closed fits room few =>
        rw [same] at read
        obtain ⟨fresh, final, begun, allowed, ran, enclosing, counted⟩ := begin' group size read fits few
        refine ⟨_, ⟨room, rfl⟩, fresh, begun, allowed, size, by rw [ran], none, by rw [ran]; rw [enclosing, closed], ?_⟩
        rw [ran, counted]
        rfl
    | enclosure group size payload selected _ _ read encloses fits room few shallow selects =>
        rw [same] at read
        obtain ⟨fresh, final, begun, allowed, ran, enclosing, counted⟩ := begin' group size read fits few
        refine ⟨_, ⟨room, rfl⟩, fresh, begun, allowed, size, by rw [ran], some payload,
          by rw [ran]; rw [enclosing, encloses], ?_⟩
        rw [ran, counted]
        simp only [FrameLimits.scanInner, bind_ok, reject_if_ok, exists_done, pure_ok, Nat.not_lt]
        exact ⟨shallow, selected, selects, rfl⟩

theorem scan_turn_takes (level : EnclosureLevel) (scan next : EnclosureScan) :
    limits.scanTurn level scan = .ok next ↔ TurnTakes limits level scan next := by
  unfold FrameLimits.scanTurn
  by_cases done : level.cursor = level.bytes.length
  · rw [if_pos done, Except.ok.injEq]
    apply Iff.intro
    · intro same
      rw [← same]
      exact .ended done
    · intro takes
      cases takes with
      | ended => rfl
      | _ => omega
  · rw [if_neg done]
    by_cases beyond : level.bytes.length < level.cursor
    · rw [rejectIf, if_pos beyond]
      refine iff_of_false (by rintro ⟨⟩) ?_
      intro takes
      cases takes <;> omega
    · have more : level.cursor < level.bytes.length := by omega
      rw [rejectIf, if_neg beyond, ok_bind]
      dsimp only
      by_cases headed : (level.bytes.drop level.cursor).head? = some 0x2D
      · rw [if_neg (not_not_intro headed)]
        exact scan_group_takes limits level scan next more headed
      · rw [if_pos headed]
        simp only [FrameLimits.scanAtom, bind_ok, skip_atom_at, reject_if_ok, exists_done, pure_ok, Nat.not_lt]
        apply Iff.intro
        · intro turned
          obtain ⟨atom, ⟨item, here, fits, counted⟩, few, same⟩ := turned
          rw [counted] at few same
          rw [← same]
          exact .atom item atom.1 more headed here fits few
        · intro takes
          cases takes with
          | ended done' => exact absurd done' done
          | atom item size _ _ here fits few => exact ⟨(size, item.signatures), ⟨item, here, fits, rfl⟩, few, rfl⟩
          | group _ _ _ headed' => exact absurd headed' headed
          | enclosure _ _ _ _ _ headed' => exact absurd headed' headed

end Turns

section Runs

variable (limits : FrameLimits)

inductive ContentsAll : List EnclosureLevel → List EnclosedItem → Prop where
  | nil : ContentsAll [] []
  | cons (level : EnclosureLevel) (below : List EnclosureLevel) (first later : List EnclosedItem)
      (within : level.cursor ≤ level.bytes.length)
      (here : Contents level.version level.depth (level.bytes.drop level.cursor) first) (others : ContentsAll below later) :
      ContentsAll (level :: below) (first ++ later)

-- The items of a stretch fit the limits by themselves and, with what was counted before, together.
structure Allowed (limits : FrameLimits) (groups signatures : Nat) (items : List EnclosedItem) : Prop where
  each : ∀ item ∈ items, item.Fits limits
  groups : groups + itemGroups items ≤ limits.maxNestedGroups
  signatures : signatures + itemSignatures items ≤ limits.maxSignatures

theorem item_groups_cons (item : EnclosedItem) (items : List EnclosedItem) :
    itemGroups (item :: items) = item.groups + itemGroups items := by
  rw [itemGroups, itemGroups, List.map_cons, List.sum_cons]

theorem item_signatures_cons (item : EnclosedItem) (items : List EnclosedItem) :
    itemSignatures (item :: items) = item.signatures + itemSignatures items := by
  rw [itemSignatures, itemSignatures, List.map_cons, List.sum_cons]

theorem allowed_cons (groups signatures : Nat) (item : EnclosedItem) (items : List EnclosedItem) :
    Allowed limits groups signatures (item :: items) ↔
      item.Fits limits ∧ Allowed limits (groups + item.groups) (signatures + item.signatures) items := by
  apply Iff.intro
  · intro allowed
    have fits := List.forall_mem_cons.mp allowed.each
    have room := allowed.groups
    have few := allowed.signatures
    rw [item_groups_cons] at room
    rw [item_signatures_cons] at few
    exact ⟨fits.1, fits.2, by omega, by omega⟩
  · intro allowed
    obtain ⟨fits, each, room, few⟩ := allowed
    refine ⟨List.forall_mem_cons.mpr ⟨fits, each⟩, ?_, ?_⟩
    · rw [item_groups_cons]
      omega
    · rw [item_signatures_cons]
      omega

theorem sized_group_within (version : CesrVersion) (bytes : Bytes) (cursor : Nat) (group : CesrGroup) (size : Nat)
    (more : cursor < bytes.length) (read : CesrGroup.sizedOf version (bytes.drop cursor) = .ok (group, size)) :
    cursor + size ≤ bytes.length := by
  have reach : size ≤ (bytes.drop cursor).length := (sized_of_reads version).within _ _ read
  rw [List.length_drop] at reach
  omega

theorem atom_at_within (bytes : Bytes) (item : EnclosedItem) (size : Nat) (here : AtomAt bytes item size) :
    size ≤ bytes.length := by
  cases here with
  | body first cold _ headed detected kept declared whole => exact whole
  | primitive first code _ headed detected coded taken => exact ((skip_matter_ok _ size).mp taken).2

theorem enclosed_version_within (payload : Bytes) (version : CesrVersion) (selected : CesrVersion × Nat)
    (selects : FrameLimits.enclosedVersion payload version = .ok selected) : selected.2 ≤ payload.length := by
  rw [FrameLimits.enclosedVersion, map_error_ok] at selects
  unfold checkGenusVersionOffset at selects
  simp only [bind_ok, reject_if_ok, exists_done] at selects
  obtain ⟨_, selects⟩ := selects
  by_cases few : payload.length < 8
  · rw [if_pos few] at selects
    cases selects
    exact Nat.zero_le _
  · rw [if_neg few] at selects
    by_cases marked : payload.take 2 = asBytes "-_"
    · rw [if_pos marked] at selects
      split at selects
      · simp only [bind_ok, pure_ok] at selects
        obtain ⟨version', _, same⟩ := selects
        rw [← same]
        show 8 ≤ payload.length
        omega
      · cases selects
        exact Nat.zero_le _
    · rw [if_neg marked] at selects
      cases selects
      exact Nat.zero_le _

theorem turn_contents (level : EnclosureLevel) (below : List EnclosureLevel) (groups signatures : Nat)
    (next : EnclosureScan) (takes : TurnTakes limits level ⟨below, groups, signatures⟩ next) (items : List EnclosedItem)
    (later : ContentsAll next.stack items) (allowed : Allowed limits next.nestedGroups next.signatures items) :
    ∃ whole, ContentsAll (level :: below) whole ∧ Allowed limits groups signatures whole ∧
      groups + itemGroups whole = next.nestedGroups + itemGroups items ∧
      signatures + itemSignatures whole = next.signatures + itemSignatures items := by
  cases takes with
  | ended done =>
      refine ⟨items, ?_, allowed, rfl, rfl⟩
      have empty : level.bytes.drop level.cursor = [] := List.drop_eq_nil_of_le (Nat.le_of_eq done.symm)
      exact .cons level below [] items (Nat.le_of_eq done) (by rw [empty]; exact .nil _ _) later
  | atom item size more plain here fits few =>
      cases later with
      | cons _ _ first others within rest suspended =>
          have whole := Contents.atom level.version level.depth _ item size first plain here (by rw [List.drop_drop]; exact rest)
          refine ⟨item :: first ++ others, .cons level below _ _ (Nat.le_of_lt more) whole suspended, ?_, ?_, ?_⟩
          · refine (allowed_cons limits groups signatures item (first ++ others)).mpr ⟨fits, ?_⟩
            have none' : item.groups = 0 := by cases here <;> rfl
            rw [none']
            exact allowed
          · have none' : item.groups = 0 := by cases here <;> rfl
            rw [List.cons_append, item_groups_cons, none', Nat.zero_add]
          · rw [List.cons_append, item_signatures_cons]
            exact (Nat.add_assoc _ _ _).symm
  | group group size more headed read closed fits room few =>
      cases later with
      | cons _ _ first others within rest suspended =>
          have whole := Contents.group level.version level.depth _ group size first headed read closed
            (by rw [List.drop_drop]; exact rest)
          refine ⟨.group level.depth group :: first ++ others, .cons level below _ _ (Nat.le_of_lt more) whole suspended, ?_, ?_, ?_⟩
          · exact (allowed_cons limits groups signatures _ _).mpr ⟨⟨fits, fun encloses => absurd closed encloses⟩, allowed⟩
          · rw [List.cons_append, item_groups_cons]
            exact (Nat.add_assoc _ _ _).symm
          · rw [List.cons_append, item_signatures_cons]
            exact (Nat.add_assoc _ _ _).symm
  | enclosure group size payload selected more headed read encloses fits room few shallow selects =>
      cases later with
      | cons _ _ inner others within inside suspended =>
          cases suspended with
          | cons _ _ first others within' rest suspended =>
              have whole := Contents.enclosure level.version level.depth _ payload group size selected inner first headed read encloses
                selects inside (by rw [List.drop_drop]; exact rest)
              refine ⟨.group level.depth group :: inner ++ first ++ others, .cons level below _ _ (Nat.le_of_lt more) whole suspended,
                ?_, ?_, ?_⟩
              · rw [List.append_assoc, List.cons_append]
                exact (allowed_cons limits groups signatures _ _).mpr ⟨⟨fits, fun _ => shallow⟩, allowed⟩
              · rw [List.append_assoc, List.cons_append, item_groups_cons]
                exact (Nat.add_assoc _ _ _).symm
              · rw [List.append_assoc, List.cons_append, item_signatures_cons]
                exact (Nat.add_assoc _ _ _).symm

theorem contents_turn (level : EnclosureLevel) (below : List EnclosureLevel) (groups signatures : Nat)
    (whole : List EnclosedItem) (contents : ContentsAll (level :: below) whole) (allowed : Allowed limits groups signatures whole) :
    ∃ next items, TurnTakes limits level ⟨below, groups, signatures⟩ next ∧ ContentsAll next.stack items ∧
      Allowed limits next.nestedGroups next.signatures items ∧
      groups + itemGroups whole = next.nestedGroups + itemGroups items ∧
      signatures + itemSignatures whole = next.signatures + itemSignatures items := by
  obtain ⟨first, later, same, within, here, suspended⟩ : ∃ first later, whole = first ++ later ∧
      level.cursor ≤ level.bytes.length ∧ Contents level.version level.depth (level.bytes.drop level.cursor) first ∧
      ContentsAll below later := by
    cases contents with
    | cons _ _ first later within here suspended => exact ⟨first, later, rfl, within, here, suspended⟩
  rw [same] at allowed ⊢
  generalize place : level.bytes.drop level.cursor = bytes at here
  generalize table : level.version = version at here
  generalize deep : level.depth = depth at here
  have some' : bytes ≠ [] → level.cursor < level.bytes.length := by
    intro more
    rw [← place] at more
    exact Nat.lt_of_not_le (fun done => more (List.drop_eq_nil_of_le done))
  have headed' : ∀ byte, bytes.head? = some byte → bytes ≠ [] := by
    intro byte headed empty
    rw [empty] at headed
    cases headed
  cases here with
  | nil =>
      have done : level.cursor = level.bytes.length := Nat.le_antisymm within (List.drop_eq_nil_iff.mp place)
      exact ⟨_, later, .ended done, suspended, allowed, rfl, rfl⟩
  | atom _ _ _ item size items plain here rest =>
      rw [List.cons_append] at allowed ⊢
      obtain ⟨fits, allowed⟩ := (allowed_cons limits groups signatures _ _).mp allowed
      have none' : item.groups = 0 := by cases here <;> rfl
      have more : bytes ≠ [] := by
        cases here with
        | body first cold _ headed => exact headed' first headed
        | primitive first code _ headed => exact headed' first headed
      have reach := atom_at_within bytes item size here
      have few := Nat.le_trans (Nat.le_add_right _ _) allowed.signatures
      rw [← place, List.drop_drop] at rest
      rw [← place, List.length_drop] at reach
      have inside := some' more
      rw [← table, ← deep] at rest
      rw [none'] at allowed
      refine ⟨_, items ++ later, .atom item size inside (by rw [place]; exact plain) (by rw [place]; exact here) fits few,
        .cons _ below items later (show level.cursor + size ≤ level.bytes.length by omega) rest suspended, allowed, ?_, ?_⟩
      · rw [item_groups_cons, none', Nat.zero_add]
      · rw [item_signatures_cons]
        exact (Nat.add_assoc _ _ _).symm
  | group _ _ _ group size items headed read closed rest =>
      rw [List.cons_append] at allowed ⊢
      obtain ⟨fits, allowed⟩ := (allowed_cons limits groups signatures _ _).mp allowed
      have inside := some' (headed' _ headed)
      have room := Nat.le_trans (Nat.le_add_right _ _) allowed.groups
      have few := Nat.le_trans (Nat.le_add_right _ _) allowed.signatures
      have few' : group.signatures ≤ limits.maxSignatures - signatures := by
        have total : signatures + group.signatures ≤ limits.maxSignatures := few
        omega
      rw [← place, ← table] at read
      have reach := sized_group_within level.version level.bytes level.cursor group size inside read
      rw [← place, List.drop_drop, ← table, ← deep] at rest
      rw [← deep]
      exact ⟨_, items ++ later, .group group size inside (by rw [place]; exact headed) read closed fits.1 room few',
        .cons _ below items later reach rest suspended, allowed, by rw [item_groups_cons]; exact (Nat.add_assoc _ _ _).symm,
        by rw [item_signatures_cons]; exact (Nat.add_assoc _ _ _).symm⟩
  | enclosure _ _ _ payload group size selected inner items headed read encloses selects inside' rest =>
      rw [List.append_assoc, List.cons_append] at allowed ⊢
      obtain ⟨fits, allowed⟩ := (allowed_cons limits groups signatures _ _).mp allowed
      have inside := some' (headed' _ headed)
      have room := Nat.le_trans (Nat.le_add_right _ _) allowed.groups
      have few := Nat.le_trans (Nat.le_add_right _ _) allowed.signatures
      have few' : group.signatures ≤ limits.maxSignatures - signatures := by
        have total : signatures + group.signatures ≤ limits.maxSignatures := few
        omega
      have shallow := fits.2 (by rw [encloses]; exact Option.some_ne_none payload)
      rw [← place, ← table] at read
      have reach := sized_group_within level.version level.bytes level.cursor group size inside read
      rw [← place, List.drop_drop, ← table, ← deep] at rest
      rw [← table] at selects
      rw [← deep] at shallow inside' ⊢
      exact ⟨_, inner ++ (items ++ later), .enclosure group size payload selected inside (by rw [place]; exact headed) read
        encloses fits.1 room few' shallow selects, .cons _ _ inner _ (enclosed_version_within payload level.version selected selects)
          inside' (.cons _ below items later reach rest suspended), allowed,
        by rw [item_groups_cons]; exact (Nat.add_assoc _ _ _).symm, by rw [item_signatures_cons]; exact (Nat.add_assoc _ _ _).symm⟩

theorem scan_turns_contents (turns : Nat) (scan final : EnclosureScan) (enough : scan.left ≤ turns)
    (room : scan.nestedGroups ≤ limits.maxNestedGroups) (few : scan.signatures ≤ limits.maxSignatures) :
    limits.scanTurns turns scan = .ok final ↔
      ∃ items, ContentsAll scan.stack items ∧ Allowed limits scan.nestedGroups scan.signatures items ∧
        final = ⟨[], scan.nestedGroups + itemGroups items, scan.signatures + itemSignatures items⟩ := by
  induction turns generalizing scan with
  | zero =>
      obtain ⟨stack, groups, signatures⟩ := scan
      cases stack with
      | cons level below =>
          rw [scan_left_push, EnclosureLevel.left] at enough
          omega
      | nil =>
          rw [FrameLimits.scanTurns, Except.ok.injEq]
          apply Iff.intro
          · intro same
            exact ⟨[], .nil, ⟨fun item none' => absurd none' List.not_mem_nil, room, few⟩, same.symm⟩
          · intro found
            obtain ⟨items, contents, _, same⟩ := found
            cases contents
            exact same.symm
  | succ turns ih =>
      obtain ⟨stack, groups, signatures⟩ := scan
      cases stack with
      | nil =>
          rw [scan_turns_nil limits _ _ rfl, Except.ok.injEq]
          apply Iff.intro
          · intro same
            exact ⟨[], .nil, ⟨fun item none' => absurd none' List.not_mem_nil, room, few⟩, same.symm⟩
          · intro found
            obtain ⟨items, contents, _, same⟩ := found
            cases contents
            exact same.symm
      | cons level below =>
          rw [scan_turns_cons limits _ _ level below rfl]
          simp only [bind_ok]
          have fewer : ∀ next, TurnTakes limits level ⟨below, groups, signatures⟩ next → next.left ≤ turns ∧
              next.nestedGroups ≤ limits.maxNestedGroups ∧ next.signatures ≤ limits.maxSignatures := by
            intro next takes
            have less := scan_turn_decreases limits level _ next ((scan_turn_takes limits level _ next).mpr takes)
            rw [← scan_left_push] at less
            refine ⟨by omega, ?_⟩
            dsimp only at room few
            cases takes with
            | ended => exact ⟨room, few⟩
            | atom item size more plain here fits few' => exact ⟨room, few'⟩
            | group group size more headed read closed fits room' few' =>
                dsimp only at few' ⊢
                exact ⟨room', by omega⟩
            | enclosure group size payload selected more headed read encloses fits room' few' shallow selects =>
                dsimp only at few' ⊢
                exact ⟨room', by omega⟩
          apply Iff.intro
          · intro found
            obtain ⟨next, turned, later⟩ := found
            have takes := (scan_turn_takes limits level _ next).mp turned
            obtain ⟨enough', room', few'⟩ := fewer next takes
            obtain ⟨items, contents, allowed, same⟩ := (ih next enough' room' few').mp later
            obtain ⟨whole, all, allowed', counted, counted'⟩ :=
              turn_contents limits level below groups signatures next takes items contents allowed
            exact ⟨whole, all, allowed', by rw [same, counted, counted']⟩
          · intro found
            obtain ⟨whole, contents, allowed, same⟩ := found
            obtain ⟨next, items, takes, later, allowed', counted, counted'⟩ :=
              contents_turn limits level below groups signatures whole contents allowed
            obtain ⟨enough', room', few'⟩ := fewer next takes
            refine ⟨next, (scan_turn_takes limits level _ next).mpr takes, ?_⟩
            exact (ih next enough' room' few').mpr ⟨items, later, allowed', by rw [same, counted, counted']⟩

def EnclosureHolds (version : CesrVersion) (payload : Bytes) (items : List EnclosedItem) : Prop :=
  ∃ selected, FrameLimits.enclosedVersion payload version = .ok selected ∧
    Contents selected.1 1 (payload.drop selected.2) items

theorem scan_enclosure_ok (payload : Bytes) (prior : Nat) (version : CesrVersion) (nested : Nat)
    (few : prior ≤ limits.maxSignatures) :
    limits.scanEnclosure payload prior version = .ok nested ↔
      1 ≤ limits.maxNestingDepth ∧ ∃ items, EnclosureHolds version payload items ∧ Allowed limits 0 prior items ∧
        nested = itemSignatures items := by
  unfold FrameLimits.scanEnclosure EnclosureHolds
  simp only [bind_ok, reject_if_ok, exists_done, pure_ok]
  refine and_congr (by omega) ?_
  have walked := fun selected : CesrVersion × Nat => scan_turns_contents limits (enclosureStart payload selected prior).left
    (enclosureStart payload selected prior)
  apply Iff.intro
  · intro found
    obtain ⟨selected, selects, final, ran, same⟩ := found
    obtain ⟨items, contents, allowed, same'⟩ := (walked selected final (Nat.le_refl _) (Nat.zero_le _) few).mp ran
    cases contents with
    | cons _ _ first later within here suspended =>
        cases suspended
        rw [List.append_nil] at allowed same'
        refine ⟨first, ⟨selected, selects, here⟩, allowed, ?_⟩
        rw [← same, same']
        exact Nat.add_sub_cancel_left prior (itemSignatures first)
  · intro found
    obtain ⟨items, ⟨selected, selects, here⟩, allowed, same⟩ := found
    have within := enclosed_version_within payload version selected selects
    have contents := ContentsAll.cons ⟨payload, selected.2, 1, selected.1⟩ [] items [] within here .nil
    rw [List.append_nil] at contents
    refine ⟨selected, selects, _, (walked selected _ (Nat.le_refl _) (Nat.zero_le _) few).mpr ⟨items, contents, allowed, rfl⟩, ?_⟩
    rw [same]
    exact Nat.add_sub_cancel_left prior (itemSignatures items)

end Runs

end Cesr.Stream
