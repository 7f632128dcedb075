import Cesr.Stream.Encode
import Cesr.Stream.Unwrap

set_option autoImplicit false

namespace Cesr.Stream

open Sextets Base64 Checks Calls Resume Descent Faults

-- Collecting an iterator into a result: all its groups, or its error.
inductive UnwrapGeneric.Collects : UnwrapGeneric → Except ParseError (List CesrGroup) → Prop where
  | ended (state : UnwrapGeneric) (none' : state.next.1 = none) : UnwrapGeneric.Collects state (.ok [])
  | failed (state : UnwrapGeneric) (error : ParseError) (given : state.next.1 = some (.error error)) :
      UnwrapGeneric.Collects state (.error error)
  | took (state : UnwrapGeneric) (group : CesrGroup) (result : Except ParseError (List CesrGroup))
      (given : state.next.1 = some (.ok group)) (later : UnwrapGeneric.Collects state.next.2 result) :
      UnwrapGeneric.Collects state (result.map fun groups => group :: groups)

-- A counter of the table that heads a generic group, small or big.
inductive GenericCounter : CesrVersion → U32 → Bytes → Prop where
  | v1 (code : CounterCodeV1) (count : U32) (header : Bytes) (generic : shapeV1 code = .quadlets .generic)
      (written : exec (encodeCountIntoV1 code count) [] = (.ok (), header)) : GenericCounter .v1 count header
  | v2 (code : CounterCodeV2) (count : U32) (header : Bytes) (generic : shapeV2 code = .quadlets .generic)
      (written : exec (encodeCountIntoV2 code count) [] = (.ok (), header)) : GenericCounter .v2 count header

-- What stands at the head of a payload that a genus version is looked for in.
def HeadsSelector (payload : Bytes) : Prop :=
  payload.take 2 = asBytes "-_" ∧
    (payload.length < 8 ∨ ∃ count, readCounterV2 payload = .ok (.keriAcdcGenusVersion, count))

-- The bytes at the head of the payload that unwrapping it passes over.
def unwrapPasses (version : CesrVersion) (payload : Bytes) : Nat :=
  payload.length - (unwrapGeneric payload version).currentData.length

-- The bytes at the head of the payload that the framer's scan passes over, if it goes on at all.
def framerPasses (version : CesrVersion) (payload : Bytes) : Nat :=
  match FrameLimits.enclosedVersion payload version with
  | .ok selected => selected.2
  | .error _ => 0

section Collecting

def collected (stretch : List CesrGroup × Option ParseError) : Except ParseError (List CesrGroup) :=
  match stretch.2 with
  | none => .ok stretch.1
  | some error => .error error

theorem collects_iff (groups : List CesrGroup) (fault : Option ParseError) (state : UnwrapGeneric)
    (result : Except ParseError (List CesrGroup))
    (left : items (unwrapWalk.descendAll state.levels) = items (groups, fault)) :
    state.Collects result ↔ result = collected (groups, fault) := by
  obtain ⟨given, behind⟩ := next_descends state
  rw [left] at given behind
  induction groups generalizing state result with
  | nil =>
      cases fault with
      | none =>
          apply Iff.intro
          · intro collects
            cases collects with
            | ended _ _ => rfl
            | failed _ error found =>
                rw [given] at found
                cases found
            | took _ group later found _ =>
                rw [given] at found
                cases found
          · intro same
            rw [same]
            exact .ended state given
      | some error =>
          apply Iff.intro
          · intro collects
            cases collects with
            | ended _ found =>
                rw [given] at found
                cases found
            | failed _ error' found =>
                rw [given] at found
                cases found
                rfl
            | took _ group later found _ =>
                rw [given] at found
                cases found
          · intro same
            rw [same]
            exact .failed state error given
  | cons group groups ih =>
      obtain ⟨given', behind'⟩ := next_descends state.next.2
      rw [behind] at given' behind'
      have rest := fun result => ih state.next.2 result behind given' behind'
      have first : collected (group :: groups, fault) = (collected (groups, fault)).map fun others => group :: others := by
        cases fault <;> rfl
      apply Iff.intro
      · intro collects
        cases collects with
        | ended _ found =>
            rw [given] at found
            cases found
        | failed _ error found =>
            rw [given] at found
            cases found
        | took _ group' later found collects =>
            rw [given] at found
            cases found
            rw [first, (rest later).mp collects]
      · intro same
        rw [same, first]
        exact .took state group _ given ((rest _).mpr rfl)

theorem unwrap_collects (version : CesrVersion) (payload : Bytes) (result : Except ParseError (List CesrGroup)) :
    (unwrapGeneric payload version).Collects result ↔ result = collected (flatten version payload) :=
  collects_iff _ _ _ result (congrArg items (start_levels payload version))

theorem collects_same (version : CesrVersion) (left right : Bytes) :
    (∀ result, (unwrapGeneric left version).Collects result ↔ (unwrapGeneric right version).Collects result) ↔
      collected (flatten version left) = collected (flatten version right) := by
  simp only [unwrap_collects]
  apply Iff.intro
  · intro same
    exact (same _).mp rfl
  · intro same result
    rw [same]

end Collecting

section Heads

theorem generic_counter_reads (version : CesrVersion) (count : U32) (header payload : Bytes)
    (counter : GenericCounter version count header) (sized : payload.length = count.val * 4) :
    CesrGroup.parseOf version (header ++ payload) = .ok (.frame .generic payload version, []) := by
  have framed : ∀ size, payloadSized version (.quadlets .generic, size, count) payload =
      .ok (CesrGroup.frame .generic payload version, payload.length) := by
    intro size
    simp only [payloadSized, bind_ok, pure_ok, take_bytes_ok]
    exact ⟨payload.length, ⟨Nat.le_of_eq sized.symm, sized⟩, by rw [List.take_length]⟩
  have read : ∀ hard soft, HeadsAs version (.quadlets .generic) hard soft → count.val < 64 ^ soft →
      header = asBytes hard ++ (digits soft count.val).map urlSafe.char →
        CesrGroup.parseOf version (header ++ payload) = .ok (.frame .generic payload version, []) := by
    intro hard soft headed fits written
    have sized' := sized_of_headed version _ hard soft count header payload headed fits written
    rw [framed, ok_bind] at sized'
    refine (parse_of_ok version _ _ _).mpr ⟨_, sized', ?_⟩
    rw [← List.length_append, List.drop_length]
  cases counter with
  | v1 code _ _ generic written =>
      obtain ⟨_, _, fits, same⟩ := (encode_code_ok _ _ count [] header).mp written
      exact read code.asStr code.softSize (by rw [← generic]; exact heads_as_v1 code) fits same
  | v2 code _ _ generic written =>
      obtain ⟨_, _, fits, same⟩ := (encode_code_ok _ _ count [] header).mp written
      exact read code.asStr code.softSize (by rw [← generic]; exact heads_as_v2 code) fits same

theorem no_selector_default (version : CesrVersion) (payload : Bytes) (bare : ¬HeadsSelector payload) :
    checkGenusVersionOffset payload version = .ok (version, 0) := by
  unfold checkGenusVersionOffset
  by_cases marked : payload.take 2 = asBytes "-_"
  · have long : ¬payload.length < 8 := fun few => bare ⟨marked, .inl few⟩
    have refuse : ¬(payload.take 2 = asBytes "-_" ∧ payload.length < 8) := fun both => long both.2
    rw [rejectIf, if_neg refuse, ok_bind, if_neg long, if_pos marked]
    split
    · rename_i count read
      exact absurd ⟨marked, .inr ⟨count, read⟩⟩ bare
    · rfl
  · have refuse : ¬(payload.take 2 = asBytes "-_" ∧ payload.length < 8) := fun both => marked both.1
    rw [rejectIf, if_neg refuse, ok_bind, if_neg marked]
    by_cases few : payload.length < 8
    · rw [if_pos few]
      rfl
    · rw [if_neg few]
      rfl

theorem heads_selector_four (payload : Bytes) (marked : payload.take 2 = asBytes "-_") (few : payload.length < 8)
    (aligned : 4 ∣ payload.length) : ∃ third fourth, payload = [0x2D, 0x5F, third, fourth] := by
  have two := congrArg List.length marked
  rw [List.length_take, show (asBytes "-_").length = 2 by decide] at two
  have four : payload.length = 4 := by omega
  obtain ⟨first, second, third, fourth, same⟩ := List.length_eq_four.mp four
  rw [same, show asBytes "-_" = [0x2D, 0x5F] by decide] at marked
  cases marked
  exact ⟨third, fourth, same⟩

theorem genus_counter_shape (version : CesrVersion) (payload : Bytes) (count : U32)
    (read : readCounterV2 payload = .ok (.keriAcdcGenusVersion, count)) :
    readShape version payload = .ok (.genusVersion, 8, count) := by
  obtain ⟨rest, spelled, fits⟩ := (read_counter_ok counter_table_v2 payload .keriAcdcGenusVersion count).mp read
  cases version with
  | v1 =>
      have read' := (read_counter_ok counter_table_v1 payload .keriAcdcGenusVersion count).mpr ⟨rest, spelled, fits⟩
      exact (bind_ok _ _ _).mpr ⟨(.keriAcdcGenusVersion, count), read', rfl⟩
  | v2 => exact (bind_ok _ _ _).mpr ⟨(.keriAcdcGenusVersion, count), read, rfl⟩

theorem selector_no_group (version : CesrVersion) (payload : Bytes) (heads : HeadsSelector payload) (aligned : 4 ∣ payload.length) :
    (payload.length = 4 ∧ CesrGroup.parseOf version payload = .error (.needBytes 1)) ∨
      (8 ≤ payload.length ∧ CesrGroup.parseOf version payload = .error .genusVersionNotAGroup) := by
  by_cases few : payload.length < 8
  · left
    obtain ⟨third, fourth, same⟩ := heads_selector_four payload heads.1 few aligned
    rw [same]
    cases version <;> exact ⟨rfl, rfl⟩
  · right
    obtain ⟨count, read⟩ := heads.2.resolve_left few
    refine ⟨Nat.le_of_not_lt few, ?_⟩
    rw [CesrGroup.parseOf, genus_counter_shape version payload count read]
    rfl

theorem selector_refused (version : CesrVersion) (payload : Bytes) (heads : HeadsSelector payload) (error : ParseError)
    (refused : checkGenusVersionOffset payload version = .error error) :
    (payload.length < 8 ∧ error = .needBytes (8 - payload.length)) ∨ (8 ≤ payload.length ∧ error ≠ .genusVersionNotAGroup) := by
  unfold checkGenusVersionOffset at refused
  by_cases few : payload.length < 8
  · left
    rw [rejectIf, if_pos ⟨heads.1, few⟩] at refused
    exact ⟨few, (Except.error.inj refused).symm⟩
  · right
    obtain ⟨count, read⟩ := heads.2.resolve_left few
    have refuse : ¬(payload.take 2 = asBytes "-_" ∧ payload.length < 8) := fun both => few both.2
    rw [rejectIf, if_neg refuse, ok_bind, if_neg few, if_pos heads.1, read] at refused
    have other : ∀ given, Base64Error.toParse given ≠ .genusVersionNotAGroup := by
      intro given
      cases given <;> exact ParseError.noConfusion
    have only := fails_only_bind (fun error => error ≠ ParseError.genusVersionNotAGroup) _ _
      (decode_genus_fails _ ParseError.noConfusion other (fun _ => ParseError.noConfusion) ((payload.take 8).drop 5))
      (fun given => fails_only_ok _ (given, CounterCodeV2.keriAcdcGenusVersion.fullSize))
    exact ⟨Nat.le_of_not_lt few, only error refused⟩

theorem selector_passes (version : CesrVersion) (payload : Bytes) (heads : HeadsSelector payload)
    (selected : CesrVersion × Nat) (selects : checkGenusVersionOffset payload version = .ok selected) : selected.2 = 8 := by
  unfold checkGenusVersionOffset at selects
  by_cases few : payload.length < 8
  · rw [rejectIf, if_pos ⟨heads.1, few⟩] at selects
    cases selects
  · obtain ⟨count, read⟩ := heads.2.resolve_left few
    have refuse : ¬(payload.take 2 = asBytes "-_" ∧ payload.length < 8) := fun both => few both.2
    rw [rejectIf, if_neg refuse, ok_bind, if_neg few, if_pos heads.1, read] at selects
    simp only [bind_ok, pure_ok] at selects
    obtain ⟨given, _, same⟩ := selects
    rw [← same]
    rfl

end Heads

section Depth

theorem descend_broken (version : CesrVersion) (data : Bytes) (error : ParseError) (depth : Nat) (some' : data ≠ [])
    (read : CesrGroup.parseOf version data = .error error) : unwrapWalk.descend ⟨version, data, depth⟩ = ([], some error) := by
  apply descend_fail
  show UnwrapLevel.turn _ = _
  rw [UnwrapLevel.turn, if_neg some']
  dsimp only
  rw [read]

theorem descend_refused (version : CesrVersion) (data rest payload : Bytes) (group : CesrGroup) (error : ParseError)
    (depth : Nat) (read : CesrGroup.parseOf version data = .ok (group, rest)) (generic : group.genericPayload = some payload)
    (refused : checkGenusVersionOffset payload version = .error error) (room : depth < maxDepth) :
    unwrapWalk.descend ⟨version, data, depth⟩ = ([], some error) := by
  apply descend_fail
  show UnwrapLevel.turn _ = _
  rw [UnwrapLevel.turn, if_neg (parsed_some version data _ read)]
  dsimp only
  rw [read]
  dsimp only
  rw [generic]
  dsimp only
  rw [UnwrapLevel.enter, if_neg (Nat.not_le_of_lt room)]
  dsimp only
  rw [refused]

theorem descend_deeper (level : UnwrapLevel) (depth : Nat) (deeper : level.depth = depth + 1)
    (room : (unwrapWalk.descend level).2 ≠ some (.depthExceeded maxDepth)) :
    unwrapWalk.descend ⟨level.version, level.data, depth⟩ = unwrapWalk.descend level := by
  induction level using Walk.descend.induct unwrapWalk generalizing depth with
  | case1 level turned =>
      have shape := turn_of level
      rw [show level.turn = _ from turned] at shape
      cases shape with
      | stop ended =>
          rw [descend_stop unwrapWalk level turned]
          exact descend_stop unwrapWalk _ (not_kept_stops _ (decide_eq_false (fun some' => some' ended)))
  | case2 level fault turned =>
      rw [descend_fail unwrapWalk level fault turned] at room ⊢
      have shape := turn_of level
      rw [show level.turn = _ from turned] at shape
      cases shape with
      | broken _ some' read => exact descend_broken level.version level.data fault depth some' read
      | deep group rest payload _ _ _ _ => exact absurd rfl room
      | refused group rest payload _ _ read generic free refused =>
          exact descend_refused level.version level.data rest payload group fault depth read generic refused (by omega)
  | case3 level group next turned ih =>
      rw [descend_give unwrapWalk level next group turned] at room ⊢
      have shape := turn_of level
      rw [show level.turn = _ from turned] at shape
      cases shape with
      | give _ rest _ read plain => rw [descend_past level.version level.data rest group depth read plain, ← ih depth deeper room]
  | case4 level inner rest turned innerIh laterIh =>
      rw [descend_enter unwrapWalk level inner rest turned] at room ⊢
      have shape := turn_of level
      rw [show level.turn = _ from turned] at shape
      cases shape with
      | enter group rest payload selected _ read generic free selects =>
          rw [descend_into level.version level.data rest payload group selected depth read generic selects (by omega)]
          cases first : (unwrapWalk.descend ⟨selected.1, payload.drop selected.2, level.depth + 1⟩).2 with
          | some fault =>
              rw [join, first] at room
              have inner := innerIh (depth + 1) (congrArg (· + 1) deeper) room
              rw [inner, join, join, first]
          | none =>
              rw [join, first] at room
              have inner := innerIh (depth + 1) (congrArg (· + 1) deeper) (by rw [first]; exact (Option.some_ne_none _).symm)
              have later := laterIh depth deeper room
              rw [inner, ← later]

theorem descend_once_deeper (version : CesrVersion) (payload : Bytes) (shallow : ¬ComesTo 7 version payload) :
    unwrapWalk.descend ⟨version, payload, 1⟩ = flatten version payload := by
  refine (descend_deeper ⟨version, payload, 1⟩ 0 rfl ?_).symm
  intro exceeds
  exact shallow (exceeds_comes_to ⟨version, payload, 1⟩ maxDepth 7 rfl exceeds).2

end Depth

section Wrapped

variable (version : CesrVersion) (count : U32) (header payload : Bytes) (counter : GenericCounter version count header)
  (sized : payload.length = count.val * 4)

include counter sized

theorem wrapped_enters (selected : CesrVersion × Nat) (selects : checkGenusVersionOffset payload version = .ok selected) :
    flatten version (header ++ payload) = unwrapWalk.descend ⟨selected.1, payload.drop selected.2, 1⟩ := by
  have read := generic_counter_reads version count header payload counter sized
  have ended : unwrapWalk.descend ⟨version, [], 0⟩ = ([], none) := descend_stop unwrapWalk _ rfl
  rw [flatten, descend_into version _ [] payload _ selected 0 read rfl selects (by decide), ended, join_ends]

theorem wrapped_refused (error : ParseError) (refused : checkGenusVersionOffset payload version = .error error) :
    flatten version (header ++ payload) = ([], some error) := by
  have read := generic_counter_reads version count header payload counter sized
  exact descend_refused version _ [] payload _ error 0 read rfl refused (by decide)

end Wrapped

theorem enclosed_version_ok (version : CesrVersion) (payload : Bytes) (selected : CesrVersion × Nat)
    (selects : checkGenusVersionOffset payload version = .ok selected) : framerPasses version payload = selected.2 := by
  rw [framerPasses, FrameLimits.enclosedVersion, selects]
  rfl

theorem unwrap_passes_none (version : CesrVersion) (payload : Bytes) : unwrapPasses version payload = 0 := Nat.sub_self _

-- Wrapping a payload in a generic group changes nothing, and the framer and the
-- unwrapping begin at the same place, exactly when the payload does not begin
-- with a selector: the head of the outermost payload is not looked at.
theorem wrapping_transparent_iff (version : CesrVersion) (count : U32) (header payload : Bytes)
    (counter : GenericCounter version count header) (sized : payload.length = count.val * 4)
    (shallow : ¬ComesTo 7 version payload) :
    ((∀ result, (unwrapGeneric payload version).Collects result ↔ (unwrapGeneric (header ++ payload) version).Collects result) ∧
        (0 < unwrapPasses version payload ↔ 0 < framerPasses version payload)) ↔ ¬HeadsSelector payload := by
  rw [collects_same, unwrap_passes_none]
  apply Iff.intro
  · intro found heads
    obtain ⟨same, passes⟩ := found
    cases selects : checkGenusVersionOffset payload version with
    | ok selected =>
        rw [enclosed_version_ok version payload selected selects, selector_passes version payload heads selected selects] at passes
        exact absurd (passes.mpr (by decide)) (Nat.lt_irrefl 0)
    | error error =>
        have some' : payload ≠ [] := by
          intro empty
          rw [empty] at heads
          exact absurd heads.1 (by decide)
        rw [wrapped_refused version count header payload counter sized error selects] at same
        rcases selector_no_group version payload heads ⟨count.val, by omega⟩ with ⟨four, read⟩ | ⟨long, read⟩
        · rw [flatten, descend_broken version payload _ 0 some' read] at same
          have other := Except.error.inj same
          rcases selector_refused version payload heads error selects with ⟨_, short⟩ | ⟨long, _⟩
          · rw [← other, four] at short
            cases short
          · omega
        · rw [flatten, descend_broken version payload _ 0 some' read] at same
          have other := Except.error.inj same
          rcases selector_refused version payload heads error selects with ⟨few, _⟩ | ⟨_, refuse⟩
          · omega
          · exact refuse other.symm
  · intro bare
    have selects := no_selector_default version payload bare
    refine ⟨?_, ?_⟩
    · rw [wrapped_enters version count header payload counter sized _ selects, List.drop_zero,
        descend_once_deeper version payload shallow]
    · rw [enclosed_version_ok version payload _ selects]

theorem bare_sigs_transparent :
    let payload := asBytes "-AAB" ++ List.replicate 88 0x41
    ((∀ result, (unwrapGeneric payload .v1).Collects result ↔ (unwrapGeneric (asBytes "-TAX" ++ payload) .v1).Collects result) ∧
        (0 < unwrapPasses .v1 payload ↔ 0 < framerPasses .v1 payload)) ↔ ¬HeadsSelector payload := by
  intro payload
  refine wrapping_transparent_iff .v1 23 (asBytes "-TAX") payload (.v1 .genericGroup 23 _ rfl (by decide +kernel)) (by decide +kernel) ?_
  have read : CesrGroup.parseOf .v1 payload = .ok (.group .controllerIdxSig (List.replicate 88 0x41) 1 .v1, []) := by decide +kernel
  have plain : ∀ group rest inner, CesrGroup.parseOf .v1 payload = .ok (group, rest) → group.genericPayload ≠ some inner := by
    intro group rest inner parsed generic
    rw [read] at parsed
    cases parsed
    cases generic
  intro comes
  cases comes with
  | inside _ _ _ rest inner group _ parsed generic => exact plain group rest inner parsed generic
  | behind _ _ _ rest inner group _ parsed generic => exact plain group rest inner parsed generic
  | past _ _ _ rest group parsed _ later =>
      rw [read] at parsed
      cases parsed
      cases later with
      | inside _ _ _ _ _ _ _ parsed => exact absurd rfl (parsed_some .v1 [] _ parsed)
      | behind _ _ _ _ _ _ _ parsed => exact absurd rfl (parsed_some .v1 [] _ parsed)
      | past _ _ _ _ _ parsed => exact absurd rfl (parsed_some .v1 [] _ parsed)

-- Inside a generic group the selector is followed, at the head of the payload it is an error.
theorem selector_head_refused :
    let payload := asBytes "-_AAACAA-KAA"
    GenericCounter .v1 3 (asBytes "-TAD") ∧ ¬ComesTo 7 .v1 payload ∧
      (unwrapGeneric payload .v1).Collects (.error .genusVersionNotAGroup) ∧
      (unwrapGeneric (asBytes "-TAD" ++ payload) .v1).Collects (.ok [.group .controllerIdxSig [] 0 .v2]) ∧
      ¬(∀ result, (unwrapGeneric payload .v1).Collects result ↔ (unwrapGeneric (asBytes "-TAD" ++ payload) .v1).Collects result) ∧
      framerPasses .v1 payload = 8 ∧ unwrapPasses .v1 payload = 0 := by
  have read : CesrGroup.parseOf .v1 (asBytes "-_AAACAA-KAA") = .error .genusVersionNotAGroup := by decide +kernel
  have bare : (unwrapGeneric (asBytes "-_AAACAA-KAA") .v1).Collects (.error .genusVersionNotAGroup) :=
    .failed _ _ (by decide +kernel)
  have wrapped : (unwrapGeneric (asBytes "-TAD" ++ asBytes "-_AAACAA-KAA") .v1).Collects (.ok [.group .controllerIdxSig [] 0 .v2]) :=
    .took _ (.group .controllerIdxSig [] 0 .v2) (.ok []) (by decide +kernel) (.ended _ (by decide +kernel))
  refine ⟨.v1 .genericGroup 3 _ rfl (by decide +kernel), ?_, bare, wrapped, ?_, by decide +kernel, by decide +kernel⟩
  · intro comes
    cases comes with
    | inside _ _ _ _ _ _ _ parsed =>
        rw [read] at parsed
        cases parsed
    | past _ _ _ _ _ parsed =>
        rw [read] at parsed
        cases parsed
    | behind _ _ _ _ _ _ _ parsed =>
        rw [read] at parsed
        cases parsed
  · intro same
    have other := (unwrap_collects .v1 _ _).mp ((same _).mp bare)
    rw [← (unwrap_collects .v1 _ _).mp wrapped] at other
    cases other

end Cesr.Stream
