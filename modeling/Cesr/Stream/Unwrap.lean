import Cesr.Stream.Enclosure
import Cesr.Stream.GroupParse
import Cesr.Lib.Descent
import Cesr.Lib.Faults

set_option autoImplicit false

namespace Cesr.Stream

open Checks Calls Resume Descent Faults Sextets Base64

def maxDepth : Nat := 8

def CesrGroup.genericPayload : CesrGroup → Option Bytes
  | .frame .generic payload _ => some payload
  | _ => none

structure UnwrapGeneric where
  stack : List (CesrVersion × Bytes × Nat)
  currentVersion : CesrVersion
  currentData : Bytes
  depth : Nat
  done : Bool
deriving DecidableEq, Repr

def unwrapGeneric (payload : Bytes) (version : CesrVersion) : UnwrapGeneric where
  stack := []
  currentVersion := version
  currentData := payload
  depth := 0
  done := false

-- How a turn of the loop ends: with another turn, or with the answer to the caller.
inductive UnwrapTurn where
  | again (state : UnwrapGeneric)
  | answer (item : Option (Except ParseError CesrGroup)) (state : UnwrapGeneric)
deriving DecidableEq, Repr

def UnwrapGeneric.fail (state : UnwrapGeneric) (error : ParseError) : UnwrapTurn :=
  .answer (some (.error error)) { state with done := true }

def UnwrapGeneric.resume (state : UnwrapGeneric) : UnwrapTurn :=
  match state.stack with
  | suspended :: below =>
      .again { state with
        stack := below, currentVersion := suspended.1, currentData := suspended.2.1, depth := suspended.2.2 }
  | [] => .answer none { state with done := true }

-- The payload of a generic group is walked before the siblings behind the group.
def UnwrapGeneric.enter (state : UnwrapGeneric) (inner rest : Bytes) : UnwrapTurn :=
  if maxDepth ≤ state.depth then state.fail (.depthExceeded maxDepth)
  else
    match checkGenusVersionOffset inner state.currentVersion with
    | .error error => state.fail error
    | .ok selected =>
        .again { state with
          stack := if rest = [] then state.stack else (state.currentVersion, rest, state.depth) :: state.stack
          currentVersion := selected.1
          currentData := inner.drop selected.2
          depth := state.depth + 1 }

def UnwrapGeneric.turn (state : UnwrapGeneric) : UnwrapTurn :=
  if state.currentData = [] then state.resume
  else
    match CesrGroup.parseOf state.currentVersion state.currentData with
    | .error error => state.fail error
    | .ok parsed =>
        match parsed.1.genericPayload with
        | some inner => state.enter inner parsed.2
        | none => .answer (some (.ok parsed.1)) { state with currentData := parsed.2 }

def UnwrapGeneric.turns : Nat → UnwrapGeneric → Option (Except ParseError CesrGroup) × UnwrapGeneric
  | 0, state => (none, state)
  | count + 1, state =>
      match state.turn with
      | .again next => UnwrapGeneric.turns count next
      | .answer item next => (item, next)

-- Every turn takes a level off the stack or a counter off the payload.
def UnwrapGeneric.left (state : UnwrapGeneric) : Nat :=
  state.currentData.length + 1 + (state.stack.map fun suspended => suspended.2.1.length + 1).sum

def UnwrapGeneric.next (state : UnwrapGeneric) : Option (Except ParseError CesrGroup) × UnwrapGeneric :=
  if state.done then (none, state) else state.turns state.left

-- The answer to each call of the iterator, counted from zero.
def UnwrapGeneric.nth : Nat → UnwrapGeneric → Option (Except ParseError CesrGroup)
  | 0, state => state.next.1
  | call + 1, state => UnwrapGeneric.nth call state.next.2

section Sizes

theorem read_shape_size (version : CesrVersion) (buf : Bytes) (head : GroupShape × Nat × U32)
    (read : readShape version buf = .ok head) : 2 ≤ head.2.1 := by
  cases version with
  | v1 =>
      simp only [readShape, bind_ok, pure_ok] at read
      obtain ⟨counter, _, same⟩ := read
      have sizes := counter_v1_sizes counter.1
      rw [← same]
      show 2 ≤ counter.1.fullSize
      omega
  | v2 =>
      simp only [readShape, bind_ok, pure_ok] at read
      obtain ⟨counter, _, same⟩ := read
      have sizes := counter_v2_sizes counter.1
      rw [← same]
      show 2 ≤ counter.1.fullSize
      omega

theorem parse_of_shorter (version : CesrVersion) (buf : Bytes) (parsed : CesrGroup × Bytes)
    (read : CesrGroup.parseOf version buf = .ok parsed) :
    parsed.2.length < buf.length ∧
      ∀ inner, parsed.1.genericPayload = some inner → inner.length + parsed.2.length + 2 ≤ buf.length := by
  obtain ⟨size, sized, behind⟩ := (parse_of_ok version buf parsed.2 parsed.1).mp read
  simp only [CesrGroup.sizedOf, bind_ok, pure_ok, Prod.mk.injEq] at sized
  obtain ⟨head, shaped, framed, payload, same, counted⟩ := sized
  have large := read_shape_size version buf head shaped
  have reach : head.2.1 ≤ buf.length := (read_shape_reads version).within buf head shaped
  have within : framed.2 ≤ (buf.drop head.2.1).length := (payload_sized_reads version head).within _ framed payload
  rw [List.length_drop] at within
  rw [behind, List.length_drop]
  refine ⟨by omega, ?_⟩
  intro inner generic
  rw [← same] at generic
  unfold payloadSized at payload
  cases shape : head.1 with
  | elements kind =>
      simp only [shape, bind_ok, pure_ok] at payload
      obtain ⟨offset, _, same'⟩ := payload
      rw [← same'] at generic
      cases generic
  | quadlets kind =>
      simp only [shape, bind_ok, pure_ok] at payload
      obtain ⟨offset, _, same'⟩ := payload
      rw [← same'] at generic counted within
      have content : inner = (buf.drop head.2.1).take offset := by
        cases kind with
        | generic => exact (Option.some.inj generic).symm
        | _ => cases generic
      rw [content, List.length_take, List.length_drop]
      dsimp only at counted within
      omega
  | genusVersion =>
      simp only [shape] at payload
      cases payload

end Sizes

section Walk

-- A place in a payload: the table, the bytes from the place on and the number
-- of generic groups around it.
structure UnwrapLevel where
  version : CesrVersion
  data : Bytes
  depth : Nat
deriving DecidableEq, Repr

def UnwrapLevel.enter (level : UnwrapLevel) (inner rest : Bytes) : Turn UnwrapLevel CesrGroup ParseError :=
  if maxDepth ≤ level.depth then .fail (.depthExceeded maxDepth)
  else
    match checkGenusVersionOffset inner level.version with
    | .error error => .fail error
    | .ok selected =>
        .enter ⟨selected.1, inner.drop selected.2, level.depth + 1⟩ ⟨level.version, rest, level.depth⟩

-- A generic group stands for the contents of its payload, read with the table
-- its selector names or else with the table around it.
def UnwrapLevel.turn (level : UnwrapLevel) : Turn UnwrapLevel CesrGroup ParseError :=
  if level.data = [] then .stop
  else
    match CesrGroup.parseOf level.version level.data with
    | .error error => .fail error
    | .ok parsed =>
        match parsed.1.genericPayload with
        | some inner => level.enter inner parsed.2
        | none => .give parsed.1 ⟨level.version, parsed.2, level.depth⟩

inductive TurnOf (level : UnwrapLevel) : Turn UnwrapLevel CesrGroup ParseError → Prop where
  | stop (ended : level.data = []) : TurnOf level .stop
  | broken (error : ParseError) (some' : level.data ≠ []) (read : CesrGroup.parseOf level.version level.data = .error error) :
      TurnOf level (.fail error)
  | give (group : CesrGroup) (rest : Bytes) (some' : level.data ≠ [])
      (read : CesrGroup.parseOf level.version level.data = .ok (group, rest)) (plain : group.genericPayload = none) :
      TurnOf level (.give group ⟨level.version, rest, level.depth⟩)
  | deep (group : CesrGroup) (rest payload : Bytes) (some' : level.data ≠ [])
      (read : CesrGroup.parseOf level.version level.data = .ok (group, rest)) (generic : group.genericPayload = some payload)
      (full : maxDepth ≤ level.depth) : TurnOf level (.fail (.depthExceeded maxDepth))
  | refused (group : CesrGroup) (rest payload : Bytes) (error : ParseError) (some' : level.data ≠ [])
      (read : CesrGroup.parseOf level.version level.data = .ok (group, rest)) (generic : group.genericPayload = some payload)
      (room : level.depth < maxDepth) (selects : checkGenusVersionOffset payload level.version = .error error) :
      TurnOf level (.fail error)
  | enter (group : CesrGroup) (rest payload : Bytes) (selected : CesrVersion × Nat) (some' : level.data ≠ [])
      (read : CesrGroup.parseOf level.version level.data = .ok (group, rest)) (generic : group.genericPayload = some payload)
      (room : level.depth < maxDepth) (selects : checkGenusVersionOffset payload level.version = .ok selected) :
      TurnOf level
        (.enter ⟨selected.1, payload.drop selected.2, level.depth + 1⟩ ⟨level.version, rest, level.depth⟩)

theorem turn_of (level : UnwrapLevel) : TurnOf level level.turn := by
  unfold UnwrapLevel.turn
  by_cases ended : level.data = []
  · rw [if_pos ended]
    exact .stop ended
  · rw [if_neg ended]
    cases read : CesrGroup.parseOf level.version level.data with
    | error error => exact .broken error ended read
    | ok parsed =>
        dsimp only
        cases generic : parsed.1.genericPayload with
        | none => exact .give parsed.1 parsed.2 ended read generic
        | some payload =>
            dsimp only
            unfold UnwrapLevel.enter
            by_cases full : maxDepth ≤ level.depth
            · rw [if_pos full]
              exact .deep parsed.1 parsed.2 payload ended read generic full
            · have room : level.depth < maxDepth := Nat.lt_of_not_le full
              rw [if_neg full]
              cases selects : checkGenusVersionOffset payload level.version with
              | error error => exact .refused parsed.1 parsed.2 payload error ended read generic room selects
              | ok selected => exact .enter parsed.1 parsed.2 payload selected ended read generic room selects

def unwrapWalk : Walk UnwrapLevel CesrGroup ParseError where
  turn := UnwrapLevel.turn
  size := fun level => level.data.length + 1
  gives := by
    intro level group next turned
    have shape := turn_of level
    rw [turned] at shape
    cases shape with
    | give _ rest _ read _ => exact Nat.succ_lt_succ (parse_of_shorter level.version level.data (group, rest) read).1
  enters := by
    intro level inner rest turned
    have shape := turn_of level
    rw [turned] at shape
    cases shape with
    | enter group rest payload selected _ read generic _ _ =>
        have shorter := (parse_of_shorter level.version level.data (group, rest) read).2 payload generic
        rw [List.length_drop]
        dsimp only at shorter ⊢
        omega
  filled := fun _ => Nat.succ_pos _

-- The groups of a payload from left to right, every generic group replaced by
-- its contents, up to the first error.
def flatten (version : CesrVersion) (payload : Bytes) : List CesrGroup × Option ParseError :=
  unwrapWalk.descend ⟨version, payload, 0⟩

end Walk

section Machine

def UnwrapGeneric.level (state : UnwrapGeneric) : UnwrapLevel :=
  ⟨state.currentVersion, state.currentData, state.depth⟩

def UnwrapGeneric.levels (state : UnwrapGeneric) : List UnwrapLevel :=
  if state.done then []
  else state.level :: state.stack.map fun suspended => ⟨suspended.1, suspended.2.1, suspended.2.2⟩

theorem levels_going (state : UnwrapGeneric) (going : state.done = false) :
    state.levels = state.level :: state.stack.map fun suspended => ⟨suspended.1, suspended.2.1, suspended.2.2⟩ := by
  rw [UnwrapGeneric.levels, going]
  rfl

def UnwrapLevel.kept (level : UnwrapLevel) : Bool := decide (level.data ≠ [])

theorem not_kept_stops (level : UnwrapLevel) (dropped : level.kept = false) : unwrapWalk.turn level = .stop := by
  have ended : level.data = [] := by
    by_contra some
    rw [UnwrapLevel.kept, decide_eq_false_iff_not] at dropped
    exact dropped some
  show level.turn = .stop
  rw [UnwrapLevel.turn, if_pos ended]

theorem left_levels (state : UnwrapGeneric) (going : state.done = false) : unwrapWalk.left state.levels = state.left := by
  rw [levels_going state going, Walk.left, UnwrapGeneric.left]
  congr 1
  induction state.stack with
  | nil => rfl
  | cons suspended stack ih =>
      rw [List.map_cons, List.map_cons, Walk.left, List.sum_cons, ih]
      rfl

theorem unwrap_turn_follows (state : UnwrapGeneric) :
    state.turn =
      match state.level.turn with
      | .stop => state.resume
      | .fail error => state.fail error
      | .give group next => .answer (some (.ok group)) { state with currentData := next.data }
      | .enter inner rest =>
          .again { state with
            stack := if rest.data = [] then state.stack else (rest.version, rest.data, rest.depth) :: state.stack
            currentVersion := inner.version
            currentData := inner.data
            depth := inner.depth } := by
  unfold UnwrapGeneric.turn UnwrapLevel.turn UnwrapGeneric.level
  dsimp only
  by_cases ended : state.currentData = []
  · rw [if_pos ended, if_pos ended]
  · rw [if_neg ended, if_neg ended]
    cases CesrGroup.parseOf state.currentVersion state.currentData with
    | error error => rfl
    | ok parsed =>
        dsimp only
        cases parsed.1.genericPayload with
        | none => rfl
        | some inner =>
            unfold UnwrapGeneric.enter UnwrapLevel.enter
            dsimp only
            by_cases full : maxDepth ≤ state.depth
            · rw [if_pos full, if_pos full]
            · rw [if_neg full, if_neg full]
              cases checkGenusVersionOffset inner state.currentVersion <;> rfl

theorem turns_pull (count : Nat) (state : UnwrapGeneric) (going : state.done = false) :
    (state.turns count).1 = (unwrapWalk.pull UnwrapLevel.kept count state.levels).1 ∧
      (state.turns count).2.levels = (unwrapWalk.pull UnwrapLevel.kept count state.levels).2 := by
  induction count generalizing state with
  | zero => exact ⟨rfl, rfl⟩
  | succ count ih =>
      have same : unwrapWalk.turn state.level = state.level.turn := rfl
      have along : ∀ later : UnwrapGeneric, later.done = false →
          (later.turns count).1 = (unwrapWalk.pull UnwrapLevel.kept count
              (later.level :: later.stack.map fun suspended => ⟨suspended.1, suspended.2.1, suspended.2.2⟩)).1 ∧
            (later.turns count).2.levels = (unwrapWalk.pull UnwrapLevel.kept count
              (later.level :: later.stack.map fun suspended => ⟨suspended.1, suspended.2.1, suspended.2.2⟩)).2 := by
        intro later still
        rw [← levels_going later still]
        exact ih later still
      have shape := turn_of state.level
      rw [levels_going state going, Walk.pull, UnwrapGeneric.turns, unwrap_turn_follows, same]
      cases turned : state.level.turn with
      | stop =>
          dsimp only
          unfold UnwrapGeneric.resume
          cases stacked : state.stack with
          | nil =>
              rw [List.map_nil]
              cases count <;> exact ⟨rfl, rfl⟩
          | cons suspended below =>
              exact along { state with
                stack := below, currentVersion := suspended.1, currentData := suspended.2.1, depth := suspended.2.2 } going
      | fail error => exact ⟨rfl, rfl⟩
      | give group next =>
          rw [turned] at shape
          cases shape with
          | give _ rest _ _ _ =>
              exact ⟨rfl, levels_going { state with currentData := rest } going⟩
      | enter inner rest =>
          rw [turned] at shape
          cases shape with
          | enter group rest payload selected _ _ _ _ _ =>
              by_cases ended : rest = []
              · have dropped : (UnwrapLevel.kept ⟨state.level.version, rest, state.level.depth⟩) = false :=
                  decide_eq_false (fun some' => some' ended)
                dsimp only
                rw [dropped, if_pos ended]
                exact along { state with
                  currentVersion := selected.1, currentData := payload.drop selected.2, depth := state.depth + 1 } going
              · have pushed : (UnwrapLevel.kept ⟨state.level.version, rest, state.level.depth⟩) = true := decide_eq_true ended
                dsimp only
                rw [pushed, if_neg ended]
                exact along { state with
                  stack := (state.currentVersion, rest, state.depth) :: state.stack
                  currentVersion := selected.1, currentData := payload.drop selected.2, depth := state.depth + 1 } going

theorem next_descends (state : UnwrapGeneric) :
    state.next.1 = (items (unwrapWalk.descendAll state.levels))[0]? ∧
      items (unwrapWalk.descendAll state.next.2.levels) = (items (unwrapWalk.descendAll state.levels)).tail := by
  by_cases ended : state.done = true
  · rw [UnwrapGeneric.next, if_pos ended, UnwrapGeneric.levels, if_pos ended]
    exact ⟨rfl, rfl⟩
  · have going : state.done = false := Bool.eq_false_of_not_eq_true ended
    obtain ⟨given, behind⟩ := turns_pull state.left state going
    have pulled := pull_descends unwrapWalk UnwrapLevel.kept not_kept_stops state.left state.levels
      (Nat.le_of_eq (left_levels state going))
    rw [UnwrapGeneric.next, if_neg ended, given, behind]
    exact pulled

theorem nth_descends (call : Nat) (state : UnwrapGeneric) :
    state.nth call = (items (unwrapWalk.descendAll state.levels))[call]? := by
  induction call generalizing state with
  | zero => exact (next_descends state).1
  | succ call ih => rw [UnwrapGeneric.nth, ih, (next_descends state).2, List.getElem?_tail]

theorem start_levels (payload : Bytes) (version : CesrVersion) :
    unwrapWalk.descendAll (unwrapGeneric payload version).levels = flatten version payload :=
  join_ends (flatten version payload)

end Machine

section Parsers

def NotDepth (error : ParseError) : Prop := ∀ max, error ≠ .depthExceeded max

theorem matter_not_depth (error : MatterBuildError) : NotDepth (MatterBuildError.toParse error) := by
  intro max
  cases error with
  | parsing error => cases error <;> exact ParseError.noConfusion
  | validation error => exact ParseError.noConfusion

theorem indexer_not_depth (error : IndexerParseError) : NotDepth (IndexerParseError.toParse error) := by
  intro max
  cases error <;> exact ParseError.noConfusion

theorem counter_not_depth (input : Bytes) (error : CounterCodeError) : NotDepth (mapCounterErr input error) := by
  intro max
  cases error <;> exact ParseError.noConfusion

theorem base64_not_depth (error : Base64Error) : NotDepth (Base64Error.toParse error) := by
  intro max
  cases error <;> exact ParseError.noConfusion

theorem take_bytes_not_depth (remaining : Bytes) (count : Nat) : FailsOnly NotDepth (takeBytes remaining count) := by
  unfold takeBytes
  by_cases few : remaining.length < count
  · rw [if_pos few]
    exact fails_only_error NotDepth _ (fun _ => ParseError.noConfusion)
  · rw [if_neg few]
    exact fails_only_ok NotDepth count

theorem skip_matter_not_depth (remaining : Bytes) : FailsOnly NotDepth (skipMatter remaining) :=
  fails_only_bind NotDepth _ _ (fails_only_map_error NotDepth _ _ matter_not_depth) (take_bytes_not_depth remaining)

theorem skip_indexer_not_depth (remaining : Bytes) : FailsOnly NotDepth (skipIndexer remaining) :=
  fails_only_bind NotDepth _ _ (fails_only_map_error NotDepth _ _ indexer_not_depth) (take_bytes_not_depth remaining)

theorem read_counter_not_depth {Code : Type} (fromBase64Stream : Bytes → Except CounterCodeError Code)
    (hardSize fullSize : Code → Nat) (remaining : Bytes) :
    FailsOnly NotDepth (readCounter fromBase64Stream hardSize fullSize remaining) := by
  refine fails_only_bind NotDepth _ _ (fails_only_map_error NotDepth _ _ (counter_not_depth remaining)) (fun code => ?_)
  refine fails_only_bind NotDepth _ _ (fails_only_reject NotDepth _ _ (fun _ => ParseError.noConfusion)) (fun _ => ?_)
  refine fails_only_bind NotDepth _ _ ?_ (fun count => fails_only_ok NotDepth (code, count))
  refine fails_only_bind NotDepth _ _ (fails_only_reject NotDepth _ _ (fun _ => ParseError.noConfusion)) (fun _ => ?_)
  exact fails_only_bind NotDepth _ _ (fails_only_map_error NotDepth _ _ base64_not_depth)
    (fun count => fails_only_ok NotDepth (Fin.ofNat (2 ^ 32) count))

theorem read_shape_not_depth (version : CesrVersion) (buf : Bytes) : FailsOnly NotDepth (readShape version buf) := by
  cases version with
  | v1 =>
      exact fails_only_bind NotDepth _ _ (read_counter_not_depth _ _ _ buf)
        (fun read => fails_only_ok NotDepth (shapeV1 read.1, read.1.fullSize, read.2))
  | v2 =>
      exact fails_only_bind NotDepth _ _ (read_counter_not_depth _ _ _ buf)
        (fun read => fails_only_ok NotDepth (shapeV2 read.1, read.1.fullSize, read.2))

theorem read_bounded_not_depth (version : CesrVersion) (maxGroupElements maxSignatures : Nat) (cursor : NestedSigCursor)
    (tail : Bytes) : FailsOnly NotDepth (NestedSigCursor.readBounded version maxGroupElements maxSignatures cursor tail) := by
  have counted : FailsOnly NotDepth (cursor.readCount version tail) := by
    cases version with
    | v1 =>
        refine fails_only_bind NotDepth _ _ (read_counter_not_depth _ _ _ tail) (fun read => ?_)
        exact fails_only_bind NotDepth _ _ (fails_only_reject NotDepth _ _ (fun _ => ParseError.noConfusion))
          (fun _ => fails_only_ok NotDepth (read.2, read.1.fullSize))
    | v2 =>
        refine fails_only_bind NotDepth _ _ (read_counter_not_depth _ _ _ tail) (fun read => ?_)
        exact fails_only_bind NotDepth _ _ (fails_only_reject NotDepth _ _ (fun _ => ParseError.noConfusion))
          (fun _ => fails_only_ok NotDepth (read.2, read.1.fullSize))
  refine fails_only_bind NotDepth _ _ counted (fun read => ?_)
  refine fails_only_bind NotDepth _ _ (fails_only_reject NotDepth _ _ (fun _ => ParseError.noConfusion)) (fun _ => ?_)
  exact fails_only_bind NotDepth _ _ (fails_only_reject NotDepth _ _ (fun _ => ParseError.noConfusion))
    (fun _ => fails_only_ok NotDepth read)

theorem advance_not_depth (version : CesrVersion) (input : Bytes) :
    CallFailsOnly NotDepth (NestedSigCursor.advance version input) := by
  have short : ∀ count, NotDepth (.needBytes count) := fun _ _ => ParseError.noConfusion
  refine call_fails_bind NotDepth _ _ (call_fails_while NotDepth _ _ ?_) (fun _ => ?_)
  · exact call_fails_read_at NotDepth _ _ _ _ input short (fun _ => skip_matter_not_depth)
  · refine call_fails_bind NotDepth _ _ (call_fails_get NotDepth _ (fun cursor => ?_)) (fun _ => ?_)
    · by_cases fresh : cursor.sigsLeft = none
      · rw [if_pos fresh]
        exact call_fails_read_at NotDepth _ _ _ _ input short (read_bounded_not_depth version usizeMax usizeMax)
      · rw [if_neg fresh]
        exact call_fails_pure NotDepth ()
    · refine call_fails_bind NotDepth _ _ (call_fails_while NotDepth _ _ ?_) (fun _ => ?_)
      · exact call_fails_read_at NotDepth _ _ _ _ input short (fun _ => skip_indexer_not_depth)
      · exact call_fails_get NotDepth _ (fun cursor => call_fails_pure NotDepth cursor.pos)

theorem group_skip_not_depth (kind : GroupKind) (version : CesrVersion) (input : Bytes) :
    FailsOnly NotDepth (kind.skip input version) := by
  unfold GroupKind.skip
  cases kind.nestedSigGrammar with
  | some grammar => exact advance_not_depth version input _
  | none =>
      dsimp only
      rw [skip_matters_eq, skip_indexers_eq]
      refine fails_only_bind NotDepth _ _ (fails_only_times NotDepth skipMatter skip_matter_not_depth _ input) (fun matters => ?_)
      exact fails_only_bind NotDepth _ _ (fails_only_times NotDepth skipIndexer skip_indexer_not_depth _ _)
        (fun indexers => fails_only_ok NotDepth (matters + indexers))

theorem parse_of_not_depth (version : CesrVersion) (buf : Bytes) : FailsOnly NotDepth (CesrGroup.parseOf version buf) := by
  refine fails_only_bind NotDepth _ _ (read_shape_not_depth version buf) (fun head => ?_)
  unfold dispatch
  cases head.1 with
  | elements kind =>
      refine fails_only_bind NotDepth _ _ (fails_only_reject NotDepth _ _ (fun _ => ParseError.noConfusion)) (fun _ => ?_)
      refine fails_only_bind NotDepth _ _ ?_ (fun _ => fails_only_ok NotDepth _)
      rw [skip_all_eq]
      exact fails_only_times NotDepth _ (group_skip_not_depth kind version) _ _
  | quadlets kind =>
      refine fails_only_bind NotDepth _ _ (fails_only_reject NotDepth _ _ (fun _ => ParseError.noConfusion)) (fun _ => ?_)
      exact fails_only_bind NotDepth _ _ (fails_only_reject NotDepth _ _ (fun _ => ParseError.noConfusion))
        (fun _ => fails_only_ok NotDepth _)
  | genusVersion => exact fails_only_error NotDepth _ (fun _ => ParseError.noConfusion)

theorem decode_genus_fails (fault : ParseError → Prop) (utf8 : fault (.invalidUtf8 "genus version"))
    (base64 : ∀ error, fault (Base64Error.toParse error)) (major : ∀ found, fault (.unsupportedGenusVersion found)) (soft : Bytes) :
    FailsOnly fault (decodeGenusVersion soft) := by
  refine fails_only_bind fault _ _ (fails_only_reject fault _ _ utf8) (fun _ => ?_)
  refine fails_only_bind fault _ _ (fails_only_map_error fault _ _ base64) (fun value => ?_)
  dsimp only
  by_cases first : value / 2 ^ 12 = 1
  · rw [if_pos first]
    exact fails_only_ok fault _
  · rw [if_neg first]
    by_cases second : value / 2 ^ 12 = 2
    · rw [if_pos second]
      exact fails_only_ok fault _
    · rw [if_neg second]
      exact fails_only_error fault _ (major _)

theorem check_genus_not_depth (input : Bytes) (default : CesrVersion) :
    FailsOnly NotDepth (checkGenusVersionOffset input default) := by
  refine fails_only_bind NotDepth _ _ (fails_only_reject NotDepth _ _ (fun _ => ParseError.noConfusion)) (fun _ => ?_)
  have plain : FailsOnly NotDepth (.ok (default, 0) : Except ParseError (CesrVersion × Nat)) := fails_only_ok NotDepth _
  by_cases few : input.length < 8
  · rw [if_pos few]
    exact plain
  · rw [if_neg few]
    by_cases marked : input.take 2 = asBytes "-_"
    · rw [if_pos marked]
      split
      · exact fails_only_bind NotDepth _ _
          (decode_genus_fails NotDepth (fun _ => ParseError.noConfusion) base64_not_depth
            (fun _ _ => ParseError.noConfusion) _)
          (fun _ => fails_only_ok NotDepth _)
      · exact plain
    · rw [if_neg marked]
      exact plain

end Parsers

section Nesting

-- A payload that reads to its end, every generic group in it included.
inductive ReadsThrough : CesrVersion → Bytes → Prop where
  | ended (version : CesrVersion) : ReadsThrough version []
  | group (version : CesrVersion) (data rest : Bytes) (group : CesrGroup)
      (read : CesrGroup.parseOf version data = .ok (group, rest)) (plain : group.genericPayload = none)
      (later : ReadsThrough version rest) : ReadsThrough version data
  | generic (version : CesrVersion) (data rest payload : Bytes) (group : CesrGroup) (selected : CesrVersion × Nat)
      (read : CesrGroup.parseOf version data = .ok (group, rest)) (generic : group.genericPayload = some payload)
      (selects : checkGenusVersionOffset payload version = .ok selected)
      (inner : ReadsThrough selected.1 (payload.drop selected.2)) (later : ReadsThrough version rest) :
      ReadsThrough version data

-- Reading from left to right comes to a generic group inside so many others.
inductive ComesTo : Nat → CesrVersion → Bytes → Prop where
  | here (version : CesrVersion) (data rest payload : Bytes) (group : CesrGroup)
      (read : CesrGroup.parseOf version data = .ok (group, rest)) (generic : group.genericPayload = some payload) :
      ComesTo 0 version data
  | inside (others : Nat) (version : CesrVersion) (data rest payload : Bytes) (group : CesrGroup) (selected : CesrVersion × Nat)
      (read : CesrGroup.parseOf version data = .ok (group, rest)) (generic : group.genericPayload = some payload)
      (selects : checkGenusVersionOffset payload version = .ok selected)
      (inner : ComesTo others selected.1 (payload.drop selected.2)) : ComesTo (others + 1) version data
  | past (others : Nat) (version : CesrVersion) (data rest : Bytes) (group : CesrGroup)
      (read : CesrGroup.parseOf version data = .ok (group, rest)) (plain : group.genericPayload = none)
      (later : ComesTo others version rest) : ComesTo others version data
  | behind (others : Nat) (version : CesrVersion) (data rest payload : Bytes) (group : CesrGroup) (selected : CesrVersion × Nat)
      (read : CesrGroup.parseOf version data = .ok (group, rest)) (generic : group.genericPayload = some payload)
      (selects : checkGenusVersionOffset payload version = .ok selected)
      (inner : ReadsThrough selected.1 (payload.drop selected.2)) (later : ComesTo others version rest) :
      ComesTo others version data

theorem parsed_some (version : CesrVersion) (data : Bytes) (parsed : CesrGroup × Bytes)
    (read : CesrGroup.parseOf version data = .ok parsed) : data ≠ [] := by
  intro ended
  have shorter := (parse_of_shorter version data parsed read).1
  rw [ended, List.length_nil] at shorter
  exact absurd shorter (Nat.not_lt_zero _)

theorem descend_past (version : CesrVersion) (data rest : Bytes) (group : CesrGroup) (depth : Nat)
    (read : CesrGroup.parseOf version data = .ok (group, rest)) (plain : group.genericPayload = none) :
    unwrapWalk.descend ⟨version, data, depth⟩ = join ([group], none) (unwrapWalk.descend ⟨version, rest, depth⟩) := by
  apply descend_give
  show UnwrapLevel.turn _ = _
  rw [UnwrapLevel.turn, if_neg (parsed_some version data _ read)]
  dsimp only
  rw [read]
  dsimp only
  rw [plain]

theorem descend_into (version : CesrVersion) (data rest payload : Bytes) (group : CesrGroup) (selected : CesrVersion × Nat)
    (depth : Nat) (read : CesrGroup.parseOf version data = .ok (group, rest)) (generic : group.genericPayload = some payload)
    (selects : checkGenusVersionOffset payload version = .ok selected) (room : depth < maxDepth) :
    unwrapWalk.descend ⟨version, data, depth⟩ =
      join (unwrapWalk.descend ⟨selected.1, payload.drop selected.2, depth + 1⟩) (unwrapWalk.descend ⟨version, rest, depth⟩) := by
  apply descend_enter
  show UnwrapLevel.turn _ = _
  rw [UnwrapLevel.turn, if_neg (parsed_some version data _ read)]
  dsimp only
  rw [read]
  dsimp only
  rw [generic]
  dsimp only
  rw [UnwrapLevel.enter, if_neg (Nat.not_le_of_lt room)]
  dsimp only
  rw [selects]

theorem descend_full (version : CesrVersion) (data rest payload : Bytes) (group : CesrGroup) (depth : Nat)
    (read : CesrGroup.parseOf version data = .ok (group, rest)) (generic : group.genericPayload = some payload)
    (full : maxDepth ≤ depth) : unwrapWalk.descend ⟨version, data, depth⟩ = ([], some (.depthExceeded maxDepth)) := by
  apply descend_fail
  show UnwrapLevel.turn _ = _
  rw [UnwrapLevel.turn, if_neg (parsed_some version data _ read)]
  dsimp only
  rw [read]
  dsimp only
  rw [generic]
  dsimp only
  rw [UnwrapLevel.enter, if_pos full]

theorem reads_through_stops (version : CesrVersion) (data : Bytes) (through : ReadsThrough version data) (depth : Nat) :
    (unwrapWalk.descend ⟨version, data, depth⟩).2 = none ∨
      (unwrapWalk.descend ⟨version, data, depth⟩).2 = some (.depthExceeded maxDepth) := by
  induction through generalizing depth with
  | ended version =>
      left
      rw [descend_stop unwrapWalk ⟨version, [], depth⟩ rfl]
  | group version data rest group read plain later ih =>
      rw [descend_past version data rest group depth read plain]
      exact ih depth
  | generic version data rest payload group selected read generic selects inner later innerIh laterIh =>
      by_cases full : maxDepth ≤ depth
      · right
        rw [descend_full version data rest payload group depth read generic full]
      · rw [descend_into version data rest payload group selected depth read generic selects (Nat.lt_of_not_le full)]
        rcases innerIh (depth + 1) with clean | deep
        · rw [join, clean]
          exact laterIh depth
        · right
          rw [join, deep]
          exact deep

theorem descends_through (level : UnwrapLevel) (clean : (unwrapWalk.descend level).2 = none) :
    ReadsThrough level.version level.data := by
  induction level using Walk.descend.induct unwrapWalk with
  | case1 level turned =>
      have shape := turn_of level
      rw [show level.turn = _ from turned] at shape
      cases shape with
      | stop ended =>
          rw [ended]
          exact .ended level.version
  | case2 level fault turned =>
      rw [descend_fail unwrapWalk level fault turned] at clean
      cases clean
  | case3 level group next turned ih =>
      rw [descend_give unwrapWalk level next group turned] at clean
      have shape := turn_of level
      rw [show level.turn = _ from turned] at shape
      cases shape with
      | give _ rest _ read plain => exact .group level.version level.data rest group read plain (ih clean)
  | case4 level inner rest turned innerIh laterIh =>
      rw [descend_enter unwrapWalk level inner rest turned] at clean
      have shape := turn_of level
      rw [show level.turn = _ from turned] at shape
      cases first : (unwrapWalk.descend inner).2 with
      | some fault =>
          rw [join, first] at clean
          rw [show (unwrapWalk.descend inner).2 = none from clean] at first
          cases first
      | none =>
          rw [join, first] at clean
          cases shape with
          | enter group rest payload selected _ read generic _ selects =>
              exact .generic level.version level.data rest payload group selected read generic selects (innerIh first)
                (laterIh clean)

theorem comes_to_exceeds (others : Nat) (version : CesrVersion) (data : Bytes) (comes : ComesTo others version data)
    (depth : Nat) (room : depth + others = maxDepth) :
    (unwrapWalk.descend ⟨version, data, depth⟩).2 = some (.depthExceeded maxDepth) := by
  induction comes generalizing depth with
  | here version data rest payload group read generic =>
      rw [descend_full version data rest payload group depth read generic (Nat.le_of_eq room.symm)]
  | inside others version data rest payload group selected read generic selects inner ih =>
      have deep := ih (depth + 1) (by omega)
      rw [descend_into version data rest payload group selected depth read generic selects (by omega), join, deep]
      exact deep
  | past others version data rest group read plain later ih =>
      rw [descend_past version data rest group depth read plain]
      exact ih depth room
  | behind others version data rest payload group selected read generic selects inner later ih =>
      by_cases full : maxDepth ≤ depth
      · rw [descend_full version data rest payload group depth read generic full]
      · rw [descend_into version data rest payload group selected depth read generic selects (Nat.lt_of_not_le full)]
        rcases reads_through_stops selected.1 (payload.drop selected.2) inner (depth + 1) with clean | deep
        · rw [join, clean]
          exact ih depth room
        · rw [join, deep]
          exact deep

theorem exceeds_comes_to (level : UnwrapLevel) (max others : Nat) (room : level.depth + others = maxDepth)
    (exceeds : (unwrapWalk.descend level).2 = some (.depthExceeded max)) :
    max = maxDepth ∧ ComesTo others level.version level.data := by
  induction level using Walk.descend.induct unwrapWalk generalizing others with
  | case1 level turned =>
      rw [descend_stop unwrapWalk level turned] at exceeds
      cases exceeds
  | case2 level fault turned =>
      rw [descend_fail unwrapWalk level fault turned, Option.some.injEq] at exceeds
      have shape := turn_of level
      rw [show level.turn = _ from turned] at shape
      cases shape with
      | broken _ _ read => exact absurd exceeds (parse_of_not_depth level.version level.data fault read max)
      | refused group rest payload _ _ read generic _ selects =>
          exact absurd exceeds (check_genus_not_depth payload level.version fault selects max)
      | deep group rest payload _ read generic full =>
          have none' : others = 0 := by omega
          rw [none']
          exact ⟨(ParseError.depthExceeded.inj exceeds).symm, .here level.version level.data rest payload group read generic⟩
  | case3 level group next turned ih =>
      rw [descend_give unwrapWalk level next group turned] at exceeds
      have shape := turn_of level
      rw [show level.turn = _ from turned] at shape
      cases shape with
      | give _ rest _ read plain =>
          obtain ⟨same, comes⟩ := ih others room exceeds
          exact ⟨same, .past others level.version level.data rest group read plain comes⟩
  | case4 level inner rest turned innerIh laterIh =>
      rw [descend_enter unwrapWalk level inner rest turned] at exceeds
      have shape := turn_of level
      rw [show level.turn = _ from turned] at shape
      cases shape with
      | enter group rest payload selected _ read generic free selects =>
          cases first : (unwrapWalk.descend ⟨selected.1, payload.drop selected.2, level.depth + 1⟩).2 with
          | some fault =>
              rw [join, first] at exceeds
              obtain ⟨same, comes⟩ := innerIh (others - 1) (by dsimp only; omega) exceeds
              refine ⟨same, ?_⟩
              have more : others = others - 1 + 1 := by omega
              rw [more]
              exact .inside (others - 1) level.version level.data rest payload group selected read generic selects comes
          | none =>
              rw [join, first] at exceeds
              obtain ⟨same, comes⟩ := laterIh others room exceeds
              exact ⟨same, .behind others level.version level.data rest payload group selected read generic selects
                (descends_through _ first) comes⟩

end Nesting

section Selectors

-- The code of a selector, then three digits; the first is the number of a table.
def Selector (payload : Bytes) (major : Nat) : Prop :=
  ∃ first second third rest, payload = asBytes "-_AAA" ++ [first, second, third].map urlSafe.char ++ rest ∧ first.val = major

def Selects (payload : Bytes) (around : CesrVersion) (selected : CesrVersion × Nat) : Prop :=
  (Selector payload 1 ∧ selected = (.v1, 8)) ∨ (Selector payload 2 ∧ selected = (.v2, 8)) ∨
    ((∀ major, ¬Selector payload major) ∧ ¬(payload.take 2 = asBytes "-_" ∧ payload.length < 8) ∧ selected = (around, 0))

theorem decode_genus_digits (first second third : Sextet) (version : CesrVersion) :
    decodeGenusVersion ([first, second, third].map urlSafe.char) = .ok version ↔
      (first.val = 1 ∧ version = .v1) ∨ (first.val = 2 ∧ version = .v2) := by
  have chosen := ascii_of_spelled _ (spells_map urlSafe [first, second, third])
  have text := (from_utf8_some _ _).mpr chosen
  have value : number [first, second, third] = first.val * 4096 + second.val * 64 + third.val := by
    simp only [number, List.foldl_cons, List.foldl_nil]
    omega
  have read : decodeInt 32 ([first, second, third].map urlSafe.char) = .ok (number [first, second, third]) :=
    (decode_int_ok 32 _ _).mpr ⟨_, rfl, rfl, Nat.lt_trans (number_lt _) (show 64 ^ 3 < 2 ^ 32 by decide)⟩
  have major : number [first, second, third] / 2 ^ 12 = first.val := by omega
  rw [decodeGenusVersion, text, read]
  simp only [rejectIf, reduceCtorEq, if_false, ok_bind, Except.mapError, major]
  by_cases one : first.val = 1
  · rw [if_pos one, pure_ok]
    simp [one, eq_comm]
  · rw [if_neg one]
    by_cases two : first.val = 2
    · rw [if_pos two, pure_ok]
      simp [two, eq_comm]
    · simp [one, two]

theorem selector_read (payload : Bytes) :
    (∃ count, readCounterV2 payload = .ok (.keriAcdcGenusVersion, count)) ↔ ∃ major, Selector payload major := by
  apply Iff.intro
  · rintro ⟨count, read⟩
    obtain ⟨rest, spelled, _⟩ := (read_counter_ok counter_table_v2 payload .keriAcdcGenusVersion count).mp read
    exact ⟨_, _, _, _, rest, spelled, rfl⟩
  · rintro ⟨_, first, second, third, rest, spelled, _⟩
    have fits : number [first, second, third] < 64 ^ 3 := number_lt _
    have word : number [first, second, third] < 2 ^ 32 := Nat.lt_trans fits (by decide)
    refine ⟨⟨number [first, second, third], word⟩, (read_counter_ok counter_table_v2 payload .keriAcdcGenusVersion _).mpr ⟨rest, ?_, fits⟩⟩
    rw [spelled]
    congr 3
    exact (digits_number [first, second, third]).symm

theorem selector_unique (payload : Bytes) (major other : Nat) (first : Selector payload major) (second : Selector payload other) :
    major = other := by
  obtain ⟨digit, _, _, _, spelled, named⟩ := first
  obtain ⟨digit', _, _, _, spelled', named'⟩ := second
  rw [spelled, List.append_assoc, List.append_assoc, List.append_cancel_left_eq] at spelled'
  have same : urlSafe.char digit = urlSafe.char digit' := (List.cons.inj spelled').1
  have value := congrArg urlSafe.value same
  rw [urlSafe.value_char, urlSafe.value_char] at value
  rw [← named, ← named', Option.some.inj value]

theorem check_genus_selector (payload : Bytes) (around : CesrVersion) (selected : CesrVersion × Nat) (major : Nat)
    (selector : Selector payload major) :
    checkGenusVersionOffset payload around = .ok selected ↔
      (major = 1 ∧ selected = (.v1, 8)) ∨ (major = 2 ∧ selected = (.v2, 8)) := by
  obtain ⟨count, read⟩ := (selector_read payload).mpr ⟨major, selector⟩
  obtain ⟨first, second, third, rest, spelled, named⟩ := selector
  have code : asBytes "-_AAA" = [0x2D, 0x5F, 0x41, 0x41, 0x41] := by decide
  have long : ¬payload.length < 8 := by simp [spelled, code]
  have refuse : ¬(payload.take 2 = asBytes "-_" ∧ payload.length < 8) := fun both => long both.2
  have marked : payload.take 2 = asBytes "-_" := by
    rw [spelled, code]
    exact (by decide : [0x2D, 0x5F] = asBytes "-_")
  have soft : (payload.take 8).drop 5 = [first, second, third].map urlSafe.char := by
    rw [spelled, code]
    rfl
  rw [checkGenusVersionOffset, rejectIf, if_neg refuse, ok_bind, if_neg long, if_pos marked, read, soft, ← named]
  simp only [bind_ok, pure_ok, decode_genus_digits]
  apply Iff.intro
  · rintro ⟨version, ⟨one, same⟩ | ⟨two, same⟩, rfl⟩
    · exact .inl ⟨one, by rw [same]; rfl⟩
    · exact .inr ⟨two, by rw [same]; rfl⟩
  · rintro (⟨one, same⟩ | ⟨two, same⟩)
    · exact ⟨.v1, .inl ⟨one, rfl⟩, same.symm⟩
    · exact ⟨.v2, .inr ⟨two, rfl⟩, same.symm⟩

theorem check_genus_plain (payload : Bytes) (around : CesrVersion) (selected : CesrVersion × Nat)
    (plain : ∀ major, ¬Selector payload major) :
    checkGenusVersionOffset payload around = .ok selected ↔
      ¬(payload.take 2 = asBytes "-_" ∧ payload.length < 8) ∧ selected = (around, 0) := by
  simp only [checkGenusVersionOffset, bind_ok, reject_if_ok, exists_done]
  apply and_congr_right
  intro _
  by_cases few : payload.length < 8
  · rw [if_pos few, pure_ok, eq_comm]
  · rw [if_neg few]
    by_cases marked : payload.take 2 = asBytes "-_"
    · rw [if_pos marked]
      split
      · rename_i count read
        obtain ⟨major, selector⟩ := (selector_read payload).mp ⟨count, read⟩
        exact absurd selector (plain major)
      · rw [pure_ok, eq_comm]
    · rw [if_neg marked, pure_ok, eq_comm]

theorem check_genus_ok (payload : Bytes) (around : CesrVersion) (selected : CesrVersion × Nat) :
    checkGenusVersionOffset payload around = .ok selected ↔ Selects payload around selected := by
  by_cases selector : ∃ major, Selector payload major
  · obtain ⟨major, found⟩ := selector
    rw [check_genus_selector payload around selected major found]
    apply Iff.intro
    · rintro (⟨one, same⟩ | ⟨two, same⟩)
      · exact .inl ⟨one ▸ found, same⟩
      · exact .inr (.inl ⟨two ▸ found, same⟩)
    · rintro (⟨one, same⟩ | ⟨two, same⟩ | ⟨none', _⟩)
      · exact .inl ⟨selector_unique payload major 1 found one, same⟩
      · exact .inr ⟨selector_unique payload major 2 found two, same⟩
      · exact absurd found (none' major)
  · have plain : ∀ major, ¬Selector payload major := fun major found => selector ⟨major, found⟩
    rw [check_genus_plain payload around selected plain]
    apply Iff.intro
    · rintro ⟨enough, same⟩
      exact .inr (.inr ⟨plain, enough, same⟩)
    · rintro (⟨one, _⟩ | ⟨two, _⟩ | ⟨_, enough, same⟩)
      · exact absurd one (plain 1)
      · exact absurd two (plain 2)
      · exact ⟨enough, same⟩

end Selectors

-- The iterator yields the flattened groups one by one, then the error if there
-- is one, then nothing; the error is about depth exactly when the reading comes
-- to a generic group inside eight others.
theorem unwrap_flattens (payload : Bytes) (version : CesrVersion) :
    (∀ call, (unwrapGeneric payload version).nth call = (items (flatten version payload))[call]?) ∧
      (∀ max, (flatten version payload).2 = some (.depthExceeded max) ↔ max = 8 ∧ ComesTo 8 version payload) ∧
      ∀ inner around selected, checkGenusVersionOffset inner around = .ok selected ↔ Selects inner around selected := by
  refine ⟨?_, ?_, check_genus_ok⟩
  · intro call
    rw [nth_descends, start_levels]
  · intro max
    apply Iff.intro
    · exact exceeds_comes_to ⟨version, payload, 0⟩ max maxDepth (Nat.zero_add _)
    · intro found
      rw [found.1]
      exact comes_to_exceeds maxDepth version payload found.2 0 (Nat.zero_add _)

end Cesr.Stream
