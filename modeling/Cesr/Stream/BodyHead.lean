import Cesr.Stream.MessageHead
import Cesr.Stream.Readers

set_option autoImplicit false

namespace Cesr.Stream

open Base64 Checks Calls Resume

theorem reads_chain {first : Bytes → Except ParseError Nat} {second : Nat → Bytes → Except ParseError Nat}
    (one : Reads NeedsBytes id first) (two : ∀ offset, Reads NeedsBytes id (second offset))
    (onward : ∀ stream offset stop, second offset stream = .ok stop → offset ≤ stop) :
    Reads NeedsBytes id (fun stream => first stream >>= fun offset => second offset stream) := by
  apply Reads.mk
  · exact steady_bind NeedsBytes first second one.steady (fun offset => (two offset).steady)
  · intro stream stop accepted
    obtain ⟨offset, head, tail⟩ := (bind_ok _ _ _).mp accepted
    have behind := onward stream offset stop tail
    refine (bind_ok _ _ _).mpr ⟨offset, ?_, (two offset).exact stream stop tail⟩
    have again := reads_again one stream ((stream.take stop).drop offset) offset head
    have joined : stream.take offset ++ (stream.take stop).drop offset = stream.take stop := by
      rw [show stream.take offset = (stream.take stop).take offset by rw [List.take_take, Nat.min_eq_left behind],
        List.take_append_drop]
    rwa [id, joined] at again
  · intro stream stop accepted
    obtain ⟨offset, _, tail⟩ := (bind_ok _ _ _).mp accepted
    exact (two offset).within stream stop tail

section Binary

theorem first_field_ok (input : Bytes) (start stop : Nat) (expected : Bytes) :
    firstFieldPrefix input start expected = .ok stop ↔
      start + expected.length ≤ input.length ∧ (input.drop start).take expected.length = expected ∧ stop = start + expected.length := by
  simp only [firstFieldPrefix, bind_ok, reject_if_ok, exists_done, pure_ok, List.length_drop, ne_eq, Classical.not_not, Nat.not_lt]
  apply Iff.intro
  · intro found
    obtain ⟨reach, same, enough, stops⟩ := found
    rw [Nat.min_eq_right enough, List.take_length] at same
    exact ⟨by omega, same, stops.symm⟩
  · intro found
    obtain ⟨enough, same, stops⟩ := found
    have room : expected.length ≤ input.length - start := by omega
    rw [Nat.min_eq_right room, List.take_length]
    exact ⟨by omega, same, room, stops.symm⟩

theorem first_field_reads (start : Nat) (expected : Bytes) :
    Reads NeedsBytes id (fun input => firstFieldPrefix input start expected) := by
  apply Reads.mk
  · apply Steady.mk
    · intro input more stop accepted
      obtain ⟨enough, same, stops⟩ := (first_field_ok input start stop expected).mp accepted
      refine (first_field_ok _ start stop expected).mpr ⟨by rw [List.length_append]; omega, ?_, stops⟩
      rw [List.drop_append_of_le_length (by omega), List.take_append_of_le_length (by rw [List.length_drop]; omega)]
      exact same
    · intro input more error failed long
      have reach : start ≤ input.length := by
        apply Nat.le_of_not_lt
        intro few
        simp only [firstFieldPrefix, rejectIf, if_pos few] at failed
        cases failed
        exact long (needs_bytes _)
      -- What differs within the bytes that are there differs within more of them.
      have differs : (input.drop start).take (min (input.drop start).length expected.length) ≠
          expected.take (min (input.drop start).length expected.length) := by
        intro same
        simp only [firstFieldPrefix, rejectIf, if_neg (Nat.not_lt_of_le reach), ok_bind, same, ne_eq, not_true_eq_false,
          if_false] at failed
        by_cases few : (input.drop start).length < expected.length
        · rw [if_pos few] at failed
          cases failed
          exact long (needs_bytes _)
        · rw [if_neg few] at failed
          cases failed
      have differs' : ((input ++ more).drop start).take (min ((input ++ more).drop start).length expected.length) ≠
          expected.take (min ((input ++ more).drop start).length expected.length) := by
        intro same
        apply differs
        have shorter := congrArg (List.take (min (input.drop start).length expected.length)) same
        rw [List.drop_append_of_le_length reach] at shorter
        rw [List.take_take, List.take_take, List.length_append, Nat.min_eq_left (by omega),
          List.take_append_of_le_length (Nat.min_le_left _ _)] at shorter
        exact shorter
      refine ⟨.missingVersionString, ?_, ?_⟩
      · have reach' : ¬(input ++ more).length < start := by
          rw [List.length_append]
          omega
        simp only [firstFieldPrefix, rejectIf, if_neg reach', ok_bind, if_pos differs']
        rfl
      · intro short
        obtain ⟨_, impossible⟩ := short
        cases impossible
  · intro input stop accepted
    obtain ⟨enough, same, stops⟩ := (first_field_ok input start stop expected).mp accepted
    refine (first_field_ok _ start stop expected).mpr ⟨?_, ?_, stops⟩
    · rw [List.length_take, id]
      omega
    · rw [List.drop_take, id, stops, Nat.add_sub_cancel_left, List.take_take, Nat.min_self]
      exact same
  · intro input stop accepted
    obtain ⟨enough, _, stops⟩ := (first_field_ok input start stop expected).mp accepted
    rw [id, stops]
    exact enough

theorem not_short_missing : ¬NeedsBytes .missingVersionString := by
  intro short
  obtain ⟨_, impossible⟩ := short
  cases impossible

theorem map_start_reads (cold : ColdCode) : Reads NeedsBytes id (fun input => binaryMapStart input cold) := by
  apply Reads.mk
  · apply steady_same
    intro start more long
    cases start with
    | nil => exact absurd (needs_bytes 1) (long _ rfl)
    | cons first rest =>
        simp only [binaryMapStart, List.head?_cons, List.cons_append] at long ⊢
        cases headed : binaryMapHeader cold first with
        | none => rfl
        | some header =>
            simp only [headed] at long
            by_cases few : (first :: rest).length < header
            · simp only [rejectIf, if_pos few] at long
              exact absurd (needs_bytes _) (long _ rfl)
            · have enough : ¬(first :: (rest ++ more)).length < header := by
                rw [← List.cons_append, List.length_append]
                omega
              have same : (first :: (rest ++ more)).take header = (first :: rest).take header := by
                rw [← List.cons_append]
                exact List.take_append_of_le_length (Nat.le_of_not_lt few)
              simp only [rejectIf, if_neg few, if_neg enough, same]
  · intro input stop accepted
    cases input with
    | nil => cases accepted
    | cons first rest =>
        simp only [binaryMapStart, List.head?_cons] at accepted
        cases headed : binaryMapHeader cold first with
        | none =>
            rw [headed] at accepted
            cases accepted
        | some header =>
            simp only [headed, bind_ok, reject_if_ok, exists_done, pure_ok] at accepted
            obtain ⟨enough, fine, same⟩ := accepted
            have positive : 0 < header := by
              revert headed
              cases cold <;> grind [binaryMapHeader]
            obtain ⟨spare, sized⟩ : ∃ spare, header = spare + 1 := ⟨header - 1, by omega⟩
            rw [id, ← same]
            rw [sized] at headed enough fine ⊢
            rw [List.take_succ_cons]
            simp only [binaryMapStart, List.head?_cons, headed, bind_ok, reject_if_ok, exists_done, pure_ok,
              List.length_cons, List.length_take, List.take_succ_cons, List.take_take, Nat.min_self] at enough fine ⊢
            exact ⟨by omega, fine, trivial⟩
  · intro input stop accepted
    cases input with
    | nil => cases accepted
    | cons first rest =>
        simp only [binaryMapStart, List.head?_cons] at accepted
        cases headed : binaryMapHeader cold first with
        | none =>
            rw [headed] at accepted
            cases accepted
        | some header =>
            simp only [headed, bind_ok, reject_if_ok, exists_done, pure_ok] at accepted
            rw [id, ← accepted.2.2]
            exact Nat.le_of_not_lt accepted.1

theorem text_start_ok (input : Bytes) (start stop expected : Nat) (cold : ColdCode) :
    binaryTextStart input start cold expected = .ok stop ↔
      ∃ first, input[start]? = some first ∧ ∃ header, binaryTextHeader cold first = some header ∧
        stop = start + 1 + header.2 ∧ stop ≤ input.length ∧
        (if header.2 = 0 then header.1 else bigEndian ((input.take stop).drop (start + 1))) = expected := by
  unfold binaryTextStart
  cases here : input[start]? with
  | none => simp
  | some first =>
      have inside : start < input.length := (List.getElem?_eq_some_iff.mp here).1
      cases headed : binaryTextHeader cold first with
      | none => simp [headed]
      | some header =>
          simp only [headed, bind_ok, reject_if_ok, exists_done, pure_ok, Option.some.injEq, exists_eq_left', ne_eq,
            Classical.not_not, not_and, Nat.not_lt]
          apply Iff.intro
          · intro found
            obtain ⟨enough, sized, stops⟩ := found
            refine ⟨stops.symm, ?_, by rw [← stops]; exact sized⟩
            by_cases short : header.2 = 0
            · omega
            · have reach := enough short
              omega
          · intro found
            obtain ⟨stops, enough, sized⟩ := found
            rw [stops] at enough sized
            exact ⟨fun _ => enough, sized, stops.symm⟩

theorem text_start_reads (start : Nat) (cold : ColdCode) (expected : Nat) :
    Reads NeedsBytes id (fun input => binaryTextStart input start cold expected) := by
  apply Reads.mk
  · apply steady_same
    intro input more long
    unfold binaryTextStart at long ⊢
    cases here : input[start]? with
    | none =>
        rw [here] at long
        exact absurd (needs_bytes 1) (long _ rfl)
    | some first =>
        have inside : start < input.length := (List.getElem?_eq_some_iff.mp here).1
        have again : (input ++ more)[start]? = some first := by rw [List.getElem?_append_left inside, here]
        rw [again]
        dsimp only
        rw [here] at long
        dsimp only at long
        cases headed : binaryTextHeader cold first with
        | none => rfl
        | some header =>
            rw [headed] at long
            dsimp only at long ⊢
            by_cases few : header.2 ≠ 0 ∧ input.length < start + 1 + header.2
            · simp only [rejectIf, if_pos few] at long
              exact absurd (needs_bytes _) (long _ rfl)
            · have enough : start + 1 + header.2 ≤ input.length := by
                by_cases short : header.2 = 0
                · omega
                · exact Nat.le_of_not_lt (fun less => few ⟨short, less⟩)
              have enough' : ¬(header.2 ≠ 0 ∧ (input ++ more).length < start + 1 + header.2) := by
                intro found
                have less := found.2
                rw [List.length_append] at less
                omega
              simp only [rejectIf, if_neg few, if_neg enough', List.take_append_of_le_length enough]
  · intro input stop accepted
    obtain ⟨first, here, header, headed, stops, enough, sized⟩ := (text_start_ok input start stop expected cold).mp accepted
    have inside : start < stop := by omega
    refine (text_start_ok _ start stop expected cold).mpr ⟨first, ?_, header, headed, stops, ?_, ?_⟩
    · rw [id, List.getElem?_take_of_lt inside, here]
    · rw [id, List.length_take]
      omega
    · rw [id, List.take_take, Nat.min_self]
      exact sized
  · intro input stop accepted
    obtain ⟨first, here, header, headed, stops, enough, sized⟩ := (text_start_ok input start stop expected cold).mp accepted
    exact enough

theorem version_offset_reads (cold : ColdCode) : Reads NeedsBytes id (fun input => binaryVersionOffset input cold) := by
  have value : ∀ start, Reads NeedsBytes id (fun input =>
      firstFieldPrefix input start (asBytes "v") >>= fun stop => binaryTextStart input stop cold versionStringLen) := by
    intro start
    apply reads_chain (first_field_reads start _) (fun stop => text_start_reads stop cold _)
    intro input offset stop accepted
    obtain ⟨_, _, header, _, stops, _, _⟩ := (text_start_ok input offset stop _ cold).mp accepted
    omega
  have key : ∀ start, Reads NeedsBytes id (fun input => binaryTextStart input start cold 1 >>= fun offset =>
      firstFieldPrefix input offset (asBytes "v") >>= fun stop => binaryTextStart input stop cold versionStringLen) := by
    intro start
    apply reads_chain (text_start_reads start cold 1) value
    intro input offset stop accepted
    obtain ⟨middle, head, tail⟩ := (bind_ok _ _ _).mp accepted
    obtain ⟨_, _, behind⟩ := (first_field_ok input offset middle _).mp head
    obtain ⟨_, _, header, _, stops, _, _⟩ := (text_start_ok input middle stop _ cold).mp tail
    omega
  apply reads_chain (map_start_reads cold) key
  intro input offset stop accepted
  obtain ⟨middle, head, tail⟩ := (bind_ok _ _ _).mp accepted
  obtain ⟨last, head', tail'⟩ := (bind_ok _ _ _).mp tail
  obtain ⟨_, _, header, _, stops, _, _⟩ := (text_start_ok input offset middle _ cold).mp head
  obtain ⟨_, _, behind⟩ := (first_field_ok input middle last _).mp head'
  obtain ⟨_, _, header', _, stops', _, _⟩ := (text_start_ok input last stop _ cold).mp tail'
  omega

end Binary

section Json

theorem scan_waits (head next : JsonVersionHead) (bytes more : Bytes) (error : ParseError)
    (scanned : JsonVersionHead.scan bytes head = (.error error, next)) (wait : NeedsBytes error) :
    next.offset = head.offset + bytes.length ∧ next.state ≠ .complete ∧
      JsonVersionHead.scan (bytes ++ more) head = JsonVersionHead.scan more next := by
  induction bytes generalizing head with
  | nil =>
      rw [JsonVersionHead.scan] at scanned
      by_cases complete : head.state = .complete
      · rw [if_pos complete] at scanned
        cases scanned
      · rw [if_neg complete] at scanned
        cases scanned
        exact ⟨rfl, complete, rfl⟩
  | cons byte rest ih =>
      rw [JsonVersionHead.scan] at scanned
      by_cases complete : head.state = .complete
      · rw [if_pos complete] at scanned
        cases scanned
      · rw [if_neg complete] at scanned
        rw [List.cons_append, JsonVersionHead.scan, if_neg complete]
        cases stepped : head.state.step byte with
        | none =>
            rw [stepped] at scanned
            cases scanned
            exact absurd wait not_short_missing
        | some state =>
            rw [stepped] at scanned
            obtain ⟨moved, open', again⟩ := ih ⟨head.offset + 1, state⟩ scanned
            refine ⟨?_, open', again⟩
            rw [moved, List.length_cons]
            exact Nat.add_right_comm _ _ _

theorem scan_ends (head next : JsonVersionHead) (bytes more : Bytes) (answer : Except ParseError Nat)
    (scanned : JsonVersionHead.scan bytes head = (answer, next)) (ends : ¬Waits NeedsBytes answer) :
    JsonVersionHead.scan (bytes ++ more) head = (answer, next) := by
  induction bytes generalizing head with
  | nil =>
      rw [JsonVersionHead.scan] at scanned
      by_cases complete : head.state = .complete
      · rw [if_pos complete] at scanned
        cases more <;> rw [List.nil_append, JsonVersionHead.scan, if_pos complete, scanned]
      · rw [if_neg complete] at scanned
        cases scanned
        exact absurd ⟨_, rfl, needs_bytes 1⟩ ends
  | cons byte rest ih =>
      rw [JsonVersionHead.scan] at scanned
      rw [List.cons_append, JsonVersionHead.scan]
      by_cases complete : head.state = .complete
      · rw [if_pos complete] at scanned ⊢
        exact scanned
      · rw [if_neg complete] at scanned ⊢
        cases stepped : head.state.step byte with
        | none =>
            rw [stepped] at scanned
            exact scanned
        | some state =>
            rw [stepped] at scanned
            exact ih ⟨head.offset + 1, state⟩ scanned

theorem scan_ok (head next : JsonVersionHead) (bytes : Bytes) (offset : Nat)
    (scanned : JsonVersionHead.scan bytes head = (.ok offset, next)) :
    next = ⟨offset, .complete⟩ ∧ ∃ size ≤ bytes.length, offset = head.offset + size ∧
      JsonVersionHead.scan (bytes.take size) head = (.ok offset, next) := by
  induction bytes generalizing head with
  | nil =>
      rw [JsonVersionHead.scan] at scanned
      by_cases complete : head.state = .complete
      · rw [if_pos complete] at scanned
        cases scanned
        refine ⟨by rw [← complete], 0, Nat.le_refl _, rfl, ?_⟩
        rw [List.take_zero, JsonVersionHead.scan, if_pos complete]
      · rw [if_neg complete] at scanned
        cases scanned
  | cons byte rest ih =>
      rw [JsonVersionHead.scan] at scanned
      by_cases complete : head.state = .complete
      · rw [if_pos complete] at scanned
        cases scanned
        refine ⟨by rw [← complete], 0, Nat.zero_le _, rfl, ?_⟩
        rw [List.take_zero, JsonVersionHead.scan, if_pos complete]
      · rw [if_neg complete] at scanned
        cases stepped : head.state.step byte with
        | none =>
            rw [stepped] at scanned
            cases scanned
        | some state =>
            rw [stepped] at scanned
            obtain ⟨same, size, within, moved, alone⟩ := ih ⟨head.offset + 1, state⟩ scanned
            refine ⟨same, size + 1, Nat.succ_le_succ within, ?_, ?_⟩
            · rw [moved]
              exact Nat.add_right_comm _ _ _
            · rw [List.take_succ_cons, JsonVersionHead.scan, if_neg complete, stepped]
              exact alone

def jsonOffset : Bytes → Except ParseError Nat
  | [] => .error (.needBytes 1)
  | _ :: rest => (JsonVersionHead.scan rest JsonVersionHead.new).1

theorem json_offset_reads : Reads NeedsBytes id jsonOffset := by
  have ends : ∀ (rest more : Bytes) (answer : Except ParseError Nat),
      (JsonVersionHead.scan rest JsonVersionHead.new).1 = answer → ¬Waits NeedsBytes answer →
      (JsonVersionHead.scan (rest ++ more) JsonVersionHead.new).1 = answer := by
    intro rest more answer scanned long
    exact congrArg Prod.fst (scan_ends JsonVersionHead.new _ rest more answer (Prod.ext scanned rfl) long)
  apply Reads.mk
  · apply Steady.mk
    · intro start more offset accepted
      cases start with
      | nil => cases accepted
      | cons first rest => exact ends rest more _ accepted (waits_ok NeedsBytes offset)
    · intro start more error failed long
      cases start with
      | nil =>
          cases failed
          exact absurd (needs_bytes 1) long
      | cons first rest =>
          refine ⟨error, ends rest more _ failed ?_, long⟩
          intro waits
          obtain ⟨_, same, short⟩ := waits
          cases same
          exact long short
  · intro stream offset accepted
    cases stream with
    | nil => cases accepted
    | cons first rest =>
        obtain ⟨_, size, within, moved, alone⟩ := scan_ok JsonVersionHead.new _ rest offset (Prod.ext accepted rfl)
        have stop : offset = size + 1 := by
          rw [moved]
          exact Nat.add_comm 1 size
        rw [id, stop, List.take_succ_cons]
        rw [stop] at alone
        exact congrArg Prod.fst alone
  · intro stream offset accepted
    cases stream with
    | nil => cases accepted
    | cons first rest =>
        obtain ⟨_, size, within, moved, _⟩ := scan_ok JsonVersionHead.new _ rest offset (Prod.ext accepted rfl)
        rw [id, moved, List.length_cons, JsonVersionHead.new]
        dsimp only
        omega

theorem exec_head_advance (input : Bytes) (head : JsonVersionHead) (within : head.offset ≤ input.length) :
    exec (JsonVersionHead.advance input) head = JsonVersionHead.scan (input.drop head.offset) head := by
  unfold JsonVersionHead.advance
  show (if input.length < head.offset then _ else _) = _
  exact if_neg (Nat.not_lt_of_le within)

theorem json_offset_eq (input : Bytes) (some' : input ≠ []) :
    jsonOffset input = outcome (JsonVersionHead.advance input) JsonVersionHead.new := by
  cases input with
  | nil => exact absurd rfl some'
  | cons first rest =>
      rw [outcome, exec_head_advance _ _ (Nat.succ_le_succ (Nat.zero_le rest.length))]
      rfl

end Json

section Version

theorem version_parse_few (tail : Bytes) (few : tail.length < versionStringLen) :
    VersionString.parse tail = .error (.truncated (versionStringLen - tail.length)) := by
  simp only [VersionString.parse, splitFrame, rejectIf, if_pos few]
  rfl

theorem version_parse_longer (start more : Bytes) (enough : versionStringLen ≤ start.length) :
    VersionString.parse (start ++ more) = VersionString.parse start := by
  have enough' : versionStringLen ≤ (start ++ more).length := by
    rw [List.length_append]
    omega
  simp only [VersionString.parse, splitFrame, rejectIf, if_neg (Nat.not_lt_of_le enough), if_neg (Nat.not_lt_of_le enough'),
    List.take_append_of_le_length enough]

theorem version_parse_v2_enough (start more : Bytes) (parsed : (VersionStringV2.parse start).isOk = true) :
    versionStringV2Len ≤ start.length ∧ (VersionStringV2.parse (start ++ more)).isOk = true := by
  by_cases few : start.length < versionStringV2Len
  · simp only [VersionStringV2.parse, splitFrame, rejectIf, if_pos few] at parsed
    cases parsed
  · have enough : versionStringV2Len ≤ start.length := Nat.le_of_not_lt few
    have enough' : ¬(start ++ more).length < versionStringV2Len := by
      rw [List.length_append]
      omega
    refine ⟨enough, ?_⟩
    simp only [VersionStringV2.parse, splitFrame, rejectIf, if_neg few] at parsed
    simp only [VersionStringV2.parse, splitFrame, rejectIf, if_neg enough', List.take_append_of_le_length enough]
    exact parsed

theorem starts_v2_shorter (start more : Bytes) (enough : 14 ≤ start.length) (begun : startsV2 (start ++ more)) : startsV2 start := by
  obtain ⟨few, fourth, seventh, _, kind⟩ := begun
  have field : frameField (start ++ more) 10 4 = frameField start 10 4 := by
    rw [frameField, frameField, List.drop_append_of_le_length (by omega), List.take_append_of_le_length]
    rw [List.length_drop]
    omega
  rw [List.length_append] at few
  rw [List.getElem?_append_left (by omega)] at fourth seventh
  rw [field] at kind
  exact ⟨by omega, fourth, seventh, enough, kind⟩

theorem read_version_ok (tail : Bytes) (vs : VersionString) : readVersionString tail = .ok vs ↔ VersionString.parse tail = .ok vs := by
  unfold readVersionString
  cases parsed : VersionString.parse tail with
  | ok given => simp
  | error error =>
      dsimp only
      split_ifs <;> simp

theorem read_version_error (tail : Bytes) (v1Error : VersionError) (failed : VersionString.parse tail = .error v1Error) :
    readVersionString tail = if (VersionStringV2.parse tail).isOk then .error (.unsupportedVersion .v2)
      else if startsV2 tail then .error (.needBytes (versionStringV2Len - tail.length))
      else .error (VersionError.toParse v1Error) := by
  rw [readVersionString, failed]

theorem read_version_few (tail : Bytes) (few : tail.length < versionStringLen) :
    ∃ error, readVersionString tail = .error error ∧ NeedsBytes error := by
  rw [read_version_error tail _ (version_parse_few tail few)]
  have never : ¬(VersionStringV2.parse tail).isOk = true := by
    intro parsed
    have long : versionStringV2Len = versionStringLen + 2 := rfl
    have enough := (version_parse_v2_enough tail [] parsed).1
    omega
  rw [if_neg never]
  split_ifs
  · exact ⟨_, rfl, needs_bytes _⟩
  · exact ⟨_, rfl, needs_bytes _⟩

theorem read_version_refused (start more : Bytes) (error : ParseError) (failed : readVersionString start = .error error)
    (long : ¬NeedsBytes error) : ∃ other, readVersionString (start ++ more) = .error other ∧ ¬NeedsBytes other := by
  have unsupported : ¬NeedsBytes (.unsupportedVersion .v2) := by
    intro short
    obtain ⟨_, impossible⟩ := short
    cases impossible
  by_cases few : start.length < versionStringLen
  · obtain ⟨other, same, short⟩ := read_version_few start few
    rw [same] at failed
    cases failed
    exact absurd short long
  · have enough : versionStringLen ≤ start.length := Nat.le_of_not_lt few
    have longer := version_parse_longer start more enough
    cases parsed : VersionString.parse start with
    | ok given =>
        rw [(read_version_ok start given).mpr parsed] at failed
        cases failed
    | error v1Error =>
        rw [parsed] at longer
        rw [read_version_error start v1Error parsed] at failed
        rw [read_version_error _ v1Error longer]
        by_cases second : (VersionStringV2.parse start).isOk = true
        · rw [if_pos (version_parse_v2_enough start more second).2]
          exact ⟨_, rfl, unsupported⟩
        · rw [if_neg second] at failed
          by_cases begun : startsV2 start
          · rw [if_pos begun] at failed
            cases failed
            exact absurd (needs_bytes _) long
          · have begun' : ¬startsV2 (start ++ more) :=
              fun later => begun (starts_v2_shorter start more (Nat.le_trans (by decide) enough) later)
            rw [if_neg begun] at failed
            rw [if_neg begun']
            split_ifs
            · exact ⟨_, rfl, unsupported⟩
            · exact ⟨error, failed, long⟩

theorem version_string_reads : Reads NeedsBytes (fun _ => versionStringLen) readVersionString := by
  have enough : ∀ tail vs, readVersionString tail = .ok vs → versionStringLen ≤ tail.length := by
    intro tail vs accepted
    apply Nat.le_of_not_lt
    intro few
    rw [read_version_ok, version_parse_few tail few] at accepted
    cases accepted
  apply Reads.mk
  · apply Steady.mk
    · intro start more vs accepted
      have there := enough start vs accepted
      rw [read_version_ok] at accepted ⊢
      rw [version_parse_longer start more there, accepted]
    · exact read_version_refused
  · intro stream vs accepted
    have there := enough stream vs accepted
    have alone := version_parse_longer (stream.take versionStringLen) (stream.drop versionStringLen)
      (by rw [List.length_take, Nat.min_eq_left there])
    rw [List.take_append_drop] at alone
    rw [read_version_ok] at accepted ⊢
    rw [← alone, accepted]
  · exact fun stream vs accepted => enough stream vs accepted

end Version

section Declared

def bodyOffset (cold : ColdCode) (input : Bytes) : Except ParseError Nat :=
  if cold = .json then jsonOffset input else binaryVersionOffset input cold

def bodyVersion (cold : ColdCode) (input : Bytes) : Except ParseError (Nat × VersionString) :=
  bodyOffset cold input >>= fun offset => readVersionString (input.drop offset) >>= fun vs => pure (offset, vs)

def declaredSize (cold : ColdCode) (read : Nat × VersionString) : Except ParseError Nat := do
  rejectIf (serializedAs cold read.2.kind = false) (.versionKindMismatch cold read.2.kind)
  rejectIf (read.2.size < read.1 + versionStringLen) (.invalidEventSize read.2.size (read.1 + versionStringLen))
  pure read.2.size

theorem body_offset_reads (cold : ColdCode) : Reads NeedsBytes id (bodyOffset cold) := by
  unfold bodyOffset
  by_cases json : cold = .json
  · simp only [if_pos json]
    exact json_offset_reads
  · simp only [if_neg json]
    exact version_offset_reads cold

theorem body_version_reads (cold : ColdCode) : Reads NeedsBytes (fun read => read.1 + versionStringLen) (bodyVersion cold) :=
  reads_then (fun offset vs => (offset, vs)) (body_offset_reads cold) (fun _ => version_string_reads) (fun _ _ => rfl)

theorem event_size_at_eq (input : Bytes) (offset : Nat) (cold : ColdCode) (within : offset ≤ input.length) :
    JsonVersionHead.eventSizeAt input offset cold =
      readVersionString (input.drop offset) >>= fun vs => declaredSize cold (offset, vs) := by
  simp only [JsonVersionHead.eventSizeAt, declaredSize, rejectIf, if_neg (Nat.not_lt_of_le within), ok_bind]

theorem event_size_offset (input : Bytes) (cold : ColdCode) (some' : input ≠ []) :
    JsonVersionHead.eventSize input cold =
      bodyOffset cold input >>= fun offset => JsonVersionHead.eventSizeAt input offset cold := by
  unfold JsonVersionHead.eventSize bodyOffset
  by_cases json : cold = .json
  · simp only [if_pos json, json_offset_eq input some']
  · simp only [if_neg json]

theorem event_size_eq (input : Bytes) (cold : ColdCode) (some' : input ≠ []) :
    JsonVersionHead.eventSize input cold = bodyVersion cold input >>= declaredSize cold := by
  rw [event_size_offset input cold some', bodyVersion, bind_assoc]
  cases placed : bodyOffset cold input with
  | error error => rfl
  | ok offset =>
      rw [ok_bind, ok_bind, event_size_at_eq input offset cold ((body_offset_reads cold).within input offset placed), bind_assoc]
      rfl

theorem declared_size_large (cold : ColdCode) (read : Nat × VersionString) (size : Nat)
    (declared : declaredSize cold read = .ok size) : read.1 + versionStringLen ≤ size := by
  simp only [declaredSize, bind_ok, reject_if_ok, exists_done, pure_ok, Nat.not_lt] at declared
  rw [← declared.2.2]
  exact declared.2.1

theorem event_size_steady (cold : ColdCode) (start more : Bytes) (some' : start ≠ []) :
    (∀ size, JsonVersionHead.eventSize start cold = .ok size → JsonVersionHead.eventSize (start ++ more) cold = .ok size) ∧
      ∀ error, JsonVersionHead.eventSize start cold = .error error → ¬NeedsBytes error →
        ∃ other, JsonVersionHead.eventSize (start ++ more) cold = .error other ∧ ¬NeedsBytes other := by
  have steady := steady_bind NeedsBytes (bodyVersion cold) (fun read _ => declaredSize cold read) (body_version_reads cold).steady
    (fun read => steady_const NeedsBytes (declaredSize cold read))
  rw [event_size_eq start cold some', event_size_eq (start ++ more) cold (by simp [some'])]
  exact ⟨steady.settled start more, steady.refused start more⟩

-- A declaration that has not arrived yet is of a body that has not arrived yet.
theorem event_size_short (cold : ColdCode) (start more : Bytes) (error : ParseError) (size : Nat) (some' : start ≠ [])
    (waits : JsonVersionHead.eventSize start cold = .error error)
    (declared : JsonVersionHead.eventSize (start ++ more) cold = .ok size) : start.length < size := by
  rw [event_size_eq start cold some'] at waits
  rw [event_size_eq _ cold (by simp [some'])] at declared
  obtain ⟨read, head, checked⟩ := (bind_ok _ _ _).mp declared
  have large := declared_size_large cold read size checked
  have reads := body_version_reads cold
  cases before : bodyVersion cold start with
  | error other =>
      have few := short_before NeedsBytes _ _ reads.steady reads.exact start more other read before head
      omega
  | ok early =>
      rw [reads.steady.settled start more early before] at head
      cases head
      rw [before, ok_bind, checked] at waits
      cases waits

theorem event_size_pos (cold : ColdCode) (input : Bytes) (size : Nat) (some' : input ≠ [])
    (declared : JsonVersionHead.eventSize input cold = .ok size) : 0 < size := by
  rw [event_size_eq input cold some'] at declared
  obtain ⟨read, _, checked⟩ := (bind_ok _ _ _).mp declared
  have large := declared_size_large cold read size checked
  have positive : 0 < versionStringLen := by decide
  omega

theorem event_size_exact (cold : ColdCode) (stream : Bytes) (count size : Nat) (some' : stream ≠ [])
    (declared : JsonVersionHead.eventSize stream cold = .ok size) (enough : size ≤ count) :
    JsonVersionHead.eventSize (stream.take count) cold = .ok size := by
  rw [event_size_eq stream cold some'] at declared
  obtain ⟨read, head, checked⟩ := (bind_ok _ _ _).mp declared
  have large := declared_size_large cold read size checked
  have positive : 0 < versionStringLen := by decide
  have again := reads_again (body_version_reads cold) stream ((stream.take count).drop (read.1 + versionStringLen)) read head
  have joined : stream.take (read.1 + versionStringLen) ++ (stream.take count).drop (read.1 + versionStringLen) =
      stream.take count := by
    rw [show stream.take (read.1 + versionStringLen) = (stream.take count).take (read.1 + versionStringLen) by
      rw [List.take_take, Nat.min_eq_left (by omega)], List.take_append_drop]
  rw [joined] at again
  rw [event_size_eq _ cold, again]
  · exact checked
  · intro empty
    rw [List.take_eq_nil_iff] at empty
    rcases empty with none | none
    · omega
    · exact some' none

end Declared

end Cesr.Stream
