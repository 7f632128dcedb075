import Cesr.Stream.GroupReads

set_option autoImplicit false

namespace Cesr.Stream

open Checks Calls Resume

def NestedWithin (input : Bytes) (cursor : NestedSigCursor) : Prop := cursor.pos ≤ input.length

def NestedCounting (input : Bytes) (cursor : NestedSigCursor) : Prop :=
  NestedWithin input cursor ∧ cursor.mattersLeft = 0

def NestedListing (input : Bytes) (cursor : NestedSigCursor) : Prop :=
  NestedCounting input cursor ∧ cursor.sigsLeft ≠ none

def NestedDone (input : Bytes) (cursor : NestedSigCursor) : Prop :=
  NestedCounting input cursor ∧ cursor.sigsLeft = some 0

theorem nested_within_longer (input more : Bytes) (cursor : NestedSigCursor) (within : NestedWithin input cursor) :
    NestedWithin (input ++ more) cursor := by
  unfold NestedWithin at within ⊢
  rw [List.length_append]
  omega

section Phases

variable (version : CesrVersion) (maxGroupElements maxSignatures : Nat)

theorem take_matter_resumable :
    CursorResumable (fun input cursor => NestedWithin input cursor ∧ 0 < cursor.mattersLeft) NeedsBytes
      NestedSigCursor.takeMatter := by
  apply read_at_resumable
  · exact fun input cursor within => within.1
  · exact fun input more cursor within => ⟨nested_within_longer input more cursor within.1, within.2⟩
  · exact fun _ => skip_matter_reads.steady

theorem take_matter_counts (input : Bytes) (cursor next : NestedSigCursor) (within : NestedWithin input cursor)
    (some : 0 < cursor.mattersLeft) (taken : exec (NestedSigCursor.takeMatter input) cursor = (.ok (), next)) :
    NestedWithin input next ∧ cursor.mattersLeft = next.mattersLeft + 1 := by
  obtain ⟨size, skipped, moved⟩ := (read_at_ok _ _ _ _ _ _ _ within).mp taken
  have inside := skip_matter_reads.within _ size skipped
  rw [List.length_drop, id] at inside
  unfold NestedWithin at within ⊢
  rw [moved, NestedSigCursor.tookMatter]
  exact ⟨by dsimp only; omega, by dsimp only; omega⟩

theorem take_matters_resumable :
    CursorResumable NestedWithin NeedsBytes
      (fun input => whileLeft NestedSigCursor.mattersLeft (NestedSigCursor.takeMatter input)) := by
  apply resumable_while NestedSigCursor.mattersLeft NestedSigCursor.takeMatter take_matter_resumable
  · exact take_matter_counts
  · intro input cursor error next within _ failed _
    obtain ⟨_, same⟩ := (read_at_error _ _ _ _ _ _ _ _ within).mp failed
    rw [same]

theorem take_counter_resumable :
    CursorResumable NestedCounting NeedsBytes (NestedSigCursor.takeCounter version maxGroupElements maxSignatures) := by
  have longer : ∀ (input more : Bytes) cursor, NestedCounting input cursor → NestedCounting (input ++ more) cursor :=
    fun input more cursor within => ⟨nested_within_longer input more cursor within.1, within.2⟩
  have read : CursorResumable NestedCounting NeedsBytes (readAt NestedSigCursor.pos .needBytes
      (NestedSigCursor.readBounded version maxGroupElements maxSignatures) NestedSigCursor.tookCounter) := by
    apply read_at_resumable
    · exact fun input cursor within => within.1
    · exact longer
    · exact fun cursor => (read_bounded_reads version maxGroupElements maxSignatures cursor).steady
  apply cursor_resumable
  · intro start more cursor value next within taken
    cases counted : cursor.sigsLeft with
    | some left =>
        rw [take_counter_some _ _ _ _ _ left counted] at taken ⊢
        exact taken
    | none =>
        rw [take_counter_none _ _ _ _ _ counted] at taken ⊢
        exact resumable_ok read start more cursor next value within taken
  · intro start more cursor error next within failed long
    cases counted : cursor.sigsLeft with
    | some left =>
        rw [take_counter_some _ _ _ _ _ left counted] at failed
        cases failed
    | none =>
        rw [take_counter_none _ _ _ _ _ counted] at failed ⊢
        exact resumable_error read start more cursor next error within failed long
  · intro start more cursor error next within failed wait
    cases counted : cursor.sigsLeft with
    | some left =>
        rw [take_counter_some _ _ _ _ _ left counted] at failed
        cases failed
    | none =>
        rw [take_counter_none _ _ _ _ _ counted] at failed
        obtain ⟨_, same⟩ := (read_at_error _ _ _ _ _ _ _ _ within.1).mp failed
        rw [same]
        exact ⟨rfl, longer start more cursor within⟩

theorem take_counter_reaches (input : Bytes) (cursor next : NestedSigCursor) (within : NestedCounting input cursor)
    (taken : exec (NestedSigCursor.takeCounter version maxGroupElements maxSignatures input) cursor = (.ok (), next)) :
    NestedListing input next := by
  cases counted : cursor.sigsLeft with
  | some left =>
      rw [take_counter_some _ _ _ _ _ left counted] at taken
      cases taken
      exact ⟨within, by rw [counted]; exact nofun⟩
  | none =>
      rw [take_counter_none _ _ _ _ _ counted] at taken
      obtain ⟨read, accepted, moved⟩ := (read_at_ok _ _ _ _ _ _ _ within.1).mp taken
      have inside := (read_bounded_reads version maxGroupElements maxSignatures cursor).within _ read accepted
      rw [List.length_drop] at inside
      have reach : cursor.pos ≤ input.length := within.1
      rw [moved]
      refine ⟨⟨?_, within.2⟩, nofun⟩
      show cursor.pos + read.2 ≤ input.length
      omega

theorem take_signature_counts (input : Bytes) (cursor next : NestedSigCursor) (within : NestedListing input cursor)
    (some : 0 < cursor.signaturesLeft) (taken : exec (NestedSigCursor.takeSignature input) cursor = (.ok (), next)) :
    NestedListing input next ∧ cursor.signaturesLeft = next.signaturesLeft + 1 := by
  obtain ⟨size, skipped, moved⟩ := (read_at_ok _ _ _ _ _ _ _ within.1.1).mp taken
  have inside := skip_indexer_reads.within _ size skipped
  rw [List.length_drop, id] at inside
  have reach : cursor.pos ≤ input.length := within.1.1
  rw [moved]
  cases counted : cursor.sigsLeft with
  | none => exact absurd counted within.2
  | some left =>
      unfold NestedSigCursor.signaturesLeft at some ⊢
      rw [counted, Option.getD_some] at some
      rw [NestedSigCursor.tookSignature]
      refine ⟨⟨⟨?_, within.1.2⟩, ?_⟩, ?_⟩
      · show cursor.pos + size ≤ input.length
        omega
      · rw [counted]
        exact Option.some_ne_none _
      · rw [counted]
        show left = left - 1 + 1
        omega

theorem take_signatures_resumable :
    CursorResumable NestedListing NeedsBytes
      (fun input => whileLeft NestedSigCursor.signaturesLeft (NestedSigCursor.takeSignature input)) := by
  apply resumable_while NestedSigCursor.signaturesLeft NestedSigCursor.takeSignature
  · apply read_at_resumable
    · exact fun input cursor within => within.1.1.1
    · intro input more cursor within
      exact ⟨⟨⟨nested_within_longer input more cursor within.1.1.1, within.1.1.2⟩, within.1.2⟩, within.2⟩
    · exact fun _ => skip_indexer_reads.steady
  · exact take_signature_counts
  · intro input cursor error next within _ failed _
    obtain ⟨_, same⟩ := (read_at_error _ _ _ _ _ _ _ _ within.1.1).mp failed
    rw [same]

theorem take_matters_reaches (input : Bytes) (cursor next : NestedSigCursor) (within : NestedWithin input cursor)
    (taken : exec (whileLeft NestedSigCursor.mattersLeft (NestedSigCursor.takeMatter input)) cursor = (.ok (), next)) :
    NestedCounting input next := by
  obtain ⟨total, skipped, moved⟩ := (take_matters_ok input cursor next within).mp taken
  have inside := (skip_matters_reads cursor.mattersLeft).within _ total skipped
  rw [List.length_drop, id] at inside
  have reach : cursor.pos ≤ input.length := within
  rw [moved]
  refine ⟨?_, Nat.sub_self _⟩
  show cursor.pos + total ≤ input.length
  omega

theorem take_signatures_reaches (input : Bytes) (cursor next : NestedSigCursor) (within : NestedListing input cursor)
    (taken : exec (whileLeft NestedSigCursor.signaturesLeft (NestedSigCursor.takeSignature input)) cursor = (.ok (), next)) :
    NestedDone input next := by
  obtain ⟨total, skipped, moved⟩ := (take_signatures_ok input cursor next within.1.1).mp taken
  have inside := (skip_indexers_reads cursor.signaturesLeft).within _ total skipped
  rw [List.length_drop, id] at inside
  have reach : cursor.pos ≤ input.length := within.1.1
  rw [moved]
  refine ⟨⟨?_, within.1.2⟩, ?_⟩
  · show cursor.pos + total ≤ input.length
    omega
  · cases counted : cursor.sigsLeft with
    | none => exact absurd counted within.2
    | some left =>
        simp only [tookSignatures, NestedSigCursor.signaturesLeft, counted, Option.map_some, Option.getD_some, Nat.sub_self]

theorem advance_bounded_resumable :
    CursorResumable NestedWithin NeedsBytes (NestedSigCursor.advanceBounded version maxGroupElements maxSignatures) := by
  have position : CursorResumable NestedDone NeedsBytes
      (fun _ : Bytes => (get >>= fun cursor => pure cursor.pos : Mutator NestedSigCursor ParseError Nat)) := by
    apply cursor_resumable
    · exact fun start more cursor value next within given => given
    · intro start more cursor error next within given long
      cases given
    · intro start more cursor error next within given wait
      cases given
  apply resumable_bind _ _ take_matters_resumable
  · apply resumable_bind _ _ (take_counter_resumable version maxGroupElements maxSignatures)
    · apply resumable_bind _ _ take_signatures_resumable position take_signatures_reaches
      intro input cursor done
      refine ⟨⟨done.1, by rw [done.2]; exact nofun⟩, ?_⟩
      rw [exec_while_left, NestedSigCursor.signaturesLeft, done.2]
      rfl
    · exact take_counter_reaches version maxGroupElements maxSignatures
    · intro input cursor listing
      refine ⟨listing.1, ?_⟩
      cases counted : cursor.sigsLeft with
      | none => exact absurd counted listing.2
      | some left => exact take_counter_some _ _ _ _ _ left counted
  · exact take_matters_reaches
  · intro input cursor counting
    refine ⟨counting.1, ?_⟩
    rw [exec_while_left, counting.2]
    rfl

theorem advance_bounded_within (input : Bytes) (cursor next : NestedSigCursor) (size : Nat) (within : NestedWithin input cursor)
    (taken : exec (NestedSigCursor.advanceBounded version maxGroupElements maxSignatures input) cursor = (.ok size, next)) :
    size ≤ input.length := by
  unfold NestedSigCursor.advanceBounded at taken
  simp only [exec_bind_ok, exec_get, exec_pure] at taken
  obtain ⟨_, first, matters, _, second, counter, _, third, signatures, _, last, kept, final⟩ := taken
  have counting := take_matters_reaches input cursor first within matters
  have listing := take_counter_reaches version maxGroupElements maxSignatures input first second counting counter
  have done := take_signatures_reaches input second third listing signatures
  cases kept
  cases final
  exact done.1.1

end Phases

section Skips

theorem u32_le_usize (count : U32) : count.val ≤ usizeMax := by
  have small := count.isLt
  unfold usizeMax
  omega

theorem advance_new_ok (version : CesrVersion) (input : Bytes) (matters : Nat) (outerV1 outerV2 : String) (size : Nat) :
    outcome (NestedSigCursor.advance version input) (NestedSigCursor.new matters outerV1 outerV2) = .ok size ↔
      ∃ head read signatures, skipMatters matters input = .ok head ∧
        (NestedSigCursor.new matters outerV1 outerV2).readCount version (input.drop head) = .ok read ∧
        skipIndexers read.1.val (input.drop (head + read.2)) = .ok signatures ∧ size = head + read.2 + signatures := by
  have spec := advance_bounded_ok version usizeMax usizeMax input (NestedSigCursor.new matters outerV1 outerV2)
  have ran : outcome (NestedSigCursor.advance version input) (NestedSigCursor.new matters outerV1 outerV2) = .ok size ↔
      ∃ next, exec (NestedSigCursor.advanceBounded version usizeMax usizeMax input)
        (NestedSigCursor.new matters outerV1 outerV2) = (.ok size, next) := by
    apply Iff.intro
    · intro accepted
      exact ⟨_, Prod.ext accepted rfl⟩
    · intro found
      obtain ⟨next, executed⟩ := found
      exact congrArg Prod.fst executed
  rw [ran]
  apply Iff.intro
  · intro found
    obtain ⟨next, executed⟩ := found
    obtain ⟨head, read, signatures, skipped, bounded, listed, counted, _⟩ := (spec next size rfl rfl).mp executed
    exact ⟨head, read, signatures, skipped, ((read_bounded_ok _ _ _ _ _ _).mp bounded).1, listed, counted⟩
  · intro found
    obtain ⟨head, read, signatures, skipped, counter, listed, counted⟩ := found
    refine ⟨_, (spec _ size rfl rfl).mpr ⟨head, read, signatures, skipped, ?_, listed, counted, rfl⟩⟩
    exact (read_bounded_ok _ _ _ _ _ _).mpr ⟨counter, u32_le_usize read.1, u32_le_usize read.1⟩

theorem nested_new_within (input : Bytes) (matters : Nat) (outerV1 outerV2 : String) :
    NestedWithin input (NestedSigCursor.new matters outerV1 outerV2) := Nat.zero_le _

theorem advance_new_reads (version : CesrVersion) (matters : Nat) (outerV1 outerV2 : String) :
    Reads NeedsBytes id
      (fun input => outcome (NestedSigCursor.advance version input) (NestedSigCursor.new matters outerV1 outerV2)) := by
  have resumable := advance_bounded_resumable version usizeMax usizeMax
  apply Reads.mk
  · apply Steady.mk
    · intro start more size accepted
      have given : exec (NestedSigCursor.advanceBounded version usizeMax usizeMax start)
          (NestedSigCursor.new matters outerV1 outerV2) = (.ok size, _) := Prod.ext accepted rfl
      exact congrArg Prod.fst (resumable_ok resumable start more _ _ size (nested_new_within start _ _ _) given)
    · intro start more error failed long
      have given : exec (NestedSigCursor.advanceBounded version usizeMax usizeMax start)
          (NestedSigCursor.new matters outerV1 outerV2) = (.error error, _) := Prod.ext failed rfl
      obtain ⟨other, final, again, longer⟩ :=
        resumable_error resumable start more _ _ error (nested_new_within start _ _ _) given long
      exact ⟨other, congrArg Prod.fst again, longer⟩
  · intro input size accepted
    obtain ⟨head, read, signatures, skipped, counter, listed, counted⟩ := (advance_new_ok _ _ _ _ _ _).mp accepted
    have counts := read_count_reads (NestedSigCursor.new matters outerV1 outerV2) version
    have inside := (skip_matters_reads matters).within input head skipped
    rw [id] at inside
    refine (advance_new_ok _ _ _ _ _ _).mpr ⟨head, read, signatures, ?_, ?_, ?_, counted⟩
    · have again := reads_again (skip_matters_reads matters) input ((input.drop head).take (size - head)) head skipped
      rwa [id, ← List.take_add, Nat.add_sub_cancel' (by omega)] at again
    · have again := reads_again counts (input.drop head) (((input.drop head).drop read.2).take signatures) read counter
      rw [← List.take_add] at again
      rw [id, List.drop_take, show size - head = read.2 + signatures by omega]
      exact again
    · rw [id, List.drop_take, show size - (head + read.2) = signatures by omega]
      exact (skip_indexers_reads read.1.val).exact _ signatures listed
  · intro input size accepted
    obtain ⟨head, read, signatures, skipped, counter, listed, counted⟩ := (advance_new_ok _ _ _ _ _ _).mp accepted
    have inside := (skip_matters_reads matters).within input head skipped
    have inside' := (read_count_reads (NestedSigCursor.new matters outerV1 outerV2) version).within _ read counter
    have inside'' := (skip_indexers_reads read.1.val).within _ signatures listed
    rw [List.length_drop] at inside' inside''
    rw [id] at inside inside'' ⊢
    omega

theorem group_skip_reads (kind : GroupKind) (version : CesrVersion) :
    Reads NeedsBytes id (fun input => kind.skip input version) := by
  unfold GroupKind.skip
  cases kind.nestedSigGrammar with
  | some grammar => exact advance_new_reads version grammar.1 grammar.2.1 grammar.2.2
  | none =>
      apply reads_then (fun (matters indexers : Nat) => matters + indexers) (skip_matters_reads kind.skipped.1)
      · exact fun _ => skip_indexers_reads kind.skipped.2
      · exact fun _ _ => rfl

theorem skip_all_eq (kind : GroupKind) (version : CesrVersion) (count : Nat) :
    kind.skipAll version count = skipTimes (fun input => kind.skip input version) count := by
  induction count with
  | zero => rfl
  | succ count ih =>
      funext input
      rw [GroupKind.skipAll, ih, skipTimes]

theorem skip_all_reads (kind : GroupKind) (version : CesrVersion) (count : Nat) :
    Reads NeedsBytes id (kind.skipAll version count) := by
  rw [skip_all_eq]
  exact skip_times_reads (group_skip_reads kind version) count

theorem skip_matters_pos (arity : Nat) (input : Bytes) (size : Nat) (skipped : skipMatters (arity + 1) input = .ok size) :
    0 < size := by
  simp only [skipMatters, bind_ok, pure_ok] at skipped
  obtain ⟨first, taken, others, _, same⟩ := skipped
  have positive := frame_size_pos input first ((skip_matter_ok input first).mp taken).1
  omega

theorem group_skip_pos (kind : GroupKind) (version : CesrVersion) (input : Bytes) (size : Nat)
    (skipped : kind.skip input version = .ok size) : 0 < size := by
  unfold GroupKind.skip at skipped
  cases grammar : kind.nestedSigGrammar with
  | some grammar =>
      simp only [grammar] at skipped
      obtain ⟨head, read, _, _, counter, _, counted⟩ := (advance_new_ok _ _ _ _ _ _).mp skipped
      have large : 0 < read.2 := by
        cases version with
        | v1 =>
            simp only [NestedSigCursor.readCount, bind_ok, pure_ok, exists_done] at counter
            obtain ⟨given, _, _, same⟩ := counter
            have sizes := counter_v1_sizes given.1
            rw [← same]
            show 0 < given.1.fullSize
            omega
        | v2 =>
            simp only [NestedSigCursor.readCount, bind_ok, pure_ok, exists_done] at counter
            obtain ⟨given, _, _, same⟩ := counter
            have sizes := counter_v2_sizes given.1
            rw [← same]
            show 0 < given.1.fullSize
            omega
      omega
  | none =>
      simp only [grammar, bind_ok, pure_ok] at skipped
      obtain ⟨matters, first, indexers, second, same⟩ := skipped
      have some : kind.skipped.1 ≠ 0 ∨ kind.skipped.2 ≠ 0 := by cases kind <;> decide
      rcases some with some | some
      · obtain ⟨arity, named⟩ := Nat.exists_eq_succ_of_ne_zero some
        rw [named] at first
        have positive := skip_matters_pos arity input matters first
        omega
      · obtain ⟨arity, named⟩ := Nat.exists_eq_succ_of_ne_zero some
        rw [named] at second
        simp only [skipIndexers, bind_ok, pure_ok] at second
        obtain ⟨head, taken, others, _, counted⟩ := second
        have positive := skip_indexer_pos _ head taken
        omega

end Skips

end Cesr.Stream
