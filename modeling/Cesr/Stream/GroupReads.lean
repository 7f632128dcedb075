import Cesr.Stream.Readers

set_option autoImplicit false

namespace Cesr.Stream

open Sextets Base64 Checks Calls Resume

theorem read_counter_v1_reads : Reads NeedsBytes (fun read => read.1.fullSize) readCounterV1 :=
  read_counter_reads counter_table_v1

theorem read_counter_v2_reads : Reads NeedsBytes (fun read => read.1.fullSize) readCounterV2 :=
  read_counter_reads counter_table_v2

theorem read_shape_reads (version : CesrVersion) : Reads NeedsBytes (fun head => head.2.1) (readShape version) := by
  cases version with
  | v1 =>
      apply reads_after (fun read : CounterCodeV1 × U32 => pure (shapeV1 read.1, read.1.fullSize, read.2)) read_counter_v1_reads
      intro read head same
      rw [← (pure_ok _ _).mp same]
  | v2 =>
      apply reads_after (fun read : CounterCodeV2 × U32 => pure (shapeV2 read.1, read.1.fullSize, read.2)) read_counter_v2_reads
      intro read head same
      rw [← (pure_ok _ _).mp same]

theorem read_count_reads (cursor : NestedSigCursor) (version : CesrVersion) :
    Reads NeedsBytes Prod.snd (cursor.readCount version) := by
  cases version with
  | v1 =>
      apply reads_after
        (fun read : CounterCodeV1 × U32 =>
          rejectIf (read.1 ≠ .controllerIdxSigs) (.nestedCounterMismatch cursor.outerV1 "-A" read.1.asStr) >>= fun _ =>
            pure (read.2, read.1.fullSize))
        read_counter_v1_reads
      intro read counted same
      simp only [bind_ok, pure_ok, exists_done] at same
      rw [← same.2]
  | v2 =>
      apply reads_after
        (fun read : CounterCodeV2 × U32 =>
          rejectIf (read.1 ≠ .controllerIdxSigs) (.nestedCounterMismatch cursor.outerV2 "-K" read.1.asStr) >>= fun _ =>
            pure (read.2, read.1.fullSize))
        read_counter_v2_reads
      intro read counted same
      simp only [bind_ok, pure_ok, exists_done] at same
      rw [← same.2]

theorem read_bounded_reads (version : CesrVersion) (maxGroupElements maxSignatures : Nat) (cursor : NestedSigCursor) :
    Reads NeedsBytes Prod.snd (NestedSigCursor.readBounded version maxGroupElements maxSignatures cursor) := by
  apply reads_after
    (fun read : U32 × Nat =>
      rejectIf (maxGroupElements < read.1.val) (.limitExceeded .groupElements maxGroupElements read.1.val) >>= fun _ =>
        rejectIf (maxSignatures < read.1.val) (.limitExceeded .signatures maxSignatures read.1.val) >>= fun _ => pure read)
    (read_count_reads cursor version)
  intro read counted same
  simp only [bind_ok, pure_ok, exists_done] at same
  rw [← same.2.2]

theorem read_bounded_ok (version : CesrVersion) (maxGroupElements maxSignatures : Nat) (cursor : NestedSigCursor)
    (tail : Bytes) (read : U32 × Nat) :
    NestedSigCursor.readBounded version maxGroupElements maxSignatures cursor tail = .ok read ↔
      cursor.readCount version tail = .ok read ∧ read.1.val ≤ maxGroupElements ∧ read.1.val ≤ maxSignatures := by
  simp only [NestedSigCursor.readBounded, bind_ok, reject_if_ok, exists_done, pure_ok]
  apply Iff.intro
  · intro found
    obtain ⟨given, counted, elements, signatures, same⟩ := found
    rw [← same]
    exact ⟨counted, Nat.le_of_not_lt elements, Nat.le_of_not_lt signatures⟩
  · intro found
    exact ⟨read, found.1, Nat.not_lt_of_le found.2.1, Nat.not_lt_of_le found.2.2, rfl⟩

section Cursor

def tookMatters (count total : Nat) (cursor : NestedSigCursor) : NestedSigCursor :=
  { cursor with pos := cursor.pos + total, mattersLeft := cursor.mattersLeft - count }

def tookSignatures (count total : Nat) (cursor : NestedSigCursor) : NestedSigCursor :=
  { cursor with pos := cursor.pos + total, sigsLeft := cursor.sigsLeft.map (· - count) }

theorem took_matters_joins (count first others : Nat) (cursor : NestedSigCursor) :
    tookMatters count others (cursor.tookMatter first) = tookMatters (count + 1) (first + others) cursor := by
  simp only [tookMatters, NestedSigCursor.tookMatter, NestedSigCursor.mk.injEq, and_true, true_and]
  omega

theorem took_signatures_joins (count first others : Nat) (cursor : NestedSigCursor) :
    tookSignatures count others (cursor.tookSignature first) = tookSignatures (count + 1) (first + others) cursor := by
  have fewer : (cursor.sigsLeft.map (· - 1)).map (· - count) = cursor.sigsLeft.map (· - (count + 1)) := by
    cases cursor.sigsLeft with
    | none => rfl
    | some left =>
        simp only [Option.map_some, Option.some.injEq]
        omega
  simp only [tookSignatures, NestedSigCursor.tookSignature, fewer, Nat.add_assoc]

theorem took_signatures_rests (cursor : NestedSigCursor) : tookSignatures 0 0 cursor = cursor := by
  cases cursor with
  | mk pos initialMatters mattersLeft sigsLeft declaredSigs outerV1 outerV2 =>
      cases sigsLeft <;> rfl

theorem take_matters_ok (input : Bytes) (cursor next : NestedSigCursor) (reach : cursor.pos ≤ input.length) :
    exec (whileLeft NestedSigCursor.mattersLeft (NestedSigCursor.takeMatter input)) cursor = (.ok (), next) ↔
      ∃ total, skipMatters cursor.mattersLeft (input.drop cursor.pos) = .ok total ∧
        next = tookMatters cursor.mattersLeft total cursor := by
  rw [exec_while_left, skip_matters_eq]
  exact repeat_read_at_ok tookMatters (fun _ _ => rfl) (fun _ => rfl) took_matters_joins skip_matter_reads.within input
    cursor.mattersLeft cursor next reach

theorem take_signatures_ok (input : Bytes) (cursor next : NestedSigCursor) (reach : cursor.pos ≤ input.length) :
    exec (whileLeft NestedSigCursor.signaturesLeft (NestedSigCursor.takeSignature input)) cursor = (.ok (), next) ↔
      ∃ total, skipIndexers cursor.signaturesLeft (input.drop cursor.pos) = .ok total ∧
        next = tookSignatures cursor.signaturesLeft total cursor := by
  rw [exec_while_left, skip_indexers_eq]
  exact repeat_read_at_ok tookSignatures (fun _ _ => rfl) took_signatures_rests took_signatures_joins
    skip_indexer_reads.within input cursor.signaturesLeft cursor next reach

theorem take_counter_some (version : CesrVersion) (maxGroupElements maxSignatures : Nat) (input : Bytes)
    (cursor : NestedSigCursor) (left : Nat) (counted : cursor.sigsLeft = some left) :
    exec (NestedSigCursor.takeCounter version maxGroupElements maxSignatures input) cursor = (.ok (), cursor) := by
  have found : ¬cursor.sigsLeft = none := by
    rw [counted]
    exact nofun
  rw [NestedSigCursor.takeCounter, exec_get_bind, if_neg found]
  rfl

theorem take_counter_none (version : CesrVersion) (maxGroupElements maxSignatures : Nat) (input : Bytes)
    (cursor : NestedSigCursor) (open' : cursor.sigsLeft = none) :
    exec (NestedSigCursor.takeCounter version maxGroupElements maxSignatures input) cursor =
      exec (readAt NestedSigCursor.pos .needBytes (NestedSigCursor.readBounded version maxGroupElements maxSignatures)
        NestedSigCursor.tookCounter input) cursor := by
  rw [NestedSigCursor.takeCounter, exec_get_bind, if_pos open']

theorem read_bounded_outer (version : CesrVersion) (maxGroupElements maxSignatures : Nat) (left right : NestedSigCursor)
    (first : left.outerV1 = right.outerV1) (second : left.outerV2 = right.outerV2) :
    NestedSigCursor.readBounded version maxGroupElements maxSignatures left =
      NestedSigCursor.readBounded version maxGroupElements maxSignatures right := by
  funext tail
  unfold NestedSigCursor.readBounded NestedSigCursor.readCount
  rw [first, second]

def endedAt (matters : Nat) (read : U32 × Nat) (signatures : Nat) (cursor : NestedSigCursor) : NestedSigCursor :=
  tookSignatures read.1.val signatures ((tookMatters cursor.mattersLeft matters cursor).tookCounter read)

theorem advance_bounded_ok (version : CesrVersion) (maxGroupElements maxSignatures : Nat) (input : Bytes)
    (cursor next : NestedSigCursor) (size : Nat) (start : cursor.pos = 0) (open' : cursor.sigsLeft = none) :
    exec (NestedSigCursor.advanceBounded version maxGroupElements maxSignatures input) cursor = (.ok size, next) ↔
      ∃ matters read signatures, skipMatters cursor.mattersLeft input = .ok matters ∧
        NestedSigCursor.readBounded version maxGroupElements maxSignatures cursor (input.drop matters) = .ok read ∧
        skipIndexers read.1.val (input.drop (matters + read.2)) = .ok signatures ∧
        size = matters + read.2 + signatures ∧ next = endedAt matters read signatures cursor := by
  have whole : input.drop cursor.pos = input := by rw [start, List.drop_zero]
  have reach : cursor.pos ≤ input.length := by
    rw [start]
    exact Nat.zero_le _
  have outer : ∀ matters, NestedSigCursor.readBounded version maxGroupElements maxSignatures
      (tookMatters cursor.mattersLeft matters cursor) =
        NestedSigCursor.readBounded version maxGroupElements maxSignatures cursor :=
    fun matters => read_bounded_outer version maxGroupElements maxSignatures _ _ rfl rfl
  unfold NestedSigCursor.advanceBounded
  simp only [exec_bind_ok, take_matters_ok input cursor _ reach, whole]
  apply Iff.intro
  · intro found
    obtain ⟨_, first, ⟨matters, skipped, moved⟩, _, second, counted, _, third, listed, _, last, kept, final⟩ := found
    have skip := skip_matters_reads cursor.mattersLeft
    have inside := skip.within input matters skipped
    have at' : first.pos = matters := by rw [moved, tookMatters, start, Nat.zero_add]
    have reach' : first.pos ≤ input.length := by
      rw [at']
      exact inside
    rw [take_counter_none version maxGroupElements maxSignatures input first (by rw [moved]; exact open'),
      read_at_ok _ _ _ _ _ _ _ reach', at', moved, outer] at counted
    obtain ⟨read, accepted, moved'⟩ := counted
    have inside' := (read_bounded_reads version maxGroupElements maxSignatures cursor).within _ read accepted
    rw [List.length_drop] at inside'
    have at'' : second.pos = matters + read.2 := by
      rw [moved', NestedSigCursor.tookCounter, tookMatters, start, Nat.zero_add]
    have left : second.signaturesLeft = read.1.val := by
      rw [moved']
      rfl
    have reach'' : second.pos ≤ input.length := by
      rw [at'']
      have inside'' : matters ≤ input.length := inside
      omega
    rw [take_signatures_ok input second third reach'', at'', left] at listed
    obtain ⟨signatures, skipped', moved''⟩ := listed
    rw [exec_get] at kept
    cases kept
    rw [exec_pure] at final
    cases final
    refine ⟨matters, read, signatures, skipped, accepted, skipped', ?_, ?_⟩
    · rw [moved'', moved', tookSignatures, NestedSigCursor.tookCounter, tookMatters, start, Nat.zero_add]
    · rw [moved'', moved', endedAt]
  · intro found
    obtain ⟨matters, read, signatures, skipped, accepted, skipped', counted, final⟩ := found
    have inside := (skip_matters_reads cursor.mattersLeft).within input matters skipped
    have inside' := (read_bounded_reads version maxGroupElements maxSignatures cursor).within _ read accepted
    rw [List.length_drop] at inside'
    have here : (tookMatters cursor.mattersLeft matters cursor).pos = matters := by rw [tookMatters, start, Nat.zero_add]
    have there : ((tookMatters cursor.mattersLeft matters cursor).tookCounter read).pos = matters + read.2 := by
      rw [NestedSigCursor.tookCounter, here]
    have reach' : (tookMatters cursor.mattersLeft matters cursor).pos ≤ input.length := by
      rw [here]
      exact inside
    have reach'' : ((tookMatters cursor.mattersLeft matters cursor).tookCounter read).pos ≤ input.length := by
      rw [there]
      have inside'' : matters ≤ input.length := inside
      omega
    refine ⟨(), _, ⟨matters, skipped, rfl⟩, (), (tookMatters cursor.mattersLeft matters cursor).tookCounter read, ?_, (),
      next, ?_, next, next, rfl, ?_⟩
    · rw [take_counter_none version maxGroupElements maxSignatures input _ (by rw [tookMatters]; exact open'),
        read_at_ok _ _ _ _ _ _ _ reach', here, outer]
      exact ⟨read, accepted, rfl⟩
    · rw [take_signatures_ok input _ next reach'', there]
      exact ⟨signatures, skipped', final⟩
    · rw [final, counted, exec_pure, endedAt, tookSignatures, there]

end Cursor

end Cesr.Stream
