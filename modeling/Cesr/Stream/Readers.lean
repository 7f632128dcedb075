import Cesr.Stream.GroupFrame

set_option autoImplicit false

namespace Cesr.Stream

open Sextets Base64 Checks Resume

def NeedsBytes (error : ParseError) : Prop := ∃ missing, error = .needBytes missing

theorem needs_bytes (missing : Nat) : NeedsBytes (.needBytes missing) := ⟨missing, rfl⟩

theorem limit_not_short (kind : LimitKind) (limit actual : Nat) : ¬NeedsBytes (.limitExceeded kind limit actual) := by
  intro found
  obtain ⟨_, impossible⟩ := found
  cases impossible

theorem take_bytes_steady (count : Nat) : Steady NeedsBytes (fun remaining => takeBytes remaining count) := by
  apply steady_same
  intro start more long
  by_cases few : start.length < count
  · simp only [takeBytes, if_pos few] at long
    exact absurd (needs_bytes _) (long _ rfl)
  · have enough : ¬(start ++ more).length < count := by
      rw [List.length_append]
      omega
    simp only [takeBytes, if_neg few, if_neg enough]

theorem take_bytes_ok (remaining : Bytes) (count size : Nat) :
    takeBytes remaining count = .ok size ↔ count ≤ remaining.length ∧ size = count := by
  by_cases few : remaining.length < count
  · simp only [takeBytes, if_pos few]
    simp only [reduceCtorEq, false_iff, not_and]
    omega
  · simp only [takeBytes, if_neg few]
    simp only [Except.ok.injEq]
    omega

section Matters

def MatterShort (error : ParsingError) : Prop := NeedsBytes (ParsingError.toParse error)

theorem matter_stream_steady : Steady MatterShort MatterCode.fromBase64Stream := by
  apply steady_same
  intro start more long
  cases start with
  | nil => exact absurd (needs_bytes 1) (long .emptyStream rfl)
  | cons first rest =>
      simp only [MatterCode.fromBase64Stream, List.head?_cons, List.cons_append] at long ⊢
      cases sized : getHardSizeFromByte first with
      | none => rfl
      | some hs =>
          simp only [sized] at long
          by_cases few : (first :: rest).length < hs
          · simp only [rejectIf, if_pos few] at long
            exact absurd (needs_bytes 1) (long _ rfl)
          · have enough : ¬(first :: (rest ++ more)).length < hs := by
              rw [← List.cons_append, List.length_append]
              omega
            have same : (first :: (rest ++ more)).take hs = (first :: rest).take hs := by
              rw [← List.cons_append]
              exact List.take_append_of_le_length (Nat.le_of_not_lt few)
            simp only [rejectIf, if_neg few, if_neg enough, same]

def MatterBuildShort (error : MatterBuildError) : Prop := NeedsBytes (MatterBuildError.toParse error)

theorem frame_size_steady : Steady MatterBuildShort MatterCode.frameSize := by
  unfold MatterCode.frameSize
  apply steady_bind
  · exact steady_map_error MatterShort MatterBuildShort .parsing _ (fun _ => Iff.rfl) matter_stream_steady
  · intro code
    dsimp only
    cases code.getSizage.fs with
    | fixed fixed => exact steady_const _ _
    | small =>
        exact steady_enough MatterBuildShort _ (fun _ => .parsing (.streamTooShort .soft))
          (fun head => (parseUtf8 (head.drop _)).mapError .parsing >>= fun _ => code.sizeFromSoft (head.drop _))
          (fun _ => needs_bytes 1)
    | large =>
        exact steady_enough MatterBuildShort _ (fun _ => .parsing (.streamTooShort .soft))
          (fun head => (parseUtf8 (head.drop _)).mapError .parsing >>= fun _ => code.sizeFromSoft (head.drop _))
          (fun _ => needs_bytes 1)

theorem hard_size_pos (code : MatterCode) : 0 < code.getSizage.hs :=
  of_decide_eq_true (every_matter_code (fun code => decide (0 < code.getSizage.hs)) (by decide) code)

theorem frame_size_ok (stream : Bytes) (fs : Nat) (sized : MatterCode.frameSize stream = .ok fs) :
    ∃ code, MatterCode.fromBase64Stream stream = .ok code ∧ code.getSizage.cs ≤ fs := by
  unfold MatterCode.frameSize at sized
  obtain ⟨code, coded, sized⟩ := (bind_ok _ _ _).mp sized
  refine ⟨code, (map_error_ok _ _ _).mp coded, ?_⟩
  apply size_from_soft_large code (((stream.take code.getSizage.cs).drop (code.getSizage.hs + code.getSizage.xs)))
  unfold MatterCode.sizeFromSoft
  dsimp only at sized
  cases shape : code.getSizage.fs with
  | fixed fixed =>
      simp only [shape] at sized
      exact sized
  | small =>
      simp only [shape, bind_ok, exists_done] at sized
      obtain ⟨_, _, _, sized⟩ := sized
      simpa only [MatterCode.sizeFromSoft, shape, bind_ok] using sized
  | large =>
      simp only [shape, bind_ok, exists_done] at sized
      obtain ⟨_, _, _, sized⟩ := sized
      simpa only [MatterCode.sizeFromSoft, shape, bind_ok] using sized

theorem frame_size_pos (stream : Bytes) (fs : Nat) (sized : MatterCode.frameSize stream = .ok fs) : 0 < fs := by
  obtain ⟨code, _, large⟩ := frame_size_ok stream fs sized
  have positive := hard_size_pos code
  have counted : code.getSizage.cs = code.getSizage.hs + code.getSizage.ss := rfl
  omega

theorem frame_size_exact (stream : Bytes) (fs : Nat) (reach : fs ≤ stream.length)
    (sized : MatterCode.frameSize stream = .ok fs) : MatterCode.frameSize (stream.take fs) = .ok fs := by
  obtain ⟨code, coded, large⟩ := frame_size_ok stream fs sized
  have counted : code.getSizage.cs = code.getSizage.hs + code.getSizage.ss := rfl
  have coded' : MatterCode.fromBase64Stream (stream.take fs) = .ok code := by
    obtain ⟨rest, same⟩ := (from_base64_stream_ok stream code).mp coded
    refine (from_base64_stream_ok _ code).mpr ⟨rest.take (fs - (asBytes code.asStr).length), ?_⟩
    rw [same, List.take_append, List.take_of_length_le]
    rw [hard_size_eq]
    omega
  unfold MatterCode.frameSize at sized ⊢
  rw [coded] at sized
  rw [coded']
  simp only [Except.mapError, ok_bind] at sized ⊢
  cases shape : code.getSizage.fs with
  | fixed fixed => simpa only [shape] using sized
  | small =>
      simp only [shape, bind_ok, reject_if_ok, exists_done, List.length_take, List.take_take, Nat.min_eq_left large] at sized ⊢
      exact ⟨by omega, sized.2⟩
  | large =>
      simp only [shape, bind_ok, reject_if_ok, exists_done, List.length_take, List.take_take, Nat.min_eq_left large] at sized ⊢
      exact ⟨by omega, sized.2⟩

theorem skip_matter_ok (remaining : Bytes) (size : Nat) :
    skipMatter remaining = .ok size ↔ MatterCode.frameSize remaining = .ok size ∧ size ≤ remaining.length := by
  simp only [skipMatter, bind_ok, map_error_ok, take_bytes_ok]
  apply Iff.intro
  · intro found
    obtain ⟨fs, sized, reach, same⟩ := found
    rw [same]
    exact ⟨sized, reach⟩
  · intro found
    exact ⟨size, found.1, found.2, rfl⟩

theorem skip_matter_reads : Reads NeedsBytes id skipMatter := by
  apply Reads.mk
  · unfold skipMatter
    apply steady_bind
    · exact steady_map_error MatterBuildShort NeedsBytes _ _ (fun _ => Iff.rfl) frame_size_steady
    · exact take_bytes_steady
  · intro stream size accepted
    obtain ⟨sized, reach⟩ := (skip_matter_ok stream size).mp accepted
    refine (skip_matter_ok _ size).mpr ⟨frame_size_exact stream size reach sized, ?_⟩
    rw [List.length_take]
    exact Nat.le_min.mpr ⟨Nat.le_refl _, reach⟩
  · intro stream size accepted
    exact ((skip_matter_ok stream size).mp accepted).2

theorem skip_matters_eq (arity : Nat) : skipMatters arity = skipTimes skipMatter arity := by
  induction arity with
  | zero => rfl
  | succ arity ih =>
      funext stream
      rw [skipMatters, ih, skipTimes]

theorem skip_matters_reads (arity : Nat) : Reads NeedsBytes id (skipMatters arity) := by
  rw [skip_matters_eq]
  exact skip_times_reads skip_matter_reads arity

end Matters

section Indexers

def IndexerShort (error : IndexerParseError) : Prop := NeedsBytes (IndexerParseError.toParse error)

theorem read_hard_steady : Steady IndexerShort IndexedSigCode.readHard := by
  apply steady_same
  intro start more long
  cases start with
  | nil => exact absurd (needs_bytes 1) (long .emptyStream rfl)
  | cons first rest =>
      simp only [IndexedSigCode.readHard, List.head?_cons, List.cons_append] at long ⊢
      cases sized : hardage first with
      | none => rfl
      | some hs =>
          simp only [sized] at long
          by_cases few : (first :: rest).length < hs
          · simp only [rejectIf, if_pos few] at long
            exact absurd (needs_bytes hs) (long _ rfl)
          · have enough : ¬(first :: (rest ++ more)).length < hs := by
              rw [← List.cons_append, List.length_append]
              omega
            have same : (first :: (rest ++ more)).take hs = (first :: rest).take hs := by
              rw [← List.cons_append]
              exact List.take_append_of_le_length (Nat.le_of_not_lt few)
            simp only [rejectIf, if_neg few, if_neg enough, same]

theorem indexer_frame_size (stream : Bytes) :
    IndexedSigCode.frameSize stream = IndexedSigCode.readHard stream >>= fun code => .ok code.size := by
  unfold IndexedSigCode.frameSize
  apply bind_congr
  intro code
  simp only [IndexedSigCode.frameSizeOf, xizage_fixed]

theorem indexer_frame_steady : Steady IndexerShort IndexedSigCode.frameSize := by
  rw [funext indexer_frame_size]
  exact steady_bind IndexerShort _ (fun code _ => .ok code.size) read_hard_steady (fun code => steady_const _ (.ok code.size))

theorem skip_indexer_ok (remaining : Bytes) (size : Nat) :
    skipIndexer remaining = .ok size ↔
      ∃ code : IndexedSigCode, (∃ rest, remaining = asBytes code.asStr ++ rest) ∧ code.size ≤ remaining.length ∧ size = code.size := by
  simp only [skipIndexer, bind_ok, map_error_ok, take_bytes_ok, indexer_frame_size, read_hard_ok, Except.ok.injEq]
  apply Iff.intro
  · intro found
    obtain ⟨fs, ⟨code, hard, sized⟩, reach, same⟩ := found
    rw [← sized] at reach same
    exact ⟨code, hard, reach, same⟩
  · intro found
    obtain ⟨code, hard, reach, same⟩ := found
    exact ⟨code.size, ⟨code, hard, rfl⟩, reach, same⟩

theorem skip_indexer_pos (remaining : Bytes) (size : Nat) (skipped : skipIndexer remaining = .ok size) : 0 < size := by
  obtain ⟨code, _, _, same⟩ := (skip_indexer_ok remaining size).mp skipped
  have large := (xizage_sound code).2.2.2.1
  omega

theorem skip_indexer_reads : Reads NeedsBytes id skipIndexer := by
  apply Reads.mk
  · unfold skipIndexer
    apply steady_bind
    · exact steady_map_error IndexerShort NeedsBytes _ _ (fun _ => Iff.rfl) indexer_frame_steady
    · exact take_bytes_steady
  · intro stream size accepted
    obtain ⟨code, ⟨rest, hard⟩, reach, same⟩ := (skip_indexer_ok stream size).mp accepted
    have large := (xizage_sound code).2.2.2.1
    have counted : code.getXizage.cs = code.getXizage.hs + code.getXizage.ss := rfl
    refine (skip_indexer_ok _ size).mpr ⟨code, ⟨rest.take (size - (asBytes code.asStr).length), ?_⟩, ?_, same⟩
    · rw [hard, id, List.take_append, List.take_of_length_le]
      rw [hard_length]
      omega
    · rw [id, List.length_take]
      omega
  · intro stream size accepted
    obtain ⟨code, _, reach, same⟩ := (skip_indexer_ok stream size).mp accepted
    rw [id, same]
    exact reach

theorem skip_indexers_eq (count : Nat) : skipIndexers count = skipTimes skipIndexer count := by
  induction count with
  | zero => rfl
  | succ count ih =>
      funext stream
      rw [skipIndexers, ih, skipTimes]

theorem skip_indexers_reads (count : Nat) : Reads NeedsBytes id (skipIndexers count) := by
  rw [skip_indexers_eq]
  exact skip_times_reads skip_indexer_reads count

end Indexers

section Counters

def CounterShort (error : CounterCodeError) : Prop := NeedsBytes (CounterCodeError.toParse error)

theorem map_counter_short (input : Bytes) (error : CounterCodeError) :
    NeedsBytes (mapCounterErr input error) ↔ CounterShort error := by
  cases error with
  | notACounter =>
      apply Iff.intro
      · intro found
        obtain ⟨_, impossible⟩ := found
        cases impossible
      · intro found
        obtain ⟨_, impossible⟩ := found
        cases impossible
  | unknownCode hard => exact Iff.rfl
  | streamTooShort need => exact Iff.rfl

theorem stream_hard_size_steady : Steady CounterShort streamHardSize := by
  apply steady_same
  intro start more long
  cases start with
  | nil => exact absurd (needs_bytes 1) (long (.streamTooShort 1) rfl)
  | cons first rest =>
      cases rest with
      | nil =>
          by_cases counter : first = 0x2D
          · simp only [streamHardSize, if_pos counter] at long
            exact absurd (needs_bytes 1) (long _ rfl)
          · simp only [streamHardSize, if_neg counter, List.cons_append, List.nil_append]
      | cons second others => rfl

theorem counter_hard_steady (hs : Nat) : Steady CounterShort (counterHard hs) := by
  apply steady_same
  intro start more long
  by_cases few : start.length < hs
  · simp only [counterHard, rejectIf, if_pos few] at long
    exact absurd (needs_bytes _) (long _ rfl)
  · have enough : ¬(start ++ more).length < hs := by
      rw [List.length_append]
      omega
    have same : (start ++ more).take hs = start.take hs := List.take_append_of_le_length (Nat.le_of_not_lt few)
    simp only [counterHard, rejectIf, if_neg few, if_neg enough, same]

theorem map_counter_steady {Code : Type} (fromBase64Stream : Bytes → Except CounterCodeError Code)
    (steady : Steady CounterShort fromBase64Stream) :
    Steady NeedsBytes (fun remaining => (fromBase64Stream remaining).mapError (mapCounterErr remaining)) := by
  apply Steady.mk
  · intro start more code accepted
    rw [map_error_ok] at accepted ⊢
    exact steady.settled start more code accepted
  · intro start more error failed long
    cases read : fromBase64Stream start with
    | ok code =>
        rw [read] at failed
        cases failed
    | error given =>
        rw [read] at failed
        have wrapped : mapCounterErr start given = error := Except.error.inj failed
        rw [← wrapped, map_counter_short] at long
        obtain ⟨other, again, longer⟩ := steady.refused start more given read long
        refine ⟨mapCounterErr (start ++ more) other, ?_, ?_⟩
        · rw [again]
          rfl
        · rwa [map_counter_short]

theorem decode_count_ok (soft : Bytes) (count : U32) :
    decodeCount soft = .ok count ↔ count.val < 64 ^ soft.length ∧ soft = (digits soft.length count.val).map urlSafe.char := by
  simp only [decodeCount, bind_ok, reject_if_ok, exists_done, map_error_ok, decode_int_ok, pure_ok]
  apply Iff.intro
  · intro found
    obtain ⟨_, value, ⟨sextets, spelled, counted, small⟩, same⟩ := found
    have length : soft.length = sextets.length := by rw [spelled, List.length_map]
    have word : count.val = value := by
      rw [← same]
      exact Nat.mod_eq_of_lt small
    rw [word, ← counted, length, digits_number]
    exact ⟨number_lt sextets, spelled⟩
  · intro found
    obtain ⟨fits, spelled⟩ := found
    have chosen : urlSafe.Spells soft := by
      rw [spelled]
      exact spells_map urlSafe _
    refine ⟨?_, count.val, ⟨_, spelled, number_digits _ _ fits, count.isLt⟩, Fin.ofNat_val_eq_self count⟩
    rw [(from_utf8_some soft (asciiText soft)).mpr (ascii_of_spelled soft chosen)]
    exact Option.some_ne_none _

-- What the two counter tables have in common: a hard code spells its own length,
-- and the soft part fills the counter up to whole quadlets.
structure CounterTable {Code : Type} (asStr : Code → String) (fromHard : String → Except CounterCodeError Code)
    (hardSize softSize fullSize : Code → Nat) : Prop where
  named : ∀ hard code, fromHard hard = .ok code ↔ asStr code = hard
  headed : ∀ code, streamHardSize (asBytes (asStr code)) = .ok (hardSize code)
  length : ∀ code, (asBytes (asStr code)).length = hardSize code
  filled : ∀ code, hardSize code + softSize code = fullSize code
  positive : ∀ code, 0 < hardSize code

theorem find_spelled {Code : Type} [DecidableEq Code] (codes : List Code) (asStr : Code → String)
    (every : ∀ code, codes.find? (fun other => asStr other == asStr code) = some code) (hard : String) (code : Code) :
    codes.find? (fun other => asStr other == hard) = some code ↔ asStr code = hard := by
  apply Iff.intro
  · intro found
    have matched : (asStr code == hard) = true := List.find?_some (p := fun other => asStr other == hard) found
    exact beq_iff_eq.mp matched
  · intro spelled
    rw [← spelled]
    exact every code

theorem counter_table_v1 :
    CounterTable CounterCodeV1.asStr CounterCodeV1.fromHard CounterCodeV1.hardSize CounterCodeV1.softSize
      CounterCodeV1.fullSize := by
  have every : ∀ code : CounterCodeV1, CounterCodeV1.all.find? (fun other => other.asStr == code.asStr) = some code := by
    intro code
    cases code <;> decide
  apply CounterTable.mk
  · intro hard code
    rw [← find_spelled CounterCodeV1.all CounterCodeV1.asStr every, CounterCodeV1.fromHard]
    cases CounterCodeV1.all.find? (fun other => other.asStr == hard) <;> simp
  · intro code
    cases code <;> decide
  · exact fun code => (counter_v1_sizes code).2.2.2.2
  · exact fun code => (counter_v1_sizes code).2.1
  · exact fun code => Nat.lt_of_lt_of_le (by decide) (counter_v1_sizes code).1

theorem counter_table_v2 :
    CounterTable CounterCodeV2.asStr CounterCodeV2.fromHard CounterCodeV2.hardSize CounterCodeV2.softSize
      CounterCodeV2.fullSize := by
  have every : ∀ code : CounterCodeV2, CounterCodeV2.all.find? (fun other => other.asStr == code.asStr) = some code := by
    intro code
    cases code <;> decide
  apply CounterTable.mk
  · intro hard code
    rw [← find_spelled CounterCodeV2.all CounterCodeV2.asStr every, CounterCodeV2.fromHard]
    cases CounterCodeV2.all.find? (fun other => other.asStr == hard) <;> simp
  · intro code
    cases code <;> decide
  · exact fun code => (counter_v2_sizes code).2.2.2.2
  · exact fun code => (counter_v2_sizes code).2.1
  · exact fun code => Nat.lt_of_lt_of_le (by decide) (counter_v2_sizes code).1

end Counters

section CounterReads

variable {Code : Type} {asStr : Code → String} {fromHard : String → Except CounterCodeError Code}
  {hardSize softSize fullSize : Code → Nat}

-- The stream reader both tables share.
def hardFromStream (fromHard : String → Except CounterCodeError Code) (stream : Bytes) : Except CounterCodeError Code := do
  let hs ← streamHardSize stream
  let hard ← counterHard hs stream
  fromHard hard

theorem hard_from_stream_steady (fromHard : String → Except CounterCodeError Code) : Steady CounterShort (hardFromStream fromHard) := by
  unfold hardFromStream
  apply steady_bind
  · exact stream_hard_size_steady
  · intro hs
    apply steady_bind
    · exact counter_hard_steady hs
    · intro hard
      exact steady_const CounterShort (fromHard hard)

variable (table : CounterTable asStr fromHard hardSize softSize fullSize)

include table

theorem hard_from_stream_ok (stream : Bytes) (code : Code) :
    hardFromStream fromHard stream = .ok code ↔ ∃ rest, stream = asBytes (asStr code) ++ rest := by
  apply Iff.intro
  · intro read
    simp only [hardFromStream, counterHard, bind_ok, reject_if_ok, exists_done] at read
    obtain ⟨hs, _, hard, ⟨_, taken⟩, named⟩ := read
    refine ⟨stream.drop hs, ?_⟩
    cases decoded : fromUtf8 (stream.take hs) with
    | none =>
        rw [decoded] at taken
        cases taken
    | some text =>
        rw [decoded] at taken
        have same : text = hard := Except.ok.inj taken
        rw [(table.named hard code).mp named, ← same, (from_utf8_some _ _).mp decoded, List.take_append_drop]
  · intro found
    obtain ⟨rest, same⟩ := found
    have whole : counterHard (hardSize code) (asBytes (asStr code)) = .ok (asStr code) := by
      have enough : ¬(asBytes (asStr code)).length < hardSize code := Nat.not_lt_of_le (Nat.le_of_eq (table.length code).symm)
      simp only [counterHard, rejectIf, if_neg enough, ok_bind]
      rw [List.take_of_length_le (Nat.le_of_eq (table.length code)), (from_utf8_some _ _).mpr rfl]
      rfl
    have alone : hardFromStream fromHard (asBytes (asStr code)) = .ok code := by
      rw [hardFromStream, table.headed, ok_bind, whole, ok_bind]
      exact (table.named _ code).mpr rfl
    rw [same]
    exact (hard_from_stream_steady fromHard).settled _ rest code alone

theorem read_counter_ok (stream : Bytes) (code : Code) (count : U32) :
    readCounter (hardFromStream fromHard) hardSize fullSize stream = .ok (code, count) ↔
      ∃ rest, stream = asBytes (asStr code) ++ (digits (softSize code) count.val).map urlSafe.char ++ rest ∧
        count.val < 64 ^ softSize code := by
  have filled := table.filled code
  have length := table.length code
  simp only [readCounter, bind_ok, map_error_ok, reject_if_ok, exists_done, hard_from_stream_ok table, decode_count_ok, pure_ok,
    Prod.mk.injEq]
  apply Iff.intro
  · intro found
    obtain ⟨given, ⟨rest, same⟩, enough, read, ⟨fits, spelled⟩, named, counted⟩ := found
    subst named
    subst counted
    have soft : ((stream.take (fullSize given)).drop (hardSize given)) = rest.take (softSize given) := by
      rw [same, List.drop_take, List.drop_left' length, ← filled, Nat.add_sub_cancel_left]
    have sized : (rest.take (softSize given)).length = softSize given := by
      have total : stream.length = hardSize given + rest.length := by rw [same, List.length_append, length]
      rw [List.length_take]
      omega
    rw [soft, sized] at fits spelled
    refine ⟨rest.drop (softSize given), ?_, fits⟩
    rw [← spelled, List.append_assoc, List.take_append_drop, same]
  · intro found
    obtain ⟨rest, same, fits⟩ := found
    have sized : ((digits (softSize code) count.val).map urlSafe.char).length = softSize code := by
      rw [List.length_map, digits, List.length_map, List.length_range]
    have soft : ((stream.take (fullSize code)).drop (hardSize code)) = (digits (softSize code) count.val).map urlSafe.char := by
      rw [same, List.append_assoc, List.drop_take, List.drop_left' length, ← filled, Nat.add_sub_cancel_left, List.take_left' sized]
    have total : stream.length = hardSize code + softSize code + rest.length := by
      rw [same, List.length_append, List.length_append, length, sized]
    refine ⟨code, ⟨_, by rw [same, List.append_assoc]⟩, by omega, count, ?_, rfl, rfl⟩
    rw [soft, sized]
    exact ⟨fits, rfl⟩

theorem read_counter_reads :
    Reads NeedsBytes (fun read => fullSize read.1) (readCounter (hardFromStream fromHard) hardSize fullSize) := by
  have sized : ∀ code : Code, ∀ count : U32,
      (asBytes (asStr code) ++ (digits (softSize code) count.val).map urlSafe.char).length = fullSize code := by
    intro code count
    have filled := table.filled code
    rw [List.length_append, table.length, List.length_map, digits, List.length_map, List.length_range]
    exact filled
  apply Reads.mk
  · unfold readCounter
    apply steady_bind
    · exact map_counter_steady _ (hard_from_stream_steady fromHard)
    · intro code
      exact steady_enough NeedsBytes (fullSize code) (fun remaining => .needBytes (fullSize code - remaining.length))
        (fun head => decodeCount (head.drop (hardSize code)) >>= fun count => pure (code, count)) (fun _ => needs_bytes _)
  · intro stream read accepted
    obtain ⟨rest, same, fits⟩ := (read_counter_ok table stream read.1 read.2).mp accepted
    refine (read_counter_ok table _ read.1 read.2).mpr ⟨[], ?_, fits⟩
    rw [same, List.append_nil, List.take_left' (sized read.1 read.2)]
  · intro stream read accepted
    obtain ⟨rest, same, _⟩ := (read_counter_ok table stream read.1 read.2).mp accepted
    rw [same, List.length_append, sized read.1 read.2]
    exact Nat.le_add_right _ _

end CounterReads

end Cesr.Stream
