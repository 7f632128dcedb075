import Cesr.Core.MatterBuilder

set_option autoImplicit false

namespace Cesr

open Sextets Base64 Checks

-- The bytes of a text up to here are those of whole characters.
def AtBoundary (text : String) (width : Nat) : Prop := ∃ front back, text = front ++ back ∧ (asBytes front).length = width

theorem as_bytes_append (front back : String) : asBytes (front ++ back) = asBytes front ++ asBytes back := by
  simp [asBytes]

theorem length_as_bytes (text : String) : (asBytes text).length = text.utf8ByteSize := by
  rw [← String.size_toByteArray]
  rfl

theorem extract_bytes (text front : String) (width : Nat) (same : asBytes front = (asBytes text).take width) :
    text.toByteArray.extract 0 width = front.toByteArray := by
  apply ByteArray.ext
  rw [← Array.toList_inj, ByteArray.data_extract, Array.toList_extract]
  exact same.symm

theorem cut_at_boundary (text : String) (width : Nat) (long : width ≤ (asBytes text).length) :
    fromUtf8 ((asBytes text).take width) = none ↔ ¬ AtBoundary text width := by
  apply Iff.intro
  · intro none' whole
    obtain ⟨front, back, same, counted⟩ := whole
    have read : fromUtf8 ((asBytes text).take width) = some front := by
      rw [from_utf8_some, same, as_bytes_append, ← counted, List.take_left]
    rw [none'] at read
    cases read
  · intro split
    cases read : fromUtf8 ((asBytes text).take width) with
    | none => rfl
    | some front =>
        rw [from_utf8_some] at read
        rw [length_as_bytes] at long
        have valid : (⟨width⟩ : String.Pos.Raw).IsValid text := by
          rw [String.Pos.Raw.isValid_iff_isValidUTF8_extract_zero, extract_bytes text front width read]
          exact ⟨long, front.isValidUTF8⟩
        obtain ⟨first, second, same, here⟩ := String.Pos.Raw.isValid_iff_exists_append.mp valid
        refine absurd ⟨first, second, same, ?_⟩ split
        rw [length_as_bytes]
        exact (congrArg String.Pos.Raw.byteIdx here).symm

-- The soft text is long enough for the code, and its width ends inside a character.
def SplitsSoft (code : MatterCode) (soft : String) : Prop :=
  code.getSizage.ss - code.getSizage.xs ≤ (asBytes soft).length ∧ ¬ AtBoundary soft (code.getSizage.ss - code.getSizage.xs)

theorem extract_soft_panics (code : MatterCode) (soft : String) :
    extractSoft code code.getSizage soft = .error .panicked ↔ SplitsSoft code soft := by
  unfold extractSoft SplitsSoft
  simp only
  by_cases short : (asBytes soft).length < code.getSizage.ss - code.getSizage.xs
  · rw [if_pos short]
    simp [Nat.not_le.mpr short]
  · rw [if_neg short, ← cut_at_boundary soft _ (Nat.le_of_not_lt short)]
    cases fromUtf8 ((asBytes soft).take (code.getSizage.ss - code.getSizage.xs)) with
    | none => simp [Nat.le_of_not_lt short]
    | some final =>
        by_cases spelled : isB64UrlSafeCharset (asBytes final) = true
        · simp [spelled]
        · simp [spelled]

theorem empty_soft_whole (code : MatterCode) : ¬ SplitsSoft code "" := by
  intro splits
  obtain ⟨short, split⟩ := splits
  have none' : code.getSizage.ss - code.getSizage.xs = 0 := Nat.le_zero.mp short
  rw [none'] at split
  exact split ⟨"", "", rfl, rfl⟩

theorem map_error_panics {α ε ε' : Type} (check : Except ε α) (wrap : ε → Failure ε') (plain : ∀ error, wrap error ≠ .panicked) :
    check.mapError wrap ≠ .error .panicked := by
  cases check with
  | ok value => nofun
  | error error =>
      intro same
      exact plain error (Except.error.inj same)

theorem parsed_no_panic {α : Type} (check : Except ParsingError α) : parsed check ≠ .error .panicked :=
  map_error_panics check _ (fun _ => nofun)

theorem validated_no_panic {α : Type} (check : Except ValidationError α) : validated check ≠ .error .panicked :=
  map_error_panics check _ (fun _ => nofun)

theorem lift_soft_panics (code : MatterCode) (soft : String) :
    (extractSoft code code.getSizage soft).mapError liftFailure = .error .panicked ↔ SplitsSoft code soft := by
  rw [← extract_soft_panics]
  cases extractSoft code code.getSizage soft with
  | ok final =>
      apply Iff.intro
      · intro same
        cases same
      · intro same
        cases same
  | error failure =>
      cases failure with
      | panicked => exact ⟨fun _ => rfl, fun _ => rfl⟩
      | error error =>
          apply Iff.intro
          · intro same
            cases same
          · intro same
            cases same

section Build

variable {Code : Type} [CesrCode Code]

-- The raw value is one that the builder takes for the code.
def RawGiven (code : Code) (raw : Bytes) : Prop := raw = [] → (CesrCode.toMatterCode code).rawSize = .ok 0

theorem raw_given_iff (code : Code) (raw given : Bytes) : parsed (withRaw code raw) = .ok given ↔ RawGiven code raw ∧ raw = given := by
  simp only [parsed, map_error_ok, withRaw, bind_ok, exists_done, reject_if_ok, pure_ok, RawGiven, not_and, not_not]

theorem soft_given_iff (soft given : String) : parsed (withSoft soft) = .ok given ↔ soft ≠ "" ∧ soft = given := by
  simp only [parsed, map_error_ok, withSoft, bind_ok, exists_done, reject_if_ok, pure_ok, ne_eq]

omit [CesrCode Code] in
theorem sized_no_panic (mc : MatterCode) (raw : Bytes) (make : Bytes → Matter Code) :
    (validated mc.rawSize >>= fun rawSize => validated (validateAndTrimRaw mc raw rawSize) >>= fun trimmed =>
      pure (make trimmed)) ≠ .error .panicked := by
  simp only [ne_eq, bind_error, pure_error, and_false, exists_false, or_false, not_or]
  refine ⟨validated_no_panic _, ?_⟩
  intro passed
  obtain ⟨size, _, trimmed⟩ := passed
  exact validated_no_panic _ trimmed

theorem build_raw_no_panic (code : Code) (raw : Bytes) : buildRaw code raw ≠ .error .panicked := by
  unfold buildRaw
  rw [ne_eq, bind_error, not_or]
  refine ⟨parsed_no_panic _, ?_⟩
  intro passed
  obtain ⟨given, _, rest⟩ := passed
  cases shape : (CesrCode.toMatterCode code).getSizage.fs with
  | fixed fixed =>
      simp only [shape, bind_error (rejectIf _ _), reject_if_error] at rest
      rcases rest with soft | sized
      · cases soft.2
      · obtain ⟨_, _, sized⟩ := sized
        exact sized_no_panic _ given (fun trimmed => ⟨code, trimmed, ""⟩) sized
  | small =>
      simp only [shape] at rest
      cases rest
  | large =>
      simp only [shape] at rest
      cases rest

theorem build_raw_soft_panics (code : Code) (raw : Bytes) (soft : String) :
    buildRawSoft code raw soft = .error .panicked ↔
      RawGiven code raw ∧ (∃ fixed, (CesrCode.toMatterCode code).getSizage.fs = .fixed fixed) ∧
        (CesrCode.toMatterCode code).getSizage.ss ≠ 0 ∧ SplitsSoft (CesrCode.toMatterCode code) soft := by
  unfold buildRawSoft
  simp only [bind_error (parsed _), parsed_no_panic, false_or, raw_given_iff, soft_given_iff]
  cases shape : (CesrCode.toMatterCode code).getSizage.fs with
  | small => simp
  | large => simp
  | fixed fixed =>
      by_cases plain : (CesrCode.toMatterCode code).getSizage.ss = 0
      · simp only [if_pos plain]
        apply Iff.intro
        · intro passed
          obtain ⟨given, _, text, _, rest⟩ := passed
          exact absurd rest (sized_no_panic _ given (fun trimmed => ⟨code, trimmed, ""⟩))
        · intro met
          exact absurd plain met.2.2.1
      · simp only [if_neg plain]
        apply Iff.intro
        · intro passed
          obtain ⟨given, sound, text, ⟨some', same⟩, rest⟩ := passed
          rw [bind_error, lift_soft_panics, ← same] at rest
          rcases rest with splits | built
          · exact ⟨sound.1, ⟨fixed, rfl⟩, plain, splits⟩
          · obtain ⟨final, _, sized⟩ := built
            exact absurd sized (sized_no_panic _ given (fun trimmed => ⟨code, trimmed, final⟩))
        · intro met
          refine ⟨raw, ⟨met.1, rfl⟩, soft, ⟨?_, rfl⟩, ?_⟩
          · intro empty
            rw [empty] at met
            exact empty_soft_whole _ met.2.2.2
          · rw [bind_error, lift_soft_panics]
            exact .inl met.2.2.2

theorem build_soft_panics (code : Code) (soft : String) :
    buildSoft code soft = .error .panicked ↔
      (CesrCode.toMatterCode code).getSizage.fs = .fixed (CesrCode.toMatterCode code).getSizage.cs ∧
        (CesrCode.toMatterCode code).getSizage.ss ≠ 0 ∧ SplitsSoft (CesrCode.toMatterCode code) soft := by
  unfold buildSoft
  simp only [bind_error (parsed _), parsed_no_panic, false_or, soft_given_iff]
  cases shape : (CesrCode.toMatterCode code).getSizage.fs with
  | small => simp
  | large => simp
  | fixed fixed =>
      simp only [SizeType.fixed.injEq]
      by_cases whole : 0 < (CesrCode.toMatterCode code).getSizage.ss ∧ fixed = (CesrCode.toMatterCode code).getSizage.cs
      · simp only [if_pos whole]
        apply Iff.intro
        · intro passed
          obtain ⟨text, ⟨some', same⟩, rest⟩ := passed
          rw [bind_error, lift_soft_panics, ← same] at rest
          rcases rest with splits | built
          · exact ⟨whole.2, Nat.ne_of_gt whole.1, splits⟩
          · obtain ⟨final, _, impossible⟩ := built
            cases impossible
        · intro met
          refine ⟨soft, ⟨?_, rfl⟩, ?_⟩
          · intro empty
            rw [empty] at met
            exact empty_soft_whole _ met.2.2
          · rw [bind_error, lift_soft_panics]
            exact .inl met.2.2
      · simp only [if_neg whole]
        apply Iff.intro
        · intro passed
          obtain ⟨_, _, impossible⟩ := passed
          cases impossible
        · intro met
          exact absurd ⟨Nat.pos_of_ne_zero met.2.1, met.1⟩ whole

-- A constructor panics exactly when it comes to cut the soft text inside a character.
theorem constructors_panic_exactly (code : Code) (raw : Bytes) (soft : String) :
    buildRaw code raw ≠ .error .panicked ∧
    (buildRawSoft code raw soft ≠ .error .panicked ↔
      ¬ (RawGiven code raw ∧ (∃ fixed, (CesrCode.toMatterCode code).getSizage.fs = .fixed fixed) ∧
        (CesrCode.toMatterCode code).getSizage.ss ≠ 0 ∧ SplitsSoft (CesrCode.toMatterCode code) soft)) ∧
    (buildSoft code soft ≠ .error .panicked ↔
      ¬ ((CesrCode.toMatterCode code).getSizage.fs = .fixed (CesrCode.toMatterCode code).getSizage.cs ∧
        (CesrCode.toMatterCode code).getSizage.ss ≠ 0 ∧ SplitsSoft (CesrCode.toMatterCode code) soft)) :=
  ⟨build_raw_no_panic code raw, not_congr (build_raw_soft_panics code raw soft), not_congr (build_soft_panics code soft)⟩

end Build

theorem soft_constructors_panic :
    ¬ ∀ (code : MatterCode) (raw : Bytes) (soft : String),
      buildRaw code raw ≠ .error .panicked ∧ buildRawSoft code raw soft ≠ .error .panicked ∧
        buildSoft code soft ≠ .error .panicked := by
  intro safe
  obtain ⟨_, both, alone⟩ := safe .tag1 [] "é"
  exact alone (by decide)

end Cesr
