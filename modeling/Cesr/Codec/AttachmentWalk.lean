import Cesr.Codec.Attachments
import Cesr.Stream.Elements
import Cesr.Lib.Appends

set_option autoImplicit false

namespace Cesr.Codec

open Base64 Checks Resume Appends Cesr.Stream

section Elements

def Typed {α : Type} (typed : List FieldValue → Option α) (kind : GroupKind) (version : CesrVersion) (count : U32) (raw : Bytes)
    (items : List α) : Prop :=
  ∃ elements, readElements kind version count.val raw = .ok elements ∧ elements.map typed = items.map some

theorem read_elements_each {α : Type} (typed : List FieldValue → Option α) (kind : GroupKind) (version : CesrVersion)
    (full : ∀ input read, kind.element input version = .ok read → ∃ item, typed read.1 = some item) (count : Nat) (raw : Bytes)
    (elements : List (List FieldValue)) (read : readElements kind version count raw = .ok elements) :
    elements.map typed = (elements.filterMap typed).map some := by
  induction count generalizing raw elements with
  | zero =>
      cases read
      rfl
  | succ count ih =>
      simp only [readElements, bind_ok, pure_ok] at read
      obtain ⟨first, element, others, later, same⟩ := read
      obtain ⟨item, whole⟩ := full raw first element
      rw [← same, List.map_cons, List.filterMap_cons_some whole, List.map_cons, whole, ih _ others later]

theorem into_vec_ok {α : Type} (typed : List FieldValue → Option α) (kind : GroupKind) (version : CesrVersion)
    (full : ∀ input read, kind.element input version = .ok read → ∃ item, typed read.1 = some item) (count : U32) (raw : Bytes)
    (items : List α) : intoVec typed kind version count raw = .ok items ↔ Typed typed kind version count raw items := by
  simp only [intoVec, bind_ok, pure_ok]
  apply Iff.intro
  · intro found
    obtain ⟨elements, read, same⟩ := found
    refine ⟨elements, read, ?_⟩
    rw [← same]
    exact read_elements_each typed kind version full count.val raw elements read
  · intro found
    obtain ⟨elements, read, same⟩ := found
    refine ⟨elements, read, ?_⟩
    rw [read_elements_each typed kind version full count.val raw elements read] at same
    exact List.map_injective_iff.mpr (Option.some_injective α) same

theorem siger_element_full (kind : GroupKind) (version : CesrVersion) (signed : kind.fields = [.siger]) (input : Bytes)
    (read : List FieldValue × Nat) (element : kind.element input version = .ok read) :
    ∃ siger, sigerElement read.1 = some siger := by
  rw [GroupKind.element, signed] at element
  simp only [readFields, bind_ok, pure_ok] at element
  obtain ⟨⟨value, size⟩, field, others, rest, same⟩ := element
  cases rest
  rw [← same]
  cases field_reads .siger version input value size field with
  | matter _ _ _ one => cases one
  | siger indexer _ _ => exact ⟨Siger.new indexer, rfl⟩

theorem narrow_full {Code : Type} (expected : String) (tryFrom : MatterCode → Except ValidationError Code) (remaining : Bytes)
    (value : FieldValue) (size : Nat) (read : readNarrow expected tryFrom remaining = .ok (value, size)) :
    ∃ matter narrowed, value = .matter matter ∧ (narrow tryFrom matter).toOption = some narrowed := by
  simp only [readNarrow, bind_ok, map_error_ok, pure_ok, Prod.mk.injEq] at read
  obtain ⟨found, _, code, coded, same, _⟩ := read
  refine ⟨found.1, ⟨code, found.1.raw, found.1.soft⟩, same.symm, ?_⟩
  rw [narrow, coded]
  rfl

theorem read_matter_value (remaining : Bytes) (value : FieldValue) (size : Nat)
    (read : ((readMatter remaining).map fun found => (FieldValue.matter found.1, found.2)) = .ok (value, size)) :
    ∃ matter, value = .matter matter := by
  cases taken : readMatter remaining with
  | error error =>
      rw [taken] at read
      cases read
  | ok found =>
      rw [taken] at read
      cases read
      exact ⟨found.1, rfl⟩

theorem seal_source_full (version : CesrVersion) (input : Bytes) (read : List FieldValue × Nat)
    (element : GroupKind.sealSourceCouple.element input version = .ok read) : ∃ couple, sealSourceCouple read.1 = some couple := by
  simp only [GroupKind.element, GroupKind.fields, readFields, bind_ok, pure_ok] at element
  obtain ⟨first, seqner, others, ⟨second, saider, rest, none', same'⟩, same⟩ := element
  obtain ⟨matter, same''⟩ := read_matter_value _ first.1 first.2 seqner
  obtain ⟨matter', narrowed, same''', digest⟩ := narrow_full _ _ _ second.1 second.2 saider
  cases none'
  rw [← same, ← same', same'', same''', sealSourceCouple, digest]
  exact ⟨(matter, narrowed), rfl⟩

theorem non_trans_receipt_full (version : CesrVersion) (input : Bytes) (read : List FieldValue × Nat)
    (element : GroupKind.nonTransReceiptCouple.element input version = .ok read) :
    ∃ couple, nonTransReceiptCouple read.1 = some couple := by
  simp only [GroupKind.element, GroupKind.fields, readFields, bind_ok, pure_ok] at element
  obtain ⟨first, prefixer, others, ⟨second, signature, rest, none', same'⟩, same⟩ := element
  obtain ⟨matter, key, same'', narrowed⟩ := narrow_full _ _ _ first.1 first.2 prefixer
  obtain ⟨matter', signed, same''', narrowed'⟩ := narrow_full _ _ _ second.1 second.2 signature
  cases none'
  rw [← same, ← same', same'', same''', nonTransReceiptCouple, narrowed, narrowed']
  exact ⟨(key, signed), rfl⟩

theorem trans_idx_sig_full (version : CesrVersion) (input : Bytes) (read : List FieldValue × Nat)
    (element : GroupKind.transIdxSigGroup.element input version = .ok read) : ∃ found, transIdxSigGroup read.1 = some found := by
  simp only [GroupKind.element, GroupKind.fields, readFields, bind_ok, pure_ok] at element
  obtain ⟨first, prefixer, _, ⟨second, seqner, _, ⟨third, saider, _, ⟨last, nested, rest, none', same4⟩, same3⟩, same2⟩, same1⟩ :=
    element
  obtain ⟨matter, _, same⟩ := read_identifier_prefix_ok _ first.1 first.2 prefixer
  obtain ⟨matter', same'⟩ := read_matter_value _ second.1 second.2 seqner
  obtain ⟨matter'', narrowed, same'', digest⟩ := narrow_full _ _ _ third.1 third.2 saider
  obtain ⟨raw, count, listed⟩ : ∃ raw count, last.1 = .sigs raw count := by
    simp only [Field.read, nestedControllerSigs, bind_ok] at nested
    obtain ⟨size, _, listed⟩ := nested
    cases version <;> simp only [bind_ok, pure_ok] at listed <;> obtain ⟨count, _, sigs, _, same⟩ := listed <;>
      exact ⟨_, count, by rw [← same]⟩
  cases none'
  rw [← same1, ← same2, ← same3, ← same4, same, same', same'', listed, transIdxSigGroup, digest]
  exact ⟨⟨matter, matter', narrowed, raw, count⟩, rfl⟩

end Elements

section Walk

-- The groups a walk routes for this one: an attachment frame stands for its own groups.
inductive Unfolds : CesrGroup → List CesrGroup → Prop where
  | frame (payload : Bytes) (version : CesrVersion) (groups : List CesrGroup) (inside : GroupsAt version payload groups []) :
      Unfolds (.frame .attachment payload version) groups
  | plain (group : CesrGroup) (other : ∀ payload version, group ≠ .frame .attachment payload version) :
      Unfolds group [group]

inductive Region : Bytes → List CesrGroup → Bytes → Prop where
  | finished : Region [] [] []
  | body (first : UInt8) (rest : Bytes) (kept : isCesr first = false) : Region (first :: rest) [] (first :: rest)
  | group (bytes : Bytes) (group : CesrGroup) (size : Nat) (inner groups : List CesrGroup) (rest : Bytes)
      (read : CesrGroup.sizedOf .v1 bytes = .ok (group, size)) (unfolds : Unfolds group inner)
      (later : Region (bytes.drop size) groups rest) : Region bytes (inner ++ groups) rest

variable {σ ε : Type} (frame : ParseError → ε) (route : CesrGroup → σ → Except (Failure ε) σ)

def routeAll (groups : List CesrGroup) (found : σ) : Except (Failure ε) σ := groups.foldlM (fun found group => route group found) found

theorem route_inner_ok (version : CesrVersion) (fuel : Nat) (payload : Bytes) (enough : payload.length ≤ fuel) (found final : σ) :
    routeInner frame route version fuel payload found = .ok final ↔
      ∃ groups, GroupsAt version payload groups [] ∧ routeAll route groups found = .ok final := by
  induction fuel generalizing payload found with
  | zero =>
      have empty : payload = [] := List.length_eq_zero_iff.mp (Nat.le_zero.mp enough)
      rw [empty, routeInner]
      apply Iff.intro
      · intro same
        exact ⟨[], .nil [], same⟩
      · intro exists'
        obtain ⟨groups, parsed, routed⟩ := exists'
        cases parsed with
        | nil => exact routed
        | cons _ _ group size groups read later => exact absurd (sized_of_pos version [] (group, size) read) (Nat.lt_irrefl 0)
  | succ fuel ih =>
      cases payload with
      | nil =>
          rw [routeInner]
          apply Iff.intro
          · intro same
            exact ⟨[], .nil [], same⟩
          · intro exists'
            obtain ⟨groups, parsed, routed⟩ := exists'
            cases parsed with
            | nil => exact routed
            | cons _ _ group size groups read later => exact absurd (sized_of_pos version [] (group, size) read) (Nat.lt_irrefl 0)
      | cons first rest =>
          simp only [routeInner, bind_ok, map_error_ok]
          apply Iff.intro
          · intro exists'
            obtain ⟨parsed, read, middle, routed, later⟩ := exists'
            obtain ⟨size, sized, behind⟩ := (parse_of_ok version _ parsed.2 parsed.1).mp read
            have shorter := (parse_of_shorter version _ parsed read).1
            obtain ⟨groups, streamed, routed'⟩ := (ih parsed.2 (by omega) middle).mp later
            rw [behind] at streamed
            refine ⟨parsed.1 :: groups, .cons _ _ parsed.1 size groups sized streamed, ?_⟩
            rw [routeAll, List.foldlM_cons, routed]
            exact routed'
          · intro exists'
            obtain ⟨groups, streamed, routed⟩ := exists'
            cases streamed with
            | cons _ _ group size groups sized later =>
                have read := (parse_of_ok version _ _ group).mpr ⟨size, sized, rfl⟩
                have shorter : ((first :: rest).drop size).length < _ := (parse_of_shorter version _ _ read).1
                rw [routeAll, List.foldlM_cons, bind_ok] at routed
                obtain ⟨middle, here, others⟩ := routed
                exact ⟨(group, _), read, middle, here, (ih ((first :: rest).drop size) (by omega) middle).mpr ⟨groups, later, others⟩⟩

theorem route_top_ok (group : CesrGroup) (found final : σ) :
    routeTop frame route group found = .ok final ↔ ∃ inner, Unfolds group inner ∧ routeAll route inner found = .ok final := by
  have plain : (∀ payload version, group ≠ .frame .attachment payload version) →
      (route group found = .ok final ↔ ∃ inner, Unfolds group inner ∧ routeAll route inner found = .ok final) := by
    intro other
    have alone : routeAll route [group] found = route group found := by
      rw [routeAll, List.foldlM_cons]
      exact bind_pure _
    apply Iff.intro
    · intro routed
      exact ⟨[group], .plain group other, by rw [alone, routed]⟩
    · intro exists'
      obtain ⟨inner, unfolds, routed⟩ := exists'
      cases unfolds with
      | frame payload version _ _ => exact absurd rfl (other payload version)
      | plain _ _ => rwa [alone] at routed
  cases group with
  | group kind raw count version => exact plain (by rintro _ _ ⟨⟩)
  | frame kind payload version =>
      by_cases attached : kind = .attachment
      · rw [attached, routeTop, route_inner_ok frame route version payload.length payload (Nat.le_refl _)]
        apply Iff.intro
        · intro exists'
          obtain ⟨groups, inside, routed⟩ := exists'
          exact ⟨groups, .frame payload version groups inside, routed⟩
        · intro exists'
          obtain ⟨groups, unfolds, routed⟩ := exists'
          cases unfolds with
          | frame _ _ _ inside => exact ⟨groups, inside, routed⟩
          | plain _ other => exact absurd rfl (other payload version)
      · have other : ∀ payload' version', CesrGroup.frame kind payload version ≠ .frame .attachment payload' version' := by
          intro payload' version' same
          cases same
          exact attached rfl
        rw [← plain other]
        cases kind with
        | attachment => exact absurd rfl attached
        | _ => rfl

theorem consume_groups_ok (fuel : Nat) (input rest : Bytes) (enough : input.length ≤ fuel) (found final : σ) :
    consumeGroups frame route fuel input found = .ok (final, rest) ↔
      ∃ groups, Region input groups rest ∧ routeAll route groups found = .ok final := by
  have empty : ∀ found, (Except.ok (found, ([] : Bytes)) : Except (Failure ε) (σ × Bytes)) = .ok (final, rest) ↔
      ∃ groups, Region [] groups rest ∧ routeAll route groups found = .ok final := by
    intro found
    apply Iff.intro
    · intro same
      cases same
      exact ⟨[], .finished, rfl⟩
    · intro exists'
      obtain ⟨groups, region, routed⟩ := exists'
      generalize none' : ([] : Bytes) = bytes at region
      cases region with
      | finished => cases routed; rfl
      | body first rest kept => cases none'
      | group _ group size inner groups _ read _ _ =>
          rw [← none'] at read
          exact absurd (sized_of_pos .v1 [] (group, size) read) (Nat.lt_irrefl 0)
  induction fuel generalizing input found with
  | zero =>
      rw [List.length_eq_zero_iff.mp (Nat.le_zero.mp enough)]
      exact empty found
  | succ fuel ih =>
      cases input with
      | nil => exact empty found
      | cons first tail =>
          rw [consumeGroups]
          by_cases headed : isCesr first = true
          · rw [if_pos headed]
            simp only [bind_ok, map_error_ok, route_top_ok]
            apply Iff.intro
            · intro exists'
              obtain ⟨parsed, read, middle, ⟨inner, unfolds, routed⟩, later⟩ := exists'
              rw [parse_ok] at read
              obtain ⟨size, sized, behind⟩ := (parse_of_ok .v1 _ parsed.2 parsed.1).mp read
              have shorter := (parse_of_shorter .v1 _ parsed read).1
              obtain ⟨groups, region, routed'⟩ := (ih parsed.2 (by omega) middle).mp later
              rw [behind] at region
              refine ⟨inner ++ groups, .group _ parsed.1 size inner groups rest sized unfolds region, ?_⟩
              rw [routeAll, List.foldlM_append, bind_ok]
              exact ⟨middle, routed, routed'⟩
            · intro exists'
              obtain ⟨groups, region, routed⟩ := exists'
              cases region with
              | body _ _ kept =>
                  rw [headed] at kept
                  cases kept
              | group _ group size inner groups _ sized unfolds later =>
                  have read := (parse_of_ok .v1 _ _ group).mpr ⟨size, sized, rfl⟩
                  have shorter : ((first :: tail).drop size).length < _ := (parse_of_shorter .v1 _ _ read).1
                  rw [routeAll, List.foldlM_append, bind_ok] at routed
                  obtain ⟨middle, here, others⟩ := routed
                  exact ⟨(group, _), (parse_ok _ _ group).mpr read, middle, ⟨inner, unfolds, here⟩,
                    (ih ((first :: tail).drop size) (by omega) middle).mpr ⟨groups, later, others⟩⟩
          · rw [if_neg headed]
            apply Iff.intro
            · intro same
              cases same
              exact ⟨[], .body first tail (Bool.not_eq_true _ ▸ headed), rfl⟩
            · intro exists'
              obtain ⟨groups, region, routed⟩ := exists'
              cases region with
              | body _ _ kept => cases routed; rfl
              | group _ group size inner groups _ sized unfolds later =>
                  have dashed : first = 0x2D := Option.some.inj (sized_of_dash _ _ sized)
                  rw [dashed] at headed
                  exact absurd (by decide) headed

end Walk

end Cesr.Codec
