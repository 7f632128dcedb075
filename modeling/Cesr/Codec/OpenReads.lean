import Cesr.Codec.AnchorReading
import Cesr.Codec.ArrayScan

set_option autoImplicit false

namespace Cesr.Codec

open Checks WriterJson Scanner JsonTally

section Roomy

theorem open_marks (list : List Mark) (budget : JsonBudget) (size pos : Nat) (inside : Within budget size pos) (more : pos + list.length ≤ size) :
    ∃ paid, JsonBudget.pay list budget = some paid ∧ paid.depth = height budget.depth list ∧ Within paid size (pos + list.length) := by
  induction list generalizing budget pos with
  | nil => exact ⟨budget, rfl, rfl, inside⟩
  | cons mark rest ih =>
      rw [List.length_cons] at more ⊢
      have step : ∃ next, budget.payMark mark = some next ∧ height next.depth rest = height budget.depth (mark :: rest) ∧
          Within next size (pos + 1) := by
        cases mark with
        | member =>
            obtain ⟨next, counted, deep, inside'⟩ := field_within budget size pos inside (by omega)
            exact ⟨next, by rw [JsonBudget.payMark, counted]; rfl, by rw [deep]; rfl, inside'⟩
        | opening =>
            obtain ⟨next, entered, deep, inside'⟩ := enter_within budget size pos inside (by omega)
            exact ⟨next, by rw [JsonBudget.payMark, entered]; rfl, by rw [deep]; rfl, inside'⟩
        | closing => exact ⟨budget.leave, rfl, rfl, leave_within budget size pos inside⟩
      obtain ⟨next, spent, deep, inside'⟩ := step
      obtain ⟨paid, bill, deep', inside''⟩ := ih next (pos + 1) inside' (by omega)
      refine ⟨paid, by rw [JsonBudget.pay, spent, Option.bind_some, bill], deep'.trans deep, ?_⟩
      rw [show pos + (rest.length + 1) = pos + 1 + rest.length by omega]
      exact inside''

variable {α : Type} {strict : Prop}

theorem gives_open (part : Scan α) (priced : Priced strict .outside .outside part) (value : α) (text : Bytes) (level : Level text)
    (free : ∀ sc rest, Unmetered sc → sc.left = text ++ rest → ∃ sc', part sc = .ok (value, sc') ∧ Took sc text sc') (depth : Nat) :
    Gives part value text depth depth := by
  intro sc rest fits found deep
  have unmetered : Unmetered sc.opened := ⟨⟨fits.fields, fits.depth, roomy_none _, roomy_none _⟩, rfl⟩
  obtain ⟨open', read, took⟩ := free sc.opened rest unmetered found
  have size := congrArg List.length found
  have most := marks_length .outside sc.left
  rw [left_length] at size most
  have met := priced sc
  rw [read] at met
  generalize part sc = held at met
  cases met with
  | refused value' last error limit unpaid =>
      by_cases inside : sc.pos ≤ sc.input.length
      · obtain ⟨paid, bill, _⟩ := open_marks (marks .outside sc.left) sc.budget _ _ fits (by omega)
        rw [Overspent, bill] at unpaid
        cases unpaid
      · have ended : sc.left = [] := List.length_eq_zero_iff.mp (by rw [left_length]; omega)
        rw [Overspent, ended] at unpaid
        cases unpaid
  | pays value' done text' took' ended bill =>
      have place : done.pos = sc.pos + text.length := took.pos
      have long : text'.length = text.length := by
        have first := took'.pos
        omega
      obtain rfl : text' = text := by
        have first := took'.left
        rw [found] at first
        exact (List.append_inj_left first long.symm).symm
      have fewer := marks_length .outside text'
      rw [List.length_append] at size
      by_cases inside : sc.pos ≤ sc.input.length
      · obtain ⟨paid, bill', deep', within⟩ := open_marks (marks .outside text') sc.budget _ _ fits (by omega)
        obtain rfl : paid = done.budget := Option.some.inj (bill'.symm.trans bill)
        refine ⟨done, rfl, took', ?_, ?_⟩
        · rw [Fits, took'.input, place]
          exact within_later _ _ _ _ within (by omega)
        · rw [deep', deep, level.even]
      · obtain rfl : text' = [] := List.length_eq_zero_iff.mp (by omega)
        have same : sc.budget = done.budget := Option.some.inj bill
        refine ⟨done, rfl, took', ?_, by rw [← same]; exact deep⟩
        rw [Fits, took'.input, place, ← same]
        exact fits

end Roomy

section Anchors

-- The text of an anchor that is kept as it stands: an object without space in it
-- that is none of the typed seals.
structure Untyped (raw : String) : Prop where
  object : CompactJson.Spells OpaqueScan.Spoken .value (asBytes raw)
  brace : (asBytes raw).head? = some 0x7B
  shapeless : ¬∃ keys values, Shaped (asBytes raw) keys values

theorem opaque_reads (raw : String) (object : CompactJson.Spells OpaqueScan.Spoken .value (asBytes raw))
    (brace : (asBytes raw).head? = some 0x7B) (sc : Scanner) (rest : Bytes) (unmetered : Unmetered sc) (found : sc.left = asBytes raw ++ rest) :
    ∃ sc', ParsedSeal.opaqueBody sc = .ok (.opaqueSeal raw, sc') ∧ Took sc (asBytes raw) sc' := by
  obtain ⟨spent, spanned⟩ := object_len_free (asBytes raw) rest sc.budget (unmetered_free sc unmetered) object brace
  have decoded : ParsedSeal.opaqueText sc (asBytes raw).length = .ok raw := by
    rw [ParsedSeal.opaqueText, found, List.take_left, (from_utf8_some _ raw).mpr rfl]
  have read : ParsedSeal.opaqueBody sc = .ok (.opaqueSeal raw, ⟨sc.input, sc.pos + (asBytes raw).length, spent⟩) := by
    rw [ParsedSeal.opaqueBody, found, spanned]
    show (ParsedSeal.opaqueText sc (asBytes raw).length >>= _) = _
    rw [decoded]
    rfl
  refine ⟨_, read, ?_⟩
  obtain ⟨raw', same, took⟩ := opaque_body_took sc _ _ read
  obtain rfl := ParsedSeal.opaqueSeal.inj same
  exact took

theorem gives_untyped (raw : String) (untyped : Untyped raw) (depth : Nat) :
    Gives ParsedSeal.decode (.opaqueSeal raw) (asBytes raw) depth depth := by
  refine gives_open _ seal_priced _ _ (level_spells _ spoken_silent _ _ untyped.object) ?_ depth
  intro sc rest unmetered found
  obtain ⟨sc', kept, took⟩ := opaque_reads raw untyped.object untyped.brace sc rest unmetered found
  obtain ⟨parsed, read, text, same, reads⟩ := anchors_agree.back sc sc' _ unmetered kept
  obtain rfl := ParsedSeal.opaqueSeal.inj same
  rw [reads.untyped untyped.shapeless] at read
  exact ⟨sc', read, took⟩

theorem gives_typed (parsed : ParsedSeal) (typed : parsed.keys ∈ sealShapes) (plain : Unescaped parsed) (depth : Nat) :
    Gives ParsedSeal.decode parsed parsed.text depth depth := by
  intro sc rest fits found deep
  obtain ⟨sc', read, arrives⟩ := codex_gives parsed typed plain depth sc rest fits found deep
  exact ⟨sc', by rw [ParsedSeal.decode, read], arrives⟩

end Anchors

end Cesr.Codec
