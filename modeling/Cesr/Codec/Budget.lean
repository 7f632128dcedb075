import Cesr.Codec.Reads

set_option autoImplicit false

namespace Cesr.Codec

open Checks WriterJson

-- A limit that the input cannot reach.
def Roomy (limit : Option Nat) (size : Nat) : Prop := ∀ most, limit = some most → size ≤ most

structure Within (budget : JsonBudget) (size pos : Nat) : Prop where
  fields : budget.fields ≤ pos
  depth : budget.depth ≤ pos
  maxFields : Roomy budget.maxFields size
  maxDepth : Roomy budget.maxDepth size

def Fits (sc : Scanner) : Prop := Within sc.budget sc.input.length sc.pos

theorem within_later (budget : JsonBudget) (size pos later : Nat) (inside : Within budget size pos) (after : pos ≤ later) :
    Within budget size later :=
  ⟨inside.fields.trans after, inside.depth.trans after, inside.maxFields, inside.maxDepth⟩

theorem roomy_none (size : Nat) : Roomy none size := by
  intro most reached
  cases reached

theorem fits_new (input : Bytes) : Fits (Scanner.new input) :=
  ⟨Nat.le_refl 0, Nat.le_refl 0, roomy_none _, roomy_none _⟩

theorem fits_moved (sc : Scanner) (pos : Nat) (fits : Fits sc) (after : sc.pos ≤ pos) : Fits (sc.moved pos) :=
  within_later sc.budget sc.input.length sc.pos pos fits after

def nesting : Bytes → Nat → Option Nat
  | [], depth => some depth
  | byte :: rest, depth =>
      if byte = 0x7B ∨ byte = 0x5B then nesting rest (depth + 1)
      else if byte = 0x7D ∨ byte = 0x5D then
        match depth with
        | 0 => none
        | outer + 1 => nesting rest outer
      else nesting rest depth

theorem enter_within (budget : JsonBudget) (size pos : Nat) (inside : Within budget size pos) (more : pos < size) :
    ∃ charged, budget.enter = .ok charged ∧ charged.depth = budget.depth + 1 ∧ Within charged size (pos + 1) := by
  have next : Within { budget with depth := budget.depth + 1 } size (pos + 1) :=
    ⟨Nat.le_succ_of_le inside.fields, Nat.succ_le_succ inside.depth, inside.maxFields, inside.maxDepth⟩
  refine ⟨{ budget with depth := budget.depth + 1 }, ?_, rfl, next⟩
  unfold JsonBudget.enter
  cases found : budget.maxDepth with
  | none => rfl
  | some limit =>
      have room := inside.maxDepth limit found
      have low := inside.depth
      simp only
      rw [if_neg (by omega)]

theorem field_within (budget : JsonBudget) (size pos : Nat) (inside : Within budget size pos) (more : pos < size) :
    ∃ charged, budget.field = .ok charged ∧ charged.depth = budget.depth ∧ Within charged size (pos + 1) := by
  have next : Within { budget with fields := budget.fields + 1 } size (pos + 1) :=
    ⟨Nat.succ_le_succ inside.fields, Nat.le_succ_of_le inside.depth, inside.maxFields, inside.maxDepth⟩
  refine ⟨{ budget with fields := budget.fields + 1 }, ?_, rfl, next⟩
  unfold JsonBudget.field
  cases found : budget.maxFields with
  | none => rfl
  | some limit =>
      have room := inside.maxFields limit found
      have low := inside.fields
      simp only
      rw [if_neg (by omega)]

theorem leave_within (budget : JsonBudget) (size pos : Nat) (inside : Within budget size pos) :
    Within budget.leave size (pos + 1) :=
  ⟨Nat.le_succ_of_le inside.fields, (Nat.sub_le _ _).trans (Nat.le_succ_of_le inside.depth), inside.maxFields, inside.maxDepth⟩

theorem charge_within (sc : Scanner) (text : Bytes) (offset depth : Nat) (budget : JsonBudget)
    (inside : Within budget sc.input.length offset) (whole : offset + text.length ≤ sc.input.length)
    (balanced : nesting text budget.depth = some depth) :
    ∃ charged, sc.chargeLiteral offset text budget = .ok charged ∧ charged.depth = depth ∧
      Within charged sc.input.length (offset + text.length) := by
  induction text generalizing offset budget with
  | nil => exact ⟨budget, rfl, Option.some.inj balanced, inside⟩
  | cons byte rest ih =>
      rw [List.length_cons] at whole ⊢
      have more : offset < sc.input.length := by omega
      have step : ∃ charged, sc.chargeByte offset byte rest.head? budget = .ok charged ∧
          nesting rest charged.depth = some depth ∧ Within charged sc.input.length (offset + 1) := by
        unfold Scanner.chargeByte
        unfold nesting at balanced
        by_cases opens : byte = 0x7B ∨ byte = 0x5B
        · rw [if_pos opens] at balanced ⊢
          obtain ⟨charged, entered, deeper, next⟩ := enter_within budget _ _ inside more
          exact ⟨charged, by rw [entered]; rfl, by rw [deeper]; exact balanced, next⟩
        · rw [if_neg opens] at balanced ⊢
          by_cases closes : byte = 0x7D ∨ byte = 0x5D
          · rw [if_pos closes] at balanced ⊢
            cases open' : budget.depth with
            | zero =>
                rw [open'] at balanced
                cases balanced
            | succ outer =>
                rw [open'] at balanced
                rw [if_neg (Nat.succ_ne_zero outer)]
                refine ⟨budget.leave, rfl, ?_, leave_within budget _ _ inside⟩
                rw [JsonBudget.leave, open', Nat.add_sub_cancel]
                exact balanced
          · rw [if_neg closes] at balanced ⊢
            by_cases named : byte = quote ∧ rest.head? = some 0x3A
            · rw [if_pos named]
              obtain ⟨charged, counted, same, next⟩ := field_within budget _ _ inside more
              exact ⟨charged, by rw [counted]; rfl, by rw [same]; exact balanced, next⟩
            · rw [if_neg named]
              exact ⟨budget, rfl, balanced, within_later _ _ _ _ inside (Nat.le_succ offset)⟩
      obtain ⟨charged, paid, balanced', next⟩ := step
      obtain ⟨last, paid', deep, inside'⟩ := ih (offset + 1) charged next (by omega) balanced'
      refine ⟨last, ?_, deep, ?_⟩
      · rw [Scanner.chargeLiteral, paid, ok_bind, paid']
      · rw [show offset + (rest.length + 1) = offset + 1 + rest.length by omega]
        exact inside'

structure Arrives (sc : Scanner) (text : Bytes) (depth : Nat) (sc' : Scanner) : Prop where
  took : Took sc text sc'
  fits : Fits sc'
  depth : sc'.budget.depth = depth

theorem arrives_append (sc sc' sc'' : Scanner) (text more : Bytes) (middle depth : Nat) (first : Arrives sc text middle sc')
    (second : Arrives sc' more depth sc'') : Arrives sc (text ++ more) depth sc'' :=
  ⟨took_append _ _ _ _ _ first.took second.took, second.fits, second.depth⟩

theorem arrives_moved (sc : Scanner) (text rest : Bytes) (fits : Fits sc) (found : sc.left = text ++ rest) :
    Arrives sc text sc.budget.depth (sc.moved (sc.pos + text.length)) :=
  ⟨(took_moved sc text rest found).1, fits_moved sc _ fits (Nat.le_add_right _ _), rfl⟩

theorem left_length (sc : Scanner) : sc.left.length = sc.input.length - sc.pos := List.length_drop

theorem expect_arrives (lit : String) (sc : Scanner) (rest : Bytes) (depth : Nat) (fits : Fits sc)
    (found : sc.left = asBytes lit ++ rest) (balanced : nesting (asBytes lit) sc.budget.depth = some depth) :
    ∃ sc', Scanner.takeLit lit sc = .ok (true, sc') ∧ Scanner.expect lit sc = .ok ((), sc') ∧
      Arrives sc (asBytes lit) depth sc' := by
  have there : asBytes lit <+: sc.left := ⟨rest, found.symm⟩
  have size := congrArg List.length found
  rw [left_length, List.length_append] at size
  by_cases inside : sc.pos ≤ sc.input.length
  · obtain ⟨charged, paid, deep, next⟩ := charge_within sc (asBytes lit) sc.pos depth sc.budget fits (by omega) balanced
    have taken : Scanner.takeLit lit sc =
        .ok (true, { sc with pos := sc.pos + (asBytes lit).length, budget := charged }) := by
      unfold Scanner.takeLit
      rw [if_pos there, paid]
      rfl
    have took := take_lit_true _ _ _ taken
    refine ⟨_, taken, ?_, took, next, deep⟩
    simp [Scanner.expect, scan_bind_run _ _ _ _ _ taken]
  · have empty : asBytes lit = [] := List.length_eq_zero_iff.mp (by omega)
    have taken : Scanner.takeLit lit sc = .ok (true, sc) := by
      unfold Scanner.takeLit
      rw [if_pos there, empty]
      rfl
    rw [empty] at balanced ⊢
    refine ⟨sc, taken, ?_, took_nil sc, fits, Option.some.inj balanced⟩
    simp [Scanner.expect, scan_bind_run _ _ _ _ _ taken]

end Cesr.Codec
