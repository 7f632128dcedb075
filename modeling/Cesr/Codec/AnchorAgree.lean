import Cesr.Codec.SealShape

set_option autoImplicit false

namespace Cesr.Codec

open Checks WriterJson Scanner JsonTally JsonBudget

section Unmetered

structure Unmetered (sc : Scanner) : Prop where
  fits : Fits sc
  opened : sc.opened = sc

theorem unmetered_new (input : Bytes) : Unmetered (withBudget input .unlimited) := ⟨fits_new input, rfl⟩

theorem mark_length (mode : Mode) (byte : UInt8) : (mark mode byte).length ≤ 1 := by
  cases mode with
  | outside =>
      rw [mark]
      by_cases member : byte = 0x3A
      · rw [if_pos member, List.length_singleton]
      · rw [if_neg member]
        by_cases opening : byte = 0x7B ∨ byte = 0x5B
        · rw [if_pos opening, List.length_singleton]
        · rw [if_neg opening]
          by_cases closing : byte = 0x7D ∨ byte = 0x5D
          · rw [if_pos closing, List.length_singleton]
          · rw [if_neg closing]
            exact Nat.zero_le 1
  | inside => exact Nat.zero_le 1
  | escaped => exact Nat.zero_le 1

theorem marks_length (mode : Mode) (text : Bytes) : (marks mode text).length ≤ text.length := by
  induction text generalizing mode with
  | nil => exact Nat.le_refl 0
  | cons byte rest ih =>
      have first := mark_length mode byte
      have later := ih (next mode byte)
      rw [marks, List.length_append, List.length_cons]
      omega

theorem pay_free (list : List Mark) (fields depth : Nat) :
    ∃ fields' depth', pay list ⟨none, none, fields, depth⟩ = some ⟨none, none, fields', depth'⟩ ∧
      fields' ≤ fields + list.length ∧ depth' ≤ depth + list.length := by
  induction list generalizing fields depth with
  | nil => exact ⟨fields, depth, rfl, Nat.le_refl _, Nat.le_refl _⟩
  | cons mark rest ih =>
      rw [List.length_cons]
      cases mark with
      | member =>
          obtain ⟨fields', depth', paid, fewer, lower⟩ := ih (fields + 1) depth
          exact ⟨fields', depth', paid, by omega, by omega⟩
      | opening =>
          obtain ⟨fields', depth', paid, fewer, lower⟩ := ih fields (depth + 1)
          exact ⟨fields', depth', paid, by omega, by omega⟩
      | closing =>
          obtain ⟨fields', depth', paid, fewer, lower⟩ := ih fields (depth - 1)
          exact ⟨fields', depth', paid, by omega, by omega⟩

variable {α : Type} {strict : Prop} {start stop : Mode}

theorem priced_run (part : Scan α) (priced : Priced strict start stop part) (sc done : Scanner) (value : α)
    (read : part sc = .ok (value, done)) :
    ∃ text, Took sc text done ∧ pay (marks start text) sc.budget = some done.budget ∧ part sc.opened = .ok (value, done.opened) := by
  have met := priced sc
  generalize part sc.opened = free at met ⊢
  generalize part sc = held at met read
  cases met with
  | fails error error' plain unpaid => cases read
  | refused value' last error limit unpaid => cases read
  | pays value' last text took ended bill =>
      cases read
      exact ⟨text, took, bill, rfl⟩

theorem took_unmetered (sc done : Scanner) (text : Bytes) (unmetered : Unmetered sc) (took : Took sc text done)
    (bill : pay (marks start text) sc.budget = some done.budget) : Unmetered done := by
  have free : sc.budget = ⟨none, none, sc.budget.fields, sc.budget.depth⟩ := (congrArg Scanner.budget unmetered.opened).symm
  obtain ⟨fields, depth, paid, fewer, lower⟩ := pay_free (marks start text) sc.budget.fields sc.budget.depth
  rw [free, paid] at bill
  have spent := Option.some.inj bill
  have most := marks_length start text
  have within := unmetered.fits
  have first := within.fields
  have second := within.depth
  refine ⟨⟨?_, ?_, ?_, ?_⟩, ?_⟩
  · rw [← spent, took.pos]
    show fields ≤ _
    omega
  · rw [← spent, took.pos]
    show depth ≤ _
    omega
  · rw [← spent]
    exact roomy_none _
  · rw [← spent]
    exact roomy_none _
  · rw [Scanner.opened, ← spent]
    show (⟨done.input, done.pos, ⟨none, none, fields, depth⟩⟩ : Scanner) = done
    rw [spent]

theorem priced_unmetered (part : Scan α) (priced : Priced strict start stop part) (sc done : Scanner) (value : α)
    (unmetered : Unmetered sc) (read : part sc = .ok (value, done)) : Unmetered done := by
  obtain ⟨text, took, bill, _⟩ := priced_run part priced sc done value read
  exact took_unmetered sc done text unmetered took bill

theorem strict_error (part : Scan α) (priced : Priced True start stop part) (sc : Scanner) (error : CodecError) (unmetered : Unmetered sc)
    (failed : part sc = .error error) : error.isLimit = false := by
  have met := priced sc
  rw [← unmetered.opened] at failed
  generalize part sc.opened = free at met failed
  generalize part sc = held at met
  cases met with
  | fails error' _ plain _ =>
      cases failed
      exact plain trivial
  | pays value last text took ended bill => cases failed
  | refused value last error' limit unpaid => cases failed

end Unmetered

section Agree

variable {α β γ δ : Type}

-- Two parts that succeed together, stop at the same place with the same budget
-- and read what belongs together.
structure Agree (first : Scan α) (second : Scan β) (related : α → β → Prop) : Prop where
  there : ∀ sc done value, Unmetered sc → first sc = .ok (value, done) →
    Unmetered done ∧ ∃ other, second sc = .ok (other, done) ∧ related value other
  back : ∀ sc done other, Unmetered sc → second sc = .ok (other, done) → ∃ value, first sc = .ok (value, done) ∧ related value other

theorem agree_bind (first : Scan α) (second : Scan β) (next : α → Scan γ) (next' : β → Scan δ) (related : α → β → Prop)
    (result : γ → δ → Prop) (left : Agree first second related)
    (right : ∀ value other, related value other → Agree (next value) (next' other) result) :
    Agree (first >>= next) (second >>= next') result := by
  refine ⟨?_, ?_⟩
  · intro sc done value unmetered read
    obtain ⟨middle, at', taken, read⟩ := (scan_bind_ok _ _ _ _ _).mp read
    obtain ⟨unmetered', other, taken', belongs⟩ := left.there sc at' middle unmetered taken
    obtain ⟨last, other', read', belongs'⟩ := (right middle other belongs).there at' done value unmetered' read
    exact ⟨last, other', by rw [scan_bind_run _ _ _ _ _ taken', read'], belongs'⟩
  · intro sc done other unmetered read
    obtain ⟨middle, at', taken, read⟩ := (scan_bind_ok _ _ _ _ _).mp read
    obtain ⟨value, taken', belongs⟩ := left.back sc at' middle unmetered taken
    have unmetered' := (left.there sc at' value unmetered taken').1
    obtain ⟨value', read', belongs'⟩ := (right value middle belongs).back at' done other unmetered' read
    exact ⟨value', by rw [scan_bind_run _ _ _ _ _ taken', read'], belongs'⟩

theorem agree_pure (value : α) (other : β) (related : α → β → Prop) (belongs : related value other) :
    Agree (pure value) (pure other) related := by
  refine ⟨?_, ?_⟩
  · intro sc done given unmetered read
    obtain ⟨rfl, rfl⟩ := (scan_pure_ok _ _ _ _).mp read
    exact ⟨unmetered, other, rfl, belongs⟩
  · intro sc done given _ read
    obtain ⟨rfl, rfl⟩ := (scan_pure_ok _ _ _ _).mp read
    exact ⟨value, rfl, belongs⟩

theorem agree_reject (error : DeserializeError) (related : α → β → Prop) : Agree (reject error) (reject error) related := by
  refine ⟨?_, ?_⟩
  · intro sc done value _ read
    cases read
  · intro sc done other _ read
    cases read

theorem agree_get (next : Scanner → Scan α) (next' : Scanner → Scan β) (related : α → β → Prop)
    (each : ∀ sc, Agree (next sc) (next' sc) related) : Agree (get >>= next) (get >>= next') related :=
  ⟨fun sc done value unmetered read => (each sc).there sc done value unmetered read,
    fun sc done other unmetered read => (each sc).back sc done other unmetered read⟩

theorem agree_ite (fault : Prop) [Decidable fault] (first second : Scan α) (first' second' : Scan β) (related : α → β → Prop)
    (left : Agree first first' related) (right : Agree second second' related) :
    Agree (if fault then first else second) (if fault then first' else second') related := by
  by_cases found : fault
  · rw [if_pos found, if_pos found]
    exact left
  · rw [if_neg found, if_neg found]
    exact right

variable {strict : Prop} {start middle : Mode}

theorem agree_shared (part : Scan α) (next : α → Scan γ) (next' : α → Scan δ) (result : γ → δ → Prop)
    (priced : Priced strict start middle part) (right : ∀ value, Agree (next value) (next' value) result) :
    Agree (part >>= next) (part >>= next') result := by
  have same : Agree part part Eq :=
    ⟨fun sc done value unmetered read => ⟨priced_unmetered part priced sc done value unmetered read, value, read, rfl⟩,
      fun sc done other _ read => ⟨other, read, rfl⟩⟩
  apply agree_bind part part next next' Eq result same
  intro value other belongs
  rw [← belongs]
  exact right value

theorem agree_lit (lit : String) (next : Bool → Scan α) (next' : Bool → Scan β) (related : α → β → Prop) (fair : Fair start middle lit)
    (hit : Agree (next true) (next' true) related) (miss : Agree (next false) (next' false) related) :
    Agree (takeLit lit >>= next) (takeLit lit >>= next') related := by
  have taken : ∀ sc at', Unmetered sc → takeLit lit sc = .ok (true, at') → Unmetered at' := by
    intro sc at' unmetered taken
    have took := take_lit_true _ _ _ taken
    have met : Meets False start middle sc (takeLit lit sc.opened) (takeLit lit sc) := take_lit_meets lit fair sc ⟨_, took.left.symm⟩
    generalize takeLit lit sc.opened = free at met
    generalize takeLit lit sc = held at met taken
    cases met with
    | fails error error' plain unpaid => cases taken
    | refused value last error limit unpaid => cases taken
    | pays value last text took ended bill =>
        cases taken
        exact took_unmetered sc at' text unmetered took bill
  refine ⟨?_, ?_⟩
  · intro sc done value unmetered read
    obtain ⟨there, at', lit', later⟩ := (scan_bind_ok _ _ _ _ _).mp read
    cases there with
    | true =>
        obtain ⟨last, other, read', belongs⟩ := hit.there at' done value (taken sc at' unmetered lit') later
        exact ⟨last, other, by rw [scan_bind_run _ _ _ _ _ lit', read'], belongs⟩
    | false =>
        obtain rfl := (take_lit_false _ _ _ lit').1
        obtain ⟨last, other, read', belongs⟩ := miss.there _ done value unmetered later
        exact ⟨last, other, by rw [scan_bind_run _ _ _ _ _ lit', read'], belongs⟩
  · intro sc done other unmetered read
    obtain ⟨there, at', lit', later⟩ := (scan_bind_ok _ _ _ _ _).mp read
    cases there with
    | true =>
        obtain ⟨value, read', belongs⟩ := hit.back at' done other (taken sc at' unmetered lit') later
        exact ⟨value, by rw [scan_bind_run _ _ _ _ _ lit', read'], belongs⟩
    | false =>
        obtain rfl := (take_lit_false _ _ _ lit').1
        obtain ⟨value, read', belongs⟩ := miss.back _ done other unmetered later
        exact ⟨value, by rw [scan_bind_run _ _ _ _ _ lit', read'], belongs⟩

variable (item : Scan α) (item' : Scan β) (related : α → β → Prop)

theorem agree_more_items (each : Agree item item' related) (fuel : Nat) :
    Agree (moreItems item fuel) (moreItems item' fuel) (List.Forall₂ related) := by
  have closing : Fair .outside .outside "]" := ⟨rfl, rfl⟩
  have more : Priced False .outside .outside (expect ",") := priced_expect "," ⟨rfl, rfl⟩
  induction fuel with
  | zero => exact agree_get _ _ _ fun sc => agree_reject _ _
  | succ fuel ih =>
      refine agree_lit "]" _ _ _ closing (agree_pure _ _ _ .nil) ?_
      refine agree_shared _ _ _ _ more fun _ => ?_
      refine agree_bind _ _ _ _ related _ each fun value other belongs => ?_
      exact agree_bind _ _ _ _ _ _ ih fun rest rest' belongs' => agree_pure _ _ _ (.cons belongs belongs')

theorem agree_delimited_list (each : Agree item item' related) :
    Agree (delimitedList item) (delimitedList item') (List.Forall₂ related) := by
  have opening : Priced False .outside .outside (expect "[") := priced_expect "[" ⟨rfl, rfl⟩
  have closing : Fair .outside .outside "]" := ⟨rfl, rfl⟩
  refine agree_shared _ _ _ _ opening fun _ => ?_
  refine agree_lit "]" _ _ _ closing (agree_pure _ _ _ .nil) ?_
  refine agree_bind _ _ _ _ related _ each fun value other belongs => agree_get _ _ _ fun sc => ?_
  exact agree_bind _ _ _ _ _ _ (agree_more_items item item' related each _) fun rest rest' belongs' =>
    agree_pure _ _ _ (.cons belongs belongs')

end Agree

end Cesr.Codec
