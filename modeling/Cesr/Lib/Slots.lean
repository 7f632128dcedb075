import Mathlib.Data.List.Nodup

set_option autoImplicit false

namespace Slots

variable {Name α : Type}

abbrev Piece (Name α : Type) := Option Name × List α

def render (pieces : List (Piece Name α)) : List α := pieces.flatMap Prod.snd

def names (pieces : List (Piece Name α)) : List Name := pieces.filterMap Prod.fst

def edit (change : Name → List α → List α) (pieces : List (Piece Name α)) : List (Piece Name α) :=
  pieces.map fun piece => (piece.1, piece.1.elim piece.2 fun name => change name piece.2)

def overwrite (text : List α) (span : Nat × Nat) (given : List α) : List α := text.take span.1 ++ given ++ text.drop span.2

theorem render_cons (piece : Piece Name α) (rest : List (Piece Name α)) : render (piece :: rest) = piece.2 ++ render rest :=
  List.flatMap_cons

theorem render_append (pieces more : List (Piece Name α)) : render (pieces ++ more) = render pieces ++ render more :=
  List.flatMap_append

theorem names_append (pieces more : List (Piece Name α)) : names (pieces ++ more) = names pieces ++ names more :=
  List.filterMap_append

theorem names_rest (piece : Piece Name α) (rest : List (Piece Name α)) (once : (names (piece :: rest)).Nodup) :
    (names rest).Nodup := by
  cases found : piece.1 with
  | none =>
      rw [names, List.filterMap_cons_none found] at once
      exact once
  | some name =>
      rw [names, List.filterMap_cons_some found] at once
      exact (List.nodup_cons.mp once).2

theorem names_first (piece : Piece Name α) (rest : List (Piece Name α)) (name : Name) (once : (names (piece :: rest)).Nodup)
    (found : piece.1 = some name) : name ∉ names rest := by
  rw [names, List.filterMap_cons_some found] at once
  exact (List.nodup_cons.mp once).1

theorem names_edit (change : Name → List α → List α) (pieces : List (Piece Name α)) : names (edit change pieces) = names pieces := by
  unfold names edit
  rw [List.filterMap_map]
  rfl

theorem edit_cons (change : Name → List α → List α) (piece : Piece Name α) (rest : List (Piece Name α)) :
    edit change (piece :: rest) = (piece.1, piece.1.elim piece.2 fun name => change name piece.2) :: edit change rest := rfl

theorem edit_append (change : Name → List α → List α) (pieces more : List (Piece Name α)) :
    edit change (pieces ++ more) = edit change pieces ++ edit change more := List.map_append

theorem edit_edit (change later : Name → List α → List α) (pieces : List (Piece Name α)) :
    edit later (edit change pieces) = edit (fun name text => later name (change name text)) pieces := by
  unfold edit
  rw [List.map_map]
  apply List.map_congr_left
  intro piece _
  cases found : piece.1 with
  | none => simp [found]
  | some name => simp [found]

theorem edit_congr (change other : Name → List α → List α) (pieces : List (Piece Name α))
    (same : ∀ piece ∈ pieces, ∀ name, piece.1 = some name → change name piece.2 = other name piece.2) :
    edit change pieces = edit other pieces := by
  unfold edit
  apply List.map_congr_left
  intro piece inside
  cases found : piece.1 with
  | none => rfl
  | some name => rw [Option.elim_some, Option.elim_some, same piece inside name found]

theorem edit_same (change : Name → List α → List α) (pieces : List (Piece Name α))
    (same : ∀ piece ∈ pieces, ∀ name, piece.1 = some name → change name piece.2 = piece.2) : edit change pieces = pieces := by
  unfold edit
  conv_rhs => rw [← List.map_id pieces]
  apply List.map_congr_left
  intro piece inside
  cases piece with
  | mk label text =>
      cases label with
      | none => rfl
      | some name => rw [Option.elim_some, same _ inside name rfl, id]

theorem length_edit (change : Name → List α → List α) (pieces : List (Piece Name α))
    (kept : ∀ piece ∈ pieces, ∀ name, piece.1 = some name → (change name piece.2).length = piece.2.length) :
    (render (edit change pieces)).length = (render pieces).length := by
  induction pieces with
  | nil => rfl
  | cons piece rest ih =>
      have first : (piece.1.elim piece.2 fun name => change name piece.2).length = piece.2.length := by
        cases found : piece.1 with
        | none => rfl
        | some name => exact kept piece List.mem_cons_self name found
      rw [edit_cons, render_cons, render_cons, List.length_append, List.length_append, first,
        ih fun other inside => kept other (List.mem_cons_of_mem piece inside)]

theorem name_inside (piece : Piece Name α) (pieces : List (Piece Name α)) (name : Name) (inside : piece ∈ pieces)
    (found : piece.1 = some name) : name ∈ names pieces := List.mem_filterMap.mpr ⟨piece, inside, found⟩

variable [DecidableEq Name]

def spanFrom (name : Name) : Nat → List (Piece Name α) → Option (Nat × Nat)
  | _, [] => none
  | start, piece :: rest =>
      if piece.1 = some name then some (start, start + piece.2.length) else spanFrom name (start + piece.2.length) rest

def spanOf (name : Name) (pieces : List (Piece Name α)) : Option (Nat × Nat) := spanFrom name 0 pieces

def held (name : Name) : List (Piece Name α) → Option (List α)
  | [] => none
  | piece :: rest => if piece.1 = some name then some piece.2 else held name rest

theorem span_append (name : Name) (start : Nat) (pieces more : List (Piece Name α)) :
    spanFrom name start (pieces ++ more) = (spanFrom name start pieces).or (spanFrom name (start + (render pieces).length) more) := by
  induction pieces generalizing start with
  | nil => rfl
  | cons piece rest ih =>
      rw [List.cons_append, spanFrom, spanFrom]
      by_cases here : piece.1 = some name
      · rw [if_pos here, if_pos here]
        rfl
      · rw [if_neg here, if_neg here, ih, render_cons, List.length_append, Nat.add_assoc]

theorem held_append (name : Name) (pieces more : List (Piece Name α)) :
    held name (pieces ++ more) = (held name pieces).or (held name more) := by
  induction pieces with
  | nil => rfl
  | cons piece rest ih =>
      rw [List.cons_append, held, held]
      by_cases here : piece.1 = some name
      · rw [if_pos here, if_pos here]
        rfl
      · rw [if_neg here, if_neg here, ih]

theorem held_names (name : Name) (pieces : List (Piece Name α)) (text : List α) (found : held name pieces = some text) :
    name ∈ names pieces := by
  induction pieces with
  | nil => cases found
  | cons piece rest ih =>
      rw [held] at found
      by_cases here : piece.1 = some name
      · exact name_inside piece _ name List.mem_cons_self here
      · rw [if_neg here] at found
        obtain ⟨other, inside, named⟩ := List.mem_filterMap.mp (ih found)
        exact name_inside other _ name (List.mem_cons_of_mem piece inside) named

theorem span_names (name : Name) (start : Nat) (pieces : List (Piece Name α)) :
    name ∈ names pieces ↔ ∃ span, spanFrom name start pieces = some span := by
  induction pieces generalizing start with
  | nil => simp [names, spanFrom]
  | cons piece rest ih =>
      rw [spanFrom]
      by_cases here : piece.1 = some name
      · rw [if_pos here]
        exact ⟨fun _ => ⟨_, rfl⟩, fun _ => name_inside piece _ name List.mem_cons_self here⟩
      · rw [if_neg here, ← ih]
        apply Iff.intro
        · intro inside
          obtain ⟨other, listed, named⟩ := List.mem_filterMap.mp inside
          rcases List.mem_cons.mp listed with same | later
          · rw [same] at named
            exact absurd named here
          · exact name_inside other rest name later named
        · intro inside
          obtain ⟨other, listed, named⟩ := List.mem_filterMap.mp inside
          exact name_inside other _ name (List.mem_cons_of_mem piece listed) named

theorem held_piece (name : Name) (pieces : List (Piece Name α)) (text : List α) (once : (names pieces).Nodup) :
    held name pieces = some text ↔ (some name, text) ∈ pieces := by
  induction pieces with
  | nil => simp [held]
  | cons piece rest ih =>
      rw [held, List.mem_cons]
      by_cases here : piece.1 = some name
      · rw [if_pos here, Option.some.injEq]
        apply Iff.intro
        · intro same
          rw [← same, ← here]
          exact .inl rfl
        · intro found
          rcases found with same | later
          · rw [← same]
          · exact absurd (name_inside _ rest name later rfl) (names_first piece rest name once here)
      · rw [if_neg here, ih (names_rest piece rest once)]
        apply Iff.intro
        · exact .inr
        · intro found
          rcases found with same | later
          · rw [← same] at here
            exact absurd rfl here
          · exact later

theorem span_edit (change : Name → List α → List α) (name : Name) (start : Nat) (pieces : List (Piece Name α))
    (kept : ∀ piece ∈ pieces, ∀ other, piece.1 = some other → (change other piece.2).length = piece.2.length) :
    spanFrom name start (edit change pieces) = spanFrom name start pieces := by
  induction pieces generalizing start with
  | nil => rfl
  | cons piece rest ih =>
      have long : (piece.1.elim piece.2 fun other => change other piece.2).length = piece.2.length := by
        cases found : piece.1 with
        | none => rfl
        | some other => exact kept piece List.mem_cons_self other found
      rw [edit_cons, spanFrom, spanFrom, long, ih _ fun other inside => kept other (List.mem_cons_of_mem piece inside)]

theorem only_same (name : Name) (given : List α) (pieces : List (Piece Name α)) (absent : name ∉ names pieces) :
    edit (fun other old => if other = name then given else old) pieces = pieces := by
  apply edit_same
  intro piece inside other found
  by_cases same : other = name
  · rw [← same] at absent
    exact absurd (name_inside piece pieces other inside found) absent
  · rw [if_neg same]

theorem span_splits (name : Name) (start : Nat) (span : Nat × Nat) (pieces : List (Piece Name α))
    (found : spanFrom name start pieces = some span) :
    ∃ before text after, render pieces = before ++ text ++ after ∧ held name pieces = some text ∧
      span = (start + before.length, start + before.length + text.length) ∧
      ((names pieces).Nodup → ∀ given,
        render (edit (fun other old => if other = name then given else old) pieces) = before ++ given ++ after) := by
  induction pieces generalizing start with
  | nil => cases found
  | cons piece rest ih =>
      rw [spanFrom] at found
      by_cases here : piece.1 = some name
      · rw [if_pos here] at found
        refine ⟨[], piece.2, render rest, rfl, ?_, (Option.some.inj found).symm, fun once given => ?_⟩
        · rw [held, if_pos here]
        · rw [edit_cons, render_cons, only_same name given rest (names_first piece rest name once here), here]
          simp
      · rw [if_neg here] at found
        obtain ⟨before, text, after, split, holds, same, edits⟩ := ih (start + piece.2.length) found
        refine ⟨piece.2 ++ before, text, after, ?_, ?_, ?_, fun once given => ?_⟩
        · rw [render_cons, split]
          simp only [List.append_assoc]
        · rw [held, if_neg here]
          exact holds
        · rw [same, List.length_append, ← Nat.add_assoc]
        · have first : (piece.1.elim piece.2 fun other => if other = name then given else piece.2) = piece.2 := by
            cases other : piece.1 with
            | none => rfl
            | some label =>
                rw [other, Option.some.injEq] at here
                exact if_neg here
          rw [edit_cons, render_cons, edits (names_rest piece rest once) given, first]
          simp only [List.append_assoc]

theorem overwrite_slot (name : Name) (span : Nat × Nat) (given : List α) (pieces : List (Piece Name α))
    (found : spanOf name pieces = some span) (once : (names pieces).Nodup) :
    overwrite (render pieces) span given = render (edit (fun other old => if other = name then given else old) pieces) := by
  obtain ⟨before, text, after, split, _, same, edits⟩ := span_splits name 0 span pieces found
  have behind : (before ++ text ++ after).drop (before.length + text.length) = after := by
    rw [← List.length_append, List.drop_left]
  have front : (before ++ text ++ after).take before.length = before := by rw [List.append_assoc, List.take_left]
  rw [edits once given, overwrite, split, same]
  simp only [Nat.zero_add, front, behind]

theorem slice_slot (name : Name) (span : Nat × Nat) (pieces : List (Piece Name α)) (found : spanOf name pieces = some span) :
    held name pieces = some (((render pieces).take span.2).drop span.1) ∧ span.1 ≤ span.2 ∧ span.2 ≤ (render pieces).length := by
  obtain ⟨before, text, after, split, holds, same, _⟩ := span_splits name 0 span pieces found
  rw [holds, split, same]
  simp only [Nat.zero_add]
  refine ⟨?_, Nat.le_add_right _ _, ?_⟩
  · rw [← List.length_append, List.take_left, List.drop_left]
  · simp only [List.length_append]
    omega

theorem overwrite_slots (labels : List Name) (pieces : List (Piece Name α)) (span : Name → Nat × Nat) (new : Name → List α)
    (once : (names pieces).Nodup) (found : ∀ name ∈ labels, spanOf name pieces = some (span name))
    (sized : ∀ name ∈ labels, (new name).length = (span name).2 - (span name).1) :
    labels.foldl (fun text name => overwrite text (span name) (new name)) (render pieces) =
      render (edit (fun name old => if name ∈ labels then new name else old) pieces) := by
  induction labels generalizing pieces with
  | nil =>
      rw [List.foldl_nil, edit_same]
      intro piece _ name _
      rw [if_neg List.not_mem_nil]
  | cons name labels ih =>
      have here := found name List.mem_cons_self
      have kept : ∀ piece ∈ pieces, ∀ other, piece.1 = some other →
          (if other = name then new name else piece.2).length = piece.2.length := by
        intro piece inside other named
        by_cases same : other = name
        · rw [same] at named
          have holds := (held_piece name pieces piece.2 once).mpr (by rw [← named]; exact inside)
          obtain ⟨holds', _, low⟩ := slice_slot name (span name) pieces here
          rw [holds, Option.some.injEq] at holds'
          rw [if_pos same, sized name List.mem_cons_self, holds', List.length_drop, List.length_take, Nat.min_eq_left low]
        · rw [if_neg same]
      have others : ∀ other ∈ labels,
          spanOf other (edit (fun other old => if other = name then new name else old) pieces) = some (span other) := by
        intro other inside
        rw [spanOf, span_edit _ other 0 pieces kept]
        exact found other (List.mem_cons_of_mem name inside)
      rw [List.foldl_cons, overwrite_slot name (span name) (new name) pieces here once, ih _ (by rw [names_edit]; exact once) others
        (fun other inside => sized other (List.mem_cons_of_mem name inside)), edit_edit]
      congr 1
      apply edit_congr
      intro piece _ other _
      by_cases later : other ∈ labels
      · rw [if_pos later, if_pos (List.mem_cons_of_mem name later)]
      · rw [if_neg later]
        by_cases same : other = name
        · rw [if_pos same, if_pos (by rw [same]; exact List.mem_cons_self), same]
        · rw [if_neg same, if_neg (fun inside => (List.mem_cons.mp inside).elim same later)]

end Slots
