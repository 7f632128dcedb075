import Cesr.Codec.RoutedScan

set_option autoImplicit false

namespace Cesr.Codec

open Checks WriterJson Scanner

def itemsText : List Bytes → Bytes
  | [] => []
  | [item] => item
  | item :: next :: rest => item ++ 0x2C :: itemsText (next :: rest)

def arrayText (items : List Bytes) : Bytes := 0x5B :: (itemsText items ++ [0x5D])

def laterText (items : List Bytes) : Bytes := items.flatMap fun item => 0x2C :: item

theorem items_text_cons (item : Bytes) (rest : List Bytes) : itemsText (item :: rest) = item ++ laterText rest := by
  induction rest generalizing item with
  | nil => exact (List.append_nil item).symm
  | cons next rest ih =>
      rw [itemsText, ih next]
      rfl

theorem later_length (items : List Bytes) : items.length ≤ (laterText items).length := by
  induction items with
  | nil => exact Nat.le_refl 0
  | cons item rest ih =>
      rw [laterText, List.flatMap_cons, List.length_append, List.length_cons, List.length_cons]
      show rest.length + 1 ≤ item.length + 1 + (laterText rest).length
      omega

section Took

variable {α : Type} (item : Scan α) (spelled : α → Bytes)
  (each : ∀ sc sc' value, item sc = .ok (value, sc') → Took sc (spelled value) sc')

include each

theorem more_items_took (fuel : Nat) (sc sc' : Scanner) (values : List α) (read : moreItems item fuel sc = .ok (values, sc')) :
    Took sc (laterText (values.map spelled) ++ [0x5D]) sc' := by
  induction fuel generalizing sc values with
  | zero =>
      rw [moreItems, scan_get_run] at read
      cases read
  | succ fuel ih =>
      obtain ⟨there, at1, lit, behind⟩ := (scan_bind_ok _ _ _ _ _).mp read
      cases there with
      | true =>
          obtain ⟨rfl, rfl⟩ := (scan_pure_ok _ _ _ _).mp behind
          exact take_lit_true _ _ _ lit
      | false =>
          obtain rfl := (take_lit_false _ _ _ lit).1
          obtain ⟨_, at2, comma, read⟩ := (scan_bind_ok _ _ _ _ _).mp behind
          obtain ⟨value, at3, first, read⟩ := (scan_bind_ok _ _ _ _ _).mp read
          obtain ⟨rest, at4, later, read⟩ := (scan_bind_ok _ _ _ _ _).mp read
          obtain ⟨rfl, rfl⟩ := (scan_pure_ok _ _ _ _).mp read
          have front := took_append _ _ _ _ _ (expect_took _ _ _ _ comma) (each _ _ _ first)
          have whole := took_append _ _ _ _ _ front (ih at3 rest later)
          rw [← List.append_assoc] at whole
          exact whole

theorem delimited_list_took (sc sc' : Scanner) (values : List α) (read : delimitedList item sc = .ok (values, sc')) :
    Took sc (arrayText (values.map spelled)) sc' := by
  obtain ⟨_, at1, opening, read⟩ := (scan_bind_ok _ _ _ _ _).mp read
  have front := expect_took _ _ _ _ opening
  obtain ⟨there, at2, lit, behind⟩ := (scan_bind_ok _ _ _ _ _).mp read
  cases there with
  | true =>
      obtain ⟨rfl, rfl⟩ := (scan_pure_ok _ _ _ _).mp behind
      exact took_append _ _ _ _ _ front (take_lit_true _ _ _ lit)
  | false =>
      obtain rfl := (take_lit_false _ _ _ lit).1
      obtain ⟨value, at3, first, read⟩ := (scan_bind_ok _ _ _ _ _).mp behind
      rw [scan_get_run] at read
      obtain ⟨rest, at4, later, read⟩ := (scan_bind_ok _ _ _ _ _).mp read
      obtain ⟨rfl, rfl⟩ := (scan_pure_ok _ _ _ _).mp read
      have behind := took_append _ _ _ _ _ (each _ _ _ first) (more_items_took item spelled each _ _ _ rest later)
      rw [arrayText, List.map_cons, items_text_cons, List.append_assoc]
      exact took_append _ _ _ _ _ front behind

end Took

section Given

variable {α : Type} (item : Scan α) (spelled : α → Bytes)

theorem gives_more_items (values : List α) (depth fuel : Nat) (each : ∀ value ∈ values, Gives item value (spelled value) (depth + 1) (depth + 1))
    (enough : values.length < fuel) :
    Gives (moreItems item fuel) values (laterText (values.map spelled) ++ [0x5D]) (depth + 1) depth := by
  induction values generalizing fuel with
  | nil =>
      obtain ⟨fuel, rfl⟩ : ∃ less, fuel = less + 1 := ⟨fuel - 1, by omega⟩
      intro sc rest fits found deep
      obtain ⟨sc', taken, _, arrives⟩ := expect_arrives "]" sc rest depth fits found (by rw [deep]; rfl)
      refine ⟨sc', ?_, arrives⟩
      rw [moreItems, scan_bind_run _ _ _ _ _ taken]
      rfl
  | cons value values ih =>
      obtain ⟨first, later⟩ := List.forall_mem_cons.mp each
      rw [List.length_cons] at enough
      obtain ⟨fuel, rfl⟩ : ∃ less, fuel = less + 1 := ⟨fuel - 1, by omega⟩
      have rest := gives_bind _ (fun rest => pure (value :: rest)) _ _ _ [] _ _ _ (ih fuel later (by omega)) (gives_pure (value :: values) depth)
      rw [List.append_nil] at rest
      have behind : Gives (do expect ","; let value ← item; let rest ← moreItems item fuel; pure (value :: rest)) (value :: values)
          (asBytes "," ++ (spelled value ++ (laterText (values.map spelled) ++ [0x5D]))) (depth + 1) depth :=
        gives_bind _ _ _ _ _ _ _ _ _ (gives_expect "," (depth + 1) (depth + 1) rfl) (gives_bind item _ _ _ _ _ _ _ _ first rest)
      intro sc others fits found deep
      have absent : ¬asBytes "]" <+: sc.left := by
        rw [show asBytes "]" = [0x5D] from rfl, singleton_prefix, found]
        exact fun same => absurd (Option.some.inj same) (by decide)
      rw [moreItems, scan_bind_run _ _ _ _ _ (take_lit_absent "]" sc absent)]
      have same : laterText ((value :: values).map spelled) ++ [0x5D] =
          asBytes "," ++ (spelled value ++ (laterText (values.map spelled) ++ [0x5D])) := by
        rw [List.map_cons, laterText, List.flatMap_cons, List.append_assoc, List.cons_append]
        rfl
      rw [same] at found ⊢
      exact behind sc others fits found deep

theorem gives_delimited_list (values : List α) (depth : Nat) (each : ∀ value ∈ values, Gives item value (spelled value) (depth + 1) (depth + 1))
    (starts : ∀ value ∈ values, ∃ byte rest, spelled value = byte :: rest ∧ byte ≠ 0x5D) :
    Gives (delimitedList item) values (arrayText (values.map spelled)) depth depth := by
  refine gives_bind (expect "[") _ () values [0x5B] (itemsText (values.map spelled) ++ [0x5D]) depth (depth + 1) depth
    (gives_expect "[" depth (depth + 1) rfl) ?_
  cases values with
  | nil =>
      intro sc rest fits found deep
      obtain ⟨sc', taken, _, arrives⟩ := expect_arrives "]" sc rest depth fits found (by rw [deep]; rfl)
      refine ⟨sc', ?_, arrives⟩
      rw [scan_bind_run _ _ _ _ _ taken]
      rfl
  | cons value values =>
      obtain ⟨first, later⟩ := List.forall_mem_cons.mp each
      obtain ⟨byte, tail, start, other⟩ := starts value List.mem_cons_self
      intro sc rest fits found deep
      have split : sc.left = spelled value ++ (laterText (values.map spelled) ++ [0x5D] ++ rest) := by
        rw [found, List.map_cons, items_text_cons, List.append_assoc, List.append_assoc, List.append_assoc]
      have absent : ¬asBytes "]" <+: sc.left := by
        rw [show asBytes "]" = [0x5D] from rfl, singleton_prefix, split, start]
        exact fun same => other (Option.some.inj same)
      obtain ⟨at', read, arrives⟩ := first sc _ fits split deep
      have behind := took_left _ _ _ _ arrives.took split
      have enough : values.length < at'.left.length + 1 := by
        have long := later_length (values.map spelled)
        rw [List.length_map] at long
        rw [behind, List.length_append, List.length_append]
        omega
      obtain ⟨sc', read', arrives'⟩ := gives_more_items item spelled values depth _ later enough at' rest arrives.fits behind arrives.depth
      refine ⟨sc', ?_, ?_⟩
      · rw [scan_bind_run _ _ _ _ _ (take_lit_absent "]" sc absent)]
        show tailList item sc = _
        rw [tailList, scan_bind_run _ _ _ _ _ read, scan_get_run, scan_bind_run _ _ _ _ _ read']
        rfl
      · rw [List.map_cons, items_text_cons, List.append_assoc]
        exact arrives_append _ _ _ _ _ _ _ arrives arrives'

end Given

end Cesr.Codec
