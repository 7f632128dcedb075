import Cesr.Codec.EncodeReads

set_option autoImplicit false

namespace Cesr

-- A whole weight is read back as the number it is.
def rereadWeight (weight : Weight) : Weight :=
  if weight.1.val = 0 then (0, 1) else if weight.1 = weight.2 then (1, 1) else weight

def WeightedThreshold.reread (threshold : WeightedThreshold) : WeightedThreshold :=
  ⟨threshold.weights.map rereadWeight, threshold.clauseEnds, by rw [List.length_map]; exact threshold.covered⟩

namespace SigningThreshold

def reread : SigningThreshold → SigningThreshold
  | .simple threshold => .simple threshold
  | .weighted threshold => .weighted threshold.reread

-- A bare number has to fit 32 bits, a weight to have a denominator, and the array
-- of one empty clause is the array of none.
def Writable (form : Codec.ThresholdForm) : SigningThreshold → Prop
  | .simple threshold => form = .integer → threshold.val < 2 ^ 32
  | .weighted threshold => (∀ weight ∈ threshold.weights, weight.2.val ≠ 0) ∧ threshold.clauses ≠ [[]]

end SigningThreshold

section Clauses

theorem clauses_from_map (wrap : Weight → Weight) (weights : List Weight) (start : Nat) (ends : List U32) :
    clausesFrom (weights.map wrap) start ends = (clausesFrom weights start ends).map (List.map wrap) := by
  induction ends generalizing start with
  | nil => rfl
  | cons stop rest ih =>
      simp only [clausesFrom, usize_try_from_u32, Option.bind_some, sliceGet, List.length_map]
      by_cases inside : start ≤ stop.val ∧ stop.val ≤ weights.length
      · simp only [if_pos inside, Option.map_some, List.map_cons, ih, List.map_drop, List.map_take]
      · simp only [if_neg inside, Option.map_none, ih]

theorem reread_clauses (threshold : WeightedThreshold) : threshold.reread.clauses = threshold.clauses.map (List.map rereadWeight) :=
  clauses_from_map rereadWeight threshold.weights 0 threshold.clauseEnds

theorem flatten_covered (weights : List Weight) (start : Nat) (before ends : List U32) (covered : EndsCover start weights.length ends)
    (within : start ≤ weights.length) :
    flattenClauses (weights.take start) before (clausesFrom weights start ends) = .ok (weights, before ++ ends) := by
  induction ends generalizing start before with
  | nil =>
      have same : start = weights.length := covered
      rw [same, List.take_length, List.append_nil]
      rfl
  | cons stop rest ih =>
      obtain ⟨ordered, later⟩ := covered
      have inside := ends_cover_le stop.val weights.length rest later
      have extended : weights.take start ++ (weights.drop start).take (stop.val - start) = weights.take stop.val := by
        rw [← List.take_add, Nat.add_sub_cancel' ordered]
      have counted : (weights.take stop.val).length = stop.val := by rw [List.length_take, Nat.min_eq_left inside]
      simp only [clausesFrom, usize_try_from_u32, Option.bind_some, sliceGet, if_pos (And.intro ordered inside), Option.map_some,
        flattenClauses, extended, (u32_try_from_some _ _).mpr counted.symm]
      rw [ih stop.val (before ++ [stop]) later inside, List.append_assoc]
      rfl

theorem from_nested_own (threshold : WeightedThreshold) : WeightedThreshold.fromNested threshold.clauses = .ok threshold := by
  have flat := flatten_covered threshold.weights 0 [] threshold.clauseEnds threshold.covered (Nat.zero_le _)
  rw [List.take_zero, List.nil_append] at flat
  unfold WeightedThreshold.fromNested
  split
  · rename_i weights ends built
    obtain ⟨same, same'⟩ := Prod.mk.inj (Except.ok.inj (built.symm.trans flat))
    congr 1
    cases threshold
    simp only [same, same']
  · rename_i error built
    cases built.symm.trans flat

theorem reread_well_formed (threshold : SigningThreshold) (keyCount : Nat) :
    threshold.reread.checkWellFormed keyCount = threshold.checkWellFormed keyCount := by
  cases threshold with
  | simple threshold => rfl
  | weighted threshold =>
      have hollow : ∀ clauses : List (List Weight), (clauses.map (List.map rereadWeight)).any List.isEmpty = clauses.any List.isEmpty := by
        intro clauses
        rw [List.any_map]
        congr 1
        funext clause
        exact List.isEmpty_map
      simp only [SigningThreshold.reread, SigningThreshold.checkWellFormed, reread_clauses, hollow]
      rw [WeightedThreshold.reread, List.length_map]

end Clauses

namespace Codec

open Checks Calls WriterJson Scanner Appends

section Weights

theorem slashless_none (text : Bytes) (slashless : ∀ byte ∈ text, byte ≠ 0x2F) : text.findIdx? (fun byte => byte = 0x2F) = none := by
  rw [List.findIdx?_eq_none_iff]
  intro byte inside
  exact decide_eq_false (slashless byte inside)

theorem split_once_at (front back : Bytes) (slashless : ∀ byte ∈ front, byte ≠ 0x2F) :
    splitOnce (front ++ 0x2F :: back) = some (front, back) := by
  have place : (front ++ 0x2F :: back).findIdx? (fun byte => byte = 0x2F) = some front.length := by
    rw [List.findIdx?_append, slashless_none front slashless]
    simp [List.findIdx?_cons]
  rw [splitOnce, place]
  simp

theorem carries_weight (weight : Weight) (proper : weight.2.val ≠ 0) (field : String) :
    ∃ wire, Carries (writeStr (weightToString weight)) stringText stringValue (parseWeight field) (rereadWeight weight) wire := by
  obtain ⟨num, den⟩ := weight
  have digits : ∀ value, ∀ byte ∈ asBytes (toStrRadix 10 value), Plain byte ∧ byte ≠ 0x2F := fun value => radix_plain (by decide) (by decide) value
  have whole : ∀ (value : Nat) (fits : value < 2 ^ 64),
      Carries (writeStr (toStrRadix 10 value)) stringText stringValue (parseWeight field) (⟨value, fits⟩, 1) (toStrRadix 10 value) := by
    intro value fits
    have plain : ∀ byte ∈ asBytes (toStrRadix 10 value), Plain byte := fun byte inside => (digits value byte inside).1
    refine carries_string _ _ _ _ (write_str_adds _ plain) plain ?_
    rw [parseWeight, splitOnce, slashless_none _ fun byte inside => (digits value byte inside).2, radix_read (by decide) (by decide) 64 value fits]
    rfl
  by_cases none' : num.val = 0
  · have zero : num.val / den.val = 0 := by rw [none', Nat.zero_div]
    rw [weightToString, if_pos ⟨proper, .inl none'⟩, rereadWeight, if_pos none']
    simp only [zero]
    exact ⟨_, whole 0 (by decide)⟩
  · by_cases all : num = den
    · have one : num.val / den.val = 1 := by rw [all]; exact Nat.div_self (Nat.pos_of_ne_zero proper)
      rw [weightToString, if_pos ⟨proper, .inr all⟩, rereadWeight, if_neg none', if_pos all]
      simp only [one]
      exact ⟨_, whole 1 (by decide)⟩
    · have apart : ¬ (den.val ≠ 0 ∧ (num.val = 0 ∨ num = den)) := fun both => both.2.elim none' all
      rw [weightToString, if_neg apart, rereadWeight, if_neg none', if_neg all]
      have text : asBytes (toStrRadix 10 num.val ++ "/" ++ toStrRadix 10 den.val) =
          asBytes (toStrRadix 10 num.val) ++ 0x2F :: asBytes (toStrRadix 10 den.val) := by
        rw [as_bytes_append, as_bytes_append, List.append_assoc]
        rfl
      have plain : ∀ byte ∈ asBytes (toStrRadix 10 num.val ++ "/" ++ toStrRadix 10 den.val), Plain byte := by
        rw [text]
        intro byte inside
        rcases List.mem_append.mp inside with front | behind
        · exact (digits _ byte front).1
        · rcases List.mem_cons.mp behind with slash | back
          · rw [slash]
            decide
          · exact (digits _ byte back).1
      refine ⟨_, carries_string _ _ _ _ (write_str_adds _ plain) plain ?_⟩
      rw [parseWeight, text, split_once_at _ _ fun byte inside => (digits _ byte inside).2]
      simp only [@radix_read 10 (by decide) (by decide) 64 num.val num.isLt, @radix_read 10 (by decide) (by decide) 64 den.val den.isLt, orElse, ok_bind]
      exact (bind_ok _ _ _).mpr ⟨(), (reject_if_ok _ _ _).mpr fun zero => proper (congrArg Fin.val zero), rfl⟩

theorem carries_clause (clause : List Weight) (proper : ∀ weight ∈ clause, weight.2.val ≠ 0) (field : String) :
    ∃ wires, Carries (weightClause clause) (fun wires => arrayText (wires.map stringText)) stringArray (eachFromWire parseWeight field)
      (clause.map rereadWeight) wires :=
  carries_each (fun weight => writeStr (weightToString weight)) stringText stringValue parseWeight field rereadWeight clause
    fun weight inside => carries_weight weight (proper weight inside) field

end Weights

section Until

variable {α β : Type}

def GivesUntil (part : Scan α) (value : α) (text : Bytes) (before after : Nat) : Prop :=
  ∀ sc rest, Fits sc → sc.left = text ++ rest → Stops rest → sc.budget.depth = before →
    ∃ sc', part sc = .ok (value, sc') ∧ Arrives sc text after sc'

theorem gives_until (part : Scan α) (value : α) (text : Bytes) (before after : Nat) (gives : Gives part value text before after) :
    GivesUntil part value text before after :=
  fun sc rest fits found _ deep => gives sc rest fits found deep

theorem gives_until_bind (first : Scan α) (next : α → Scan β) (value : α) (result : β) (text more : Bytes) (before middle after : Nat)
    (left : GivesUntil first value text before middle) (right : Gives (next value) result more middle after)
    (stops : ∀ rest, Stops (more ++ rest)) : Gives (first >>= next) result (text ++ more) before after := by
  intro sc rest fits found deep
  rw [List.append_assoc] at found
  obtain ⟨at', read, arrives⟩ := left sc _ fits found (stops rest) deep
  obtain ⟨sc', read', arrives'⟩ := right at' rest arrives.fits (took_left _ _ _ _ arrives.took found) arrives.depth
  exact ⟨sc', by rw [scan_bind_run _ _ _ _ _ read, read'], arrives_append _ _ _ _ _ _ _ arrives arrives'⟩

theorem gives_until_field (lit : String) (item : Scan α) (value : α) (text : Bytes) (depth : Nat)
    (balanced : nesting (asBytes lit) depth = some depth) (inner : GivesUntil item value text depth depth) :
    GivesUntil (field lit item) value (asBytes lit ++ text) depth depth := by
  intro sc rest fits found stops deep
  rw [List.append_assoc] at found
  obtain ⟨at', read, arrives⟩ := gives_expect lit depth depth balanced sc _ fits found deep
  obtain ⟨sc', read', arrives'⟩ := inner at' rest arrives.fits (took_left _ _ _ _ arrives.took found) stops arrives.depth
  exact ⟨sc', by rw [field, scan_bind_run _ _ _ _ _ read, read'], arrives_append _ _ _ _ _ _ _ arrives arrives'⟩

end Until

section Threshold

theorem peek_text (sc : Scanner) (byte : UInt8) (text rest : Bytes) (found : sc.left = (byte :: text) ++ rest) : sc.peek = some byte := by
  rw [peek_left, found]
  rfl

theorem integer_until (value depth : Nat) :
    GivesUntil integer (toStrRadix 10 value) (asBytes (toStrRadix 10 value)) depth depth := by
  intro sc rest fits found stops deep
  refine ⟨_, integer_reads _ sc rest found (decimal_whole value) (stops_no_digit rest stops), ?_⟩
  rw [← deep]
  exact arrives_moved sc _ rest fits found

theorem gives_hex (text : String) (depth : Nat) (plain : ∀ byte ∈ asBytes text, Plain byte) :
    Gives ParsedTholder.decode (.hex text) (stringText text) depth depth ∧ Gives ParsedCount.decode (.hex text) (stringText text) depth depth := by
  refine ⟨?_, ?_⟩
  all_goals
    intro sc rest fits found deep
    obtain ⟨sc', read, arrives⟩ := gives_string_value text depth plain sc rest fits found deep
    refine ⟨sc', ?_, arrives⟩
    first | rw [ParsedTholder.decode] | rw [ParsedCount.decode]
    rw [scan_get_run, if_pos (peek_text sc quote _ rest found), scan_bind_run _ _ _ _ _ read]
    rfl

theorem number_until (value depth : Nat) :
    GivesUntil ParsedTholder.decode (.number (toStrRadix 10 value)) (asBytes (toStrRadix 10 value)) depth depth ∧
      GivesUntil ParsedCount.decode (.number (toStrRadix 10 value)) (asBytes (toStrRadix 10 value)) depth depth := by
  obtain ⟨first, digits, same, digit⟩ := whole_head _ (decimal_whole value)
  refine ⟨?_, ?_⟩
  all_goals
    intro sc rest fits found stops deep
    obtain ⟨sc', read, arrives⟩ := integer_until value depth sc rest fits found stops deep
    have peeked : sc.peek = some first := peek_text sc first digits rest (by rw [← same]; exact found)
    have other : ¬ sc.peek = some quote := by
      rw [peeked]
      intro quoted'
      rw [Option.some.inj quoted'] at digit
      exact absurd digit (by decide)
    have there : sc.atDigit = true := by
      rw [Scanner.atDigit, peeked]
      exact digit
    refine ⟨sc', ?_, arrives⟩
    first | rw [ParsedTholder.decode] | rw [ParsedCount.decode]
    rw [scan_get_run, if_neg other, if_pos there, scan_bind_run _ _ _ _ _ read]
    rfl

theorem list_opens {α : Type} (item : Scan α) (value : α) (values : List α) (text : Bytes) (depth : Nat)
    (gives : Gives (delimitedList item) (value :: values) text depth depth) (sc : Scanner) (rest : Bytes) (fits : Fits sc)
    (found : sc.left = text ++ rest) (deep : sc.budget.depth = depth) :
    ∃ at' sc', expect "[" sc = .ok ((), at') ∧ takeLit "]" at' = .ok (false, at') ∧ tailList item at' = .ok (value :: values, sc') ∧
      Arrives sc text depth sc' := by
  obtain ⟨sc', read, arrives⟩ := gives sc rest fits found deep
  obtain ⟨_, at', opening, read⟩ := (scan_bind_ok _ _ _ _ _).mp read
  obtain ⟨there, at2, lit, behind⟩ := (scan_bind_ok _ _ _ _ _).mp read
  cases there with
  | true =>
      obtain ⟨none', _⟩ := (scan_pure_ok _ _ _ _).mp behind
      cases none'
  | false =>
      obtain rfl := (take_lit_false _ _ _ lit).1
      exact ⟨_, sc', opening, lit, behind, arrives⟩

theorem gives_weighted (parsed : ParsedTholder) (text : Bytes) (depth : Nat) (bracket : text.head? = some 0x5B)
    (inner : Gives ParsedTholder.weightedArray parsed text depth depth) : Gives ParsedTholder.decode parsed text depth depth := by
  intro sc rest fits found deep
  obtain ⟨sc', read, arrives⟩ := inner sc rest fits found deep
  have opened : sc.peek = some 0x5B := by
    rw [peek_left, found]
    cases text with
    | nil => cases bracket
    | cons byte text => exact bracket
  have digitless : sc.atDigit = false := by
    rw [Scanner.atDigit, opened]
    rfl
  refine ⟨sc', ?_, arrives⟩
  rw [ParsedTholder.decode, scan_get_run, opened, digitless, if_neg (by decide), if_neg Bool.false_ne_true, if_pos rfl]
  exact read

theorem gives_no_clauses (depth : Nat) : Gives ParsedTholder.decode (.weighted []) (asBytes "[]") depth depth := by
  refine gives_weighted _ _ depth rfl ?_
  refine gives_bind (expect "[") _ () _ (asBytes "[") (asBytes "]") depth (depth + 1) depth (gives_expect "[" depth (depth + 1) rfl) ?_
  intro sc rest fits found deep
  obtain ⟨sc', taken, _, arrives⟩ := expect_arrives "]" sc rest depth fits found (by rw [deep]; rfl)
  refine ⟨sc', ?_, arrives⟩
  rw [scan_bind_run _ _ _ _ _ taken]
  rfl

-- The reader tells one clause from several by the byte behind the first bracket.
theorem gives_flat (wire : String) (wires : List String) (depth : Nat)
    (gives : Gives stringArray (wire :: wires) (arrayText ((wire :: wires).map stringText)) depth depth) :
    Gives ParsedTholder.decode (.weighted [wire :: wires]) (arrayText ((wire :: wires).map stringText)) depth depth := by
  refine gives_weighted _ _ depth rfl ?_
  intro sc rest fits found deep
  obtain ⟨at', sc', opening, lit, tail, arrives⟩ := list_opens stringValue wire wires _ depth gives sc rest fits found deep
  have behind : at'.left = itemsText ((wire :: wires).map stringText) ++ [0x5D] ++ rest :=
    took_left _ _ _ _ (expect_took _ _ _ _ opening) found
  have peeked : at'.peek = some quote := by
    rw [peek_left, behind, List.map_cons, items_text_cons]
    rfl
  refine ⟨sc', ?_, arrives⟩
  rw [ParsedTholder.weightedArray, scan_bind_run _ _ _ _ _ opening, scan_bind_run _ _ _ _ _ lit]
  simp only [Bool.false_eq_true, if_false]
  rw [ParsedTholder.clauses, scan_get_run, if_pos peeked, scan_bind_run _ _ _ _ _ tail]
  rfl

theorem gives_nested (clause : List String) (clauses : List (List String)) (depth : Nat)
    (gives : Gives (delimitedList stringArray) (clause :: clauses)
      (arrayText ((clause :: clauses).map fun wires => arrayText (wires.map stringText))) depth depth) :
    Gives ParsedTholder.decode (.weighted (clause :: clauses))
      (arrayText ((clause :: clauses).map fun wires => arrayText (wires.map stringText))) depth depth := by
  refine gives_weighted _ _ depth rfl ?_
  intro sc rest fits found deep
  obtain ⟨at', sc', opening, lit, tail, arrives⟩ := list_opens stringArray clause clauses _ depth gives sc rest fits found deep
  have behind : at'.left = itemsText ((clause :: clauses).map fun wires => arrayText (wires.map stringText)) ++ [0x5D] ++ rest :=
    took_left _ _ _ _ (expect_took _ _ _ _ opening) found
  have peeked : at'.peek = some 0x5B := by
    rw [peek_left, behind, List.map_cons, items_text_cons]
    rfl
  refine ⟨sc', ?_, arrives⟩
  rw [ParsedTholder.weightedArray, scan_bind_run _ _ _ _ _ opening, scan_bind_run _ _ _ _ _ lit]
  simp only [Bool.false_eq_true, if_false]
  rw [ParsedTholder.clauses, scan_get_run, peeked, if_neg (by decide), if_pos rfl, scan_bind_run _ _ _ _ _ tail]
  rfl

def clauseText (wires : List String) : Bytes := arrayText (wires.map stringText)

theorem clauses_adds (first second : List Weight) (clauses : List (List Weight)) (text text' : Bytes) (texts : List Bytes)
    (left : Adds (weightClause first) (fun _ => ()) text) (right : Adds (weightClause second) (fun _ => ()) text')
    (each : List.Forall₂ (fun clause text => Adds (weightClause clause) (fun _ => ()) text) clauses texts) :
    Adds (do
      push (asBytes "[")
      weightClause first
      push (asBytes ",")
      weightClause second
      clauses.forM fun clause => do
        push (asBytes ",")
        weightClause clause
      push (asBytes "]")) (fun _ => ()) (arrayText (text :: text' :: texts)) := by
  have later : Adds (clauses.forM fun clause => do push (asBytes ","); weightClause clause) (fun _ => ()) (texts.map (asBytes "," ++ ·)).flatten := by
    apply adds_for
    rw [List.forall₂_map_right_iff]
    exact each.imp fun clause text adds => adds_both _ _ _ _ (adds_push (asBytes ",")) adds
  have whole := adds_both _ _ _ _ (adds_push (asBytes "[")) (adds_both _ _ _ _ left (adds_both _ _ _ _ (adds_push (asBytes ","))
    (adds_both _ _ _ _ right (adds_both _ _ _ _ later (adds_push (asBytes "]"))))))
  have same : asBytes "[" ++ (text ++ (asBytes "," ++ (text' ++ ((texts.map (asBytes "," ++ ·)).flatten ++ asBytes "]")))) =
      arrayText (text :: text' :: texts) := by
    rw [arrayText, items_text_cons, laterText, List.flatMap_cons, ← List.flatMap_def]
    simp only [List.append_assoc, List.cons_append]
    rfl
  rw [← same]
  exact whole

structure ThresholdCarried (encode : Write Unit) (form : ThresholdForm) (value : SigningThreshold) (field : String) (text : Bytes) (wire : ParsedTholder) :
    Prop where
  adds : Adds encode (fun _ => ()) text
  gives : ∀ depth, GivesUntil ParsedTholder.decode wire text depth depth
  lifts : signingThresholdFromWire field wire = .ok value
  formed : checkFormConsistency field wire form = .ok ()

theorem carries_threshold (threshold : SigningThreshold) (form : ThresholdForm) (writable : threshold.Writable form) (field : String) :
    ∃ text wire, ThresholdCarried (ThresholdField.encode ⟨threshold, form⟩) form threshold.reread field text wire := by
  cases threshold with
  | simple threshold =>
      cases form with
      | hexString =>
          have plain : ∀ byte ∈ asBytes (toStrRadix 16 threshold.val), Plain byte :=
            fun byte inside => (radix_plain (by decide) (by decide) _ byte inside).1
          refine ⟨_, .hex (toStrRadix 16 threshold.val), write_str_adds _ plain,
            fun depth => gives_until _ _ _ _ _ (gives_hex _ depth plain).1, ?_, rfl⟩
          rw [signingThresholdFromWire, radix_read (by decide) (by decide) 64 threshold.val threshold.isLt]
          rfl
      | integer =>
          refine ⟨_, .number (toStrRadix 10 threshold.val), adds_push _, fun depth => (number_until _ depth).1, ?_, ?_⟩
          · rw [signingThresholdFromWire, radix_read (by decide) (by decide) 64 threshold.val threshold.isLt]
            rfl
          · refine (reject_if_ok _ _ _).mpr ?_
            simp only [@radix_read 10 (by decide) (by decide) 32 threshold.val (writable rfl), Option.isSome_some]
            exact Bool.noConfusion
  | weighted threshold =>
      obtain ⟨proper, whole⟩ := writable
      have built := from_nested_own threshold.reread
      rw [reread_clauses] at built
      have inside : ∀ clause ∈ threshold.clauses, ∀ weight ∈ clause, weight.2.val ≠ 0 := by
        intro clause listed weight member
        apply proper
        rw [← (weighted_clauses threshold).1]
        exact List.mem_flatten.mpr ⟨clause, listed, member⟩
      obtain ⟨wires, both⟩ := carried_wires weightClause clauseText stringArray (fun field wires => eachFromWire parseWeight field wires) field
        (List.map rereadWeight) threshold.clauses fun clause listed => carries_clause clause (inside clause listed) field
      have carried := carries_list weightClause clauseText stringArray (fun field wires => eachFromWire parseWeight field wires) field
        (List.map rereadWeight) threshold.clauses wires both
      have lifted : signingThresholdFromWire field (.weighted wires) = .ok (.weighted threshold.reread) := by
        have nested : wires.mapM (fun clause => clause.mapM (parseWeight field)) = .ok (threshold.clauses.map (List.map rereadWeight)) := carried.lifts
        rw [signingThresholdFromWire, nested, ok_bind, built]
        rfl
      simp only [ThresholdField.encode]
      cases clauses : threshold.clauses with
      | nil =>
          rw [clauses] at both
          cases both
          exact ⟨_, .weighted [], adds_push _, fun depth => gives_until _ _ _ _ _ (gives_no_clauses depth), lifted, rfl⟩
      | cons first later =>
          rw [clauses] at both whole
          cases both with
          | @cons _ wire _ wires head tail =>
              cases later with
              | nil =>
                  cases tail
                  cases wire with
                  | nil =>
                      have none' : first = [] := by
                        have same := congrArg List.length (Except.ok.inj (head.lifts.symm.trans rfl))
                        rw [List.length_map] at same
                        exact List.eq_nil_of_length_eq_zero same
                      exact (whole (by rw [none'])).elim
                  | cons weight weights =>
                      exact ⟨_, .weighted [weight :: weights], head.adds,
                        fun depth => gives_until _ _ _ _ _ (gives_flat weight weights depth (head.gives depth)), lifted, rfl⟩
              | cons second rest =>
                  cases tail with
                  | @cons _ wire' _ wires head' tail =>
                      refine ⟨_, .weighted (wire :: wire' :: wires), clauses_adds first second rest _ _ (wires.map clauseText) head.adds head'.adds ?_,
                        fun depth => gives_until _ _ _ _ _ (gives_nested wire (wire' :: wires) depth (carried.gives depth)), lifted, rfl⟩
                      exact List.forall₂_map_right_iff.mpr (tail.imp fun clause wires carried => carried.adds)

end Threshold

structure CountCarried (encode : Write Unit) (form : ThresholdForm) (value : U32) (field : String) (text : Bytes) (wire : ParsedCount) : Prop where
  adds : Adds encode (fun _ => ()) text
  gives : ∀ depth, GivesUntil ParsedCount.decode wire text depth depth
  lifts : countFromWire field wire = .ok value
  formed : thresholdFormOf wire = form

theorem carries_count (toad : Toad) (form : ThresholdForm) (field : String) :
    ∃ text wire, CountCarried (CountField.encode ⟨toad, form⟩) form toad.value field text wire := by
  have wide : toad.value.val < 2 ^ 128 := Nat.lt_trans toad.value.isLt (by decide)
  have narrow : u32TryFrom toad.value.val = some toad.value := (u32_try_from_some _ _).mpr rfl
  cases form with
  | hexString =>
      have plain : ∀ byte ∈ asBytes (toStrRadix 16 toad.value.val), Plain byte :=
        fun byte inside => (radix_plain (by decide) (by decide) _ byte inside).1
      refine ⟨_, .hex (toStrRadix 16 toad.value.val), write_str_adds _ plain,
        fun depth => gives_until _ _ _ _ _ (gives_hex _ depth plain).2, ?_, rfl⟩
      rw [countFromWire, countValue, radix_read (by decide) (by decide) 128 toad.value.val wide, orElse, ok_bind]
      simp only [narrow]
      rfl
  | integer =>
      refine ⟨_, .number (toStrRadix 10 toad.value.val), adds_push _, fun depth => (number_until _ depth).2, ?_, rfl⟩
      rw [countFromWire, countValue, radix_read (by decide) (by decide) 128 toad.value.val wide, orElse, ok_bind]
      simp only [narrow]
      rfl

end Codec

end Cesr
