import Cesr.Codec.RoutedScan

set_option autoImplicit false

namespace Cesr.Codec

open Checks WriterJson Scanner

def sealShapes : List (List String) := [["d"], ["rd"], ["s", "d"], ["i", "s", "d"], ["i"], ["bi", "d"], ["t", "d"]]

def stringMembers (keys values : List String) : List Member :=
  List.zipWith (fun key value => (asBytes key, quoted (asBytes value))) keys values

-- An object with the keys of a typed seal whose values are strings without an escape.
structure Shaped (object : Bytes) (keys values : List String) : Prop where
  known : keys ∈ sealShapes
  paired : values.length = keys.length
  plain : ∀ value ∈ values, ∀ byte ∈ asBytes value, Plain byte
  spelled : object = objectText (stringMembers keys values)

namespace ParsedSeal

def keys : ParsedSeal → List String
  | .digest _ => ["d"]
  | .root _ => ["rd"]
  | .source _ _ => ["s", "d"]
  | .event _ _ _ => ["i", "s", "d"]
  | .last _ => ["i"]
  | .back _ _ => ["bi", "d"]
  | .kind _ _ => ["t", "d"]
  | .opaqueSeal _ => []

def values : ParsedSeal → List String
  | .digest d => [d]
  | .root rd => [rd]
  | .source s d => [s, d]
  | .event i s d => [i, s, d]
  | .last i => [i]
  | .back bi d => [bi, d]
  | .kind t d => [t, d]
  | .opaqueSeal _ => []

def text (parsed : ParsedSeal) : Bytes := objectText (stringMembers parsed.keys parsed.values)

end ParsedSeal

theorem shaped_parsed (object : Bytes) (keys values : List String) (shaped : Shaped object keys values) :
    ∃ parsed : ParsedSeal, parsed.keys = keys ∧ parsed.values = values ∧ object = parsed.text := by
  have known := shaped.known
  have paired := shaped.paired
  have spelled := shaped.spelled
  have given : ∀ parsed : ParsedSeal, parsed.keys = keys → parsed.values = values →
      ∃ parsed : ParsedSeal, parsed.keys = keys ∧ parsed.values = values ∧ object = parsed.text := by
    intro parsed same same'
    exact ⟨parsed, same, same', by rw [spelled, ParsedSeal.text, same, same']⟩
  simp only [sealShapes, List.mem_cons, List.not_mem_nil, or_false] at known
  rcases known with rfl | rfl | rfl | rfl | rfl | rfl | rfl
  · obtain ⟨d, rfl⟩ := List.length_eq_one_iff.mp paired
    exact given (.digest d) rfl rfl
  · obtain ⟨rd, rfl⟩ := List.length_eq_one_iff.mp paired
    exact given (.root rd) rfl rfl
  · obtain ⟨s, d, rfl⟩ := List.length_eq_two.mp paired
    exact given (.source s d) rfl rfl
  · obtain ⟨i, s, d, rfl⟩ := List.length_eq_three.mp paired
    exact given (.event i s d) rfl rfl
  · obtain ⟨i, rfl⟩ := List.length_eq_one_iff.mp paired
    exact given (.last i) rfl rfl
  · obtain ⟨bi, d, rfl⟩ := List.length_eq_two.mp paired
    exact given (.back bi d) rfl rfl
  · obtain ⟨t, d, rfl⟩ := List.length_eq_two.mp paired
    exact given (.kind t d) rfl rfl

section Dispatch

variable {α : Type}

theorem dispatch_took (missing : String) (readers : List (String × Scan α)) (sc sc' : Scanner) (value : α)
    (read : dispatch missing readers sc = .ok (value, sc')) :
    ∃ both ∈ readers, ∃ middle, Took sc (asBytes both.1) middle ∧ both.2 middle = .ok (value, sc') := by
  induction readers with
  | nil =>
      obtain ⟨_, _, _, refused⟩ := (scan_bind_ok _ _ _ _ _).mp read
      cases refused
  | cons both others ih =>
      obtain ⟨taken, middle, lit, later⟩ := (scan_bind_ok _ _ _ _ _).mp read
      cases taken with
      | true => exact ⟨both, List.mem_cons_self, middle, take_lit_true _ _ _ lit, later⟩
      | false =>
          rw [(take_lit_false _ _ _ lit).1] at later
          obtain ⟨found, inside, rest⟩ := ih later
          exact ⟨found, List.mem_cons_of_mem _ inside, rest⟩

-- No literal of the table begins another one.
def Apart (readers : List (String × Scan α)) : Prop :=
  readers.Pairwise fun first second => ¬ asBytes first.1 <+: asBytes second.1 ∧ ¬ asBytes second.1 <+: asBytes first.1

theorem dispatch_gives (missing : String) (readers : List (String × Scan α)) (apart : Apart readers) (both : String × Scan α)
    (inside : both ∈ readers) (value : α) (text : Bytes) (depth after : Nat)
    (balanced : nesting (asBytes both.1) depth = some depth) (inner : Gives both.2 value text depth after) :
    Gives (dispatch missing readers) value (asBytes both.1 ++ text) depth after := by
  induction readers with
  | nil => cases inside
  | cons first others ih =>
      obtain ⟨alone, apart⟩ := List.pairwise_cons.mp apart
      intro sc rest fits found deep
      rcases List.mem_cons.mp inside with same | inside
      · rw [same] at balanced found inner ⊢
        rw [List.append_assoc] at found
        rw [← deep] at balanced
        obtain ⟨middle, taken, _, arrives⟩ := expect_arrives first.1 sc _ _ fits found balanced
        obtain ⟨sc', read, arrives'⟩ := inner middle rest arrives.fits (took_left _ _ _ _ arrives.took found) (by rw [arrives.depth, deep])
        refine ⟨sc', ?_, arrives_append _ _ _ _ _ _ _ arrives arrives'⟩
        rw [dispatch, scan_bind_run _ _ _ _ _ taken]
        exact read
      · obtain ⟨sc', read, arrives⟩ := ih apart inside sc rest fits found deep
        have absent : ¬ asBytes first.1 <+: sc.left := by
          intro here
          have there : asBytes both.1 <+: sc.left := by
            rw [found, List.append_assoc]
            exact List.prefix_append _ _
          rcases List.prefix_or_prefix_of_prefix here there with one | other
          · exact (alone both inside).1 one
          · exact (alone both inside).2 other
        refine ⟨sc', ?_, arrives⟩
        rw [dispatch, scan_bind_run _ _ _ _ _ (take_lit_absent first.1 sc absent)]
        exact read

end Dispatch

section Codex

def Unescaped (parsed : ParsedSeal) : Prop := ∀ value ∈ parsed.values, ∀ byte ∈ asBytes value, Plain byte

theorem codex_apart : Apart ParsedSeal.codexKeys := by
  unfold Apart ParsedSeal.codexKeys
  simp only [List.pairwise_cons, List.mem_cons, List.not_mem_nil, or_false, forall_eq_or_imp, forall_eq, List.Pairwise.nil, and_true,
    false_implies, implies_true]
  decide

theorem closing_gives (parsed : ParsedSeal) (depth : Nat) :
    Gives (do expect "\x7d"; pure parsed) parsed (asBytes "\x7d") (depth + 1) depth := by
  have closed := gives_bind (expect "\x7d") (fun _ => pure parsed) () parsed (asBytes "\x7d") [] (depth + 1) depth depth
    (gives_expect "\x7d" (depth + 1) depth rfl) (gives_pure parsed depth)
  rw [List.append_nil] at closed
  exact closed

theorem closing_took (parsed value : ParsedSeal) (sc sc' : Scanner)
    (read : (do expect "\x7d"; pure parsed : Scan ParsedSeal) sc = .ok (value, sc')) : value = parsed ∧ Took sc (asBytes "\x7d") sc' := by
  obtain ⟨_, middle, closing, last⟩ := (scan_bind_ok _ _ _ _ _).mp read
  obtain ⟨same, still⟩ := (scan_pure_ok _ _ _ _).mp last
  rw [← still]
  exact ⟨same.symm, expect_took _ _ _ _ closing⟩

theorem text_one (key value : String) :
    objectText (stringMembers [key] [value]) = 0x7B :: (quoted (asBytes key) ++ 0x3A :: quoted (asBytes value) ++ [0x7D]) := by
  simp [stringMembers, objectText, membersText, memberText]

theorem text_two (key key' value value' : String) :
    objectText (stringMembers [key, key'] [value, value']) =
      0x7B :: (quoted (asBytes key) ++ 0x3A :: quoted (asBytes value) ++
        0x2C :: (quoted (asBytes key') ++ 0x3A :: quoted (asBytes value') ++ [0x7D])) := by
  simp [stringMembers, objectText, membersText, memberText]

theorem text_three (key key' last value value' final : String) :
    objectText (stringMembers [key, key', last] [value, value', final]) =
      0x7B :: (quoted (asBytes key) ++ 0x3A :: quoted (asBytes value) ++
        0x2C :: (quoted (asBytes key') ++ 0x3A :: quoted (asBytes value') ++
          0x2C :: (quoted (asBytes last) ++ 0x3A :: quoted (asBytes final) ++ [0x7D]))) := by
  simp [stringMembers, objectText, membersText, memberText]

theorem codex_literals :
    asBytes "\x7b" = [0x7B] ∧ asBytes "\x7d" = [0x7D] ∧ asBytes "\"d\":" = quoted (asBytes "d") ++ [0x3A] ∧
      asBytes "\"rd\":" = quoted (asBytes "rd") ++ [0x3A] ∧ asBytes "\"s\":" = quoted (asBytes "s") ++ [0x3A] ∧
      asBytes "\"i\":" = quoted (asBytes "i") ++ [0x3A] ∧ asBytes "\"bi\":" = quoted (asBytes "bi") ++ [0x3A] ∧
      asBytes "\"t\":" = quoted (asBytes "t") ++ [0x3A] ∧ asBytes ",\"s\":" = 0x2C :: (quoted (asBytes "s") ++ [0x3A]) ∧
      asBytes ",\"d\":" = 0x2C :: (quoted (asBytes "d") ++ [0x3A]) := by
  decide

def identifierRest (i : String) : Scan ParsedSeal := do
  if ← takeLit "\x7d" then pure (.last i) else ParsedSeal.eventBody i

theorem last_gives (i : String) (depth : Nat) : Gives (identifierRest i) (.last i) (asBytes "\x7d") (depth + 1) depth := by
  intro sc rest fits found deep
  obtain ⟨sc', taken, _, arrives⟩ := expect_arrives "\x7d" sc rest depth fits found (by rw [deep]; rfl)
  refine ⟨sc', ?_, arrives⟩
  rw [identifierRest, scan_bind_run _ _ _ _ _ taken]
  rfl

theorem event_gives (i : String) (parsed : ParsedSeal) (text : Bytes) (before after : Nat) (comma : text.head? = some 0x2C)
    (inner : Gives (ParsedSeal.eventBody i) parsed text before after) : Gives (identifierRest i) parsed text before after := by
  intro sc rest fits found deep
  obtain ⟨sc', read, arrives⟩ := inner sc rest fits found deep
  have absent : ¬ asBytes "\x7d" <+: sc.left := by
    intro here
    obtain ⟨behind, same⟩ := here
    rw [found] at same
    cases text with
    | nil => cases comma
    | cons first others =>
        have first' : (0x7D : UInt8) = first := (List.cons.inj same).1
        rw [← first'] at comma
        cases comma
  refine ⟨sc', ?_, arrives⟩
  rw [identifierRest, scan_bind_run _ _ _ _ _ (take_lit_absent "\x7d" sc absent)]
  exact read

theorem codex_gives (parsed : ParsedSeal) (typed : parsed.keys ∈ sealShapes) (plain : Unescaped parsed) (depth : Nat) :
    Gives ParsedSeal.codex parsed parsed.text depth depth := by
  obtain ⟨opens, closes, d, rd, s, i, bi, t, s', d'⟩ := codex_literals
  have string : ∀ value ∈ parsed.values, Gives stringValue value (quoted (asBytes value)) (depth + 1) (depth + 1) :=
    fun value inside => gives_string_value value _ (plain value inside)
  have behind : ∀ lit, ∀ value ∈ parsed.values, nesting (asBytes lit) (depth + 1) = some (depth + 1) →
      Gives (field lit stringValue) value (asBytes lit ++ quoted (asBytes value)) (depth + 1) (depth + 1) :=
    fun lit value inside balanced => gives_field lit _ _ _ _ balanced (string value inside)
  have opened : ∀ (lit : String) (body : Scan ParsedSeal) (text : Bytes), (lit, body) ∈ ParsedSeal.codexKeys →
      nesting (asBytes lit) (depth + 1) = some (depth + 1) → Gives body parsed text (depth + 1) depth →
        Gives ParsedSeal.codex parsed (asBytes "\x7b" ++ (asBytes lit ++ text)) depth depth := by
    intro lit body text listed balanced given
    exact gives_bind _ _ _ _ _ _ _ _ _ (gives_expect "\x7b" depth (depth + 1) rfl)
      (dispatch_gives _ _ codex_apart (lit, body) listed _ _ _ _ balanced given)
  cases parsed with
  | digest value =>
      have body := gives_bind stringValue (fun d => do expect "\x7d"; pure (ParsedSeal.digest d)) _ _ _ _ _ _ _
        (string value (by simp [ParsedSeal.values])) (closing_gives (.digest value) depth)
      have whole := opened "\"d\":" ParsedSeal.digestBody _ (by simp [ParsedSeal.codexKeys]) rfl body
      rw [opens, closes, d] at whole
      simpa [ParsedSeal.text, ParsedSeal.keys, ParsedSeal.values, text_one] using whole
  | root value =>
      have body := gives_bind stringValue (fun rd => do expect "\x7d"; pure (ParsedSeal.root rd)) _ _ _ _ _ _ _
        (string value (by simp [ParsedSeal.values])) (closing_gives (.root value) depth)
      have whole := opened "\"rd\":" ParsedSeal.rootBody _ (by simp [ParsedSeal.codexKeys]) rfl body
      rw [opens, closes, rd] at whole
      simpa [ParsedSeal.text, ParsedSeal.keys, ParsedSeal.values, text_one] using whole
  | source value final =>
      have body := gives_bind stringValue (fun s => do let d ← field ",\"d\":" stringValue; expect "\x7d"; pure (ParsedSeal.source s d))
        _ _ _ _ _ _ _ (string value (by simp [ParsedSeal.values])) (gives_bind _ _ _ _ _ _ _ _ _
          (behind ",\"d\":" final (by simp [ParsedSeal.values]) rfl) (closing_gives (.source value final) depth))
      have whole := opened "\"s\":" ParsedSeal.sourceBody _ (by simp [ParsedSeal.codexKeys]) rfl body
      rw [opens, closes, s, d'] at whole
      simpa [ParsedSeal.text, ParsedSeal.keys, ParsedSeal.values, text_two] using whole
  | event first value final =>
      have later := event_gives first (.event first value final) _ (depth + 1) depth (by rw [s']; rfl) (gives_bind _ (fun s => do
          let d ← field ",\"d\":" stringValue; expect "\x7d"; pure (ParsedSeal.event first s d)) _ _ _ _ _ _ _
        (behind ",\"s\":" value (by simp [ParsedSeal.values]) rfl) (gives_bind _ _ _ _ _ _ _ _ _
          (behind ",\"d\":" final (by simp [ParsedSeal.values]) rfl) (closing_gives (.event first value final) depth)))
      have body := gives_bind stringValue identifierRest _ _ _ _ _ _ _ (string first (by simp [ParsedSeal.values])) later
      have whole := opened "\"i\":" ParsedSeal.identifierBody _ (by simp [ParsedSeal.codexKeys]) rfl body
      rw [opens, closes, i, s', d'] at whole
      simpa [ParsedSeal.text, ParsedSeal.keys, ParsedSeal.values, text_three] using whole
  | last value =>
      have body := gives_bind stringValue identifierRest _ _ _ _ _ _ _ (string value (by simp [ParsedSeal.values])) (last_gives value depth)
      have whole := opened "\"i\":" ParsedSeal.identifierBody _ (by simp [ParsedSeal.codexKeys]) rfl body
      rw [opens, closes, i] at whole
      simpa [ParsedSeal.text, ParsedSeal.keys, ParsedSeal.values, text_one] using whole
  | back value final =>
      have body := gives_bind stringValue (fun bi => do let d ← field ",\"d\":" stringValue; expect "\x7d"; pure (ParsedSeal.back bi d))
        _ _ _ _ _ _ _ (string value (by simp [ParsedSeal.values])) (gives_bind _ _ _ _ _ _ _ _ _
          (behind ",\"d\":" final (by simp [ParsedSeal.values]) rfl) (closing_gives (.back value final) depth))
      have whole := opened "\"bi\":" ParsedSeal.backBody _ (by simp [ParsedSeal.codexKeys]) rfl body
      rw [opens, closes, bi, d'] at whole
      simpa [ParsedSeal.text, ParsedSeal.keys, ParsedSeal.values, text_two] using whole
  | kind value final =>
      have body := gives_bind stringValue (fun t => do let d ← field ",\"d\":" stringValue; expect "\x7d"; pure (ParsedSeal.kind t d))
        _ _ _ _ _ _ _ (string value (by simp [ParsedSeal.values])) (gives_bind _ _ _ _ _ _ _ _ _
          (behind ",\"d\":" final (by simp [ParsedSeal.values]) rfl) (closing_gives (.kind value final) depth))
      have whole := opened "\"t\":" ParsedSeal.kindBody _ (by simp [ParsedSeal.codexKeys]) rfl body
      rw [opens, closes, t, d'] at whole
      simpa [ParsedSeal.text, ParsedSeal.keys, ParsedSeal.values, text_two] using whole
  | opaqueSeal raw => simp [ParsedSeal.keys, sealShapes] at typed

-- What the reader of the typed seals takes, in one direction and the other.
structure CodexRead (sc : Scanner) (parsed : ParsedSeal) (sc' : Scanner) : Prop where
  took : Took sc parsed.text sc'
  typed : parsed.keys ∈ sealShapes
  plain : Unescaped parsed

theorem codex_took (sc sc' : Scanner) (parsed : ParsedSeal) (read : ParsedSeal.codex sc = .ok (parsed, sc')) : CodexRead sc parsed sc' := by
  obtain ⟨opens, closes, d, rd, s, i, bi, t, s', d'⟩ := codex_literals
  obtain ⟨_, at1, opening, read⟩ := (scan_bind_ok _ _ _ _ _).mp read
  obtain ⟨both, inside, at2, took2, read⟩ := dispatch_took _ _ _ _ _ read
  have front := took_append _ _ _ _ _ (expect_took _ _ _ _ opening) took2
  have whole : ∀ text, Took at2 text sc' → asBytes "\x7b" ++ asBytes both.1 ++ text = parsed.text → Took sc parsed.text sc' := by
    intro text took same
    rw [← same]
    exact took_append _ _ _ _ _ front took
  have one : ∀ make : String → ParsedSeal, (do let value ← stringValue; expect "\x7d"; pure (make value) : Scan ParsedSeal) at2 = .ok (parsed, sc') →
      ∃ value, parsed = make value ∧ Took at2 (quoted (asBytes value) ++ asBytes "\x7d") sc' ∧ ∀ byte ∈ asBytes value, Plain byte := by
    intro make read
    obtain ⟨value, at3, string, read⟩ := (scan_bind_ok _ _ _ _ _).mp read
    obtain ⟨same, took4⟩ := closing_took _ _ _ _ read
    obtain ⟨took3, plain⟩ := string_value_took _ _ _ string
    exact ⟨value, same, took_append _ _ _ _ _ took3 took4, plain⟩
  have two : ∀ make : String → String → ParsedSeal,
      (do let value ← stringValue; let d ← field ",\"d\":" stringValue; expect "\x7d"; pure (make value d) : Scan ParsedSeal) at2 =
        .ok (parsed, sc') → ∃ value d, parsed = make value d ∧
          Took at2 (quoted (asBytes value) ++ (asBytes ",\"d\":" ++ quoted (asBytes d)) ++ asBytes "\x7d") sc' ∧
          (∀ byte ∈ asBytes value, Plain byte) ∧ ∀ byte ∈ asBytes d, Plain byte := by
    intro make read
    obtain ⟨value, at3, string, read⟩ := (scan_bind_ok _ _ _ _ _).mp read
    obtain ⟨d, at4, string', read⟩ := (scan_bind_ok _ _ _ _ _).mp read
    obtain ⟨same, took5⟩ := closing_took _ _ _ _ read
    obtain ⟨took3, plain⟩ := string_value_took _ _ _ string
    obtain ⟨took4, plain'⟩ := string_field_took _ _ _ _ string'
    exact ⟨value, d, same, took_append _ _ _ _ _ (took_append _ _ _ _ _ took3 took4) took5, plain, plain'⟩
  simp only [ParsedSeal.codexKeys, List.mem_cons, List.not_mem_nil, or_false] at inside
  rcases inside with rfl | rfl | rfl | rfl | rfl | rfl
  · obtain ⟨value, rfl, took, plain⟩ := one .digest read
    refine ⟨whole _ took ?_, by simp [ParsedSeal.keys, sealShapes], by simpa [Unescaped, ParsedSeal.values] using plain⟩
    simp [opens, closes, d, ParsedSeal.text, ParsedSeal.keys, ParsedSeal.values, text_one]
  · obtain ⟨value, rfl, took, plain⟩ := one .root read
    refine ⟨whole _ took ?_, by simp [ParsedSeal.keys, sealShapes], by simpa [Unescaped, ParsedSeal.values] using plain⟩
    simp [opens, closes, rd, ParsedSeal.text, ParsedSeal.keys, ParsedSeal.values, text_one]
  · obtain ⟨value, final, rfl, took, plain⟩ := two .source read
    refine ⟨whole _ took ?_, by simp [ParsedSeal.keys, sealShapes], by simpa [Unescaped, ParsedSeal.values] using plain⟩
    simp [opens, closes, s, d', ParsedSeal.text, ParsedSeal.keys, ParsedSeal.values, text_two]
  · obtain ⟨first, at3, string, read⟩ := (scan_bind_ok _ _ _ _ _).mp read
    obtain ⟨taken, at4, lit, read⟩ := (scan_bind_ok _ _ _ _ _).mp read
    obtain ⟨took3, plain⟩ := string_value_took _ _ _ string
    cases taken with
    | true =>
        obtain ⟨same, still⟩ := (scan_pure_ok _ _ _ _).mp read
        rw [← same, ← still] at whole ⊢
        refine ⟨whole _ (took_append _ _ _ _ _ took3 (take_lit_true _ _ _ lit)) ?_, by simp [ParsedSeal.keys, sealShapes], by simpa [Unescaped, ParsedSeal.values] using plain⟩
        simp [opens, closes, i, ParsedSeal.text, ParsedSeal.keys, ParsedSeal.values, text_one]
    | false =>
        rw [(take_lit_false _ _ _ lit).1] at read
        obtain ⟨value, at5, string', read⟩ := (scan_bind_ok _ _ _ _ _).mp read
        obtain ⟨final, at6, string'', read⟩ := (scan_bind_ok _ _ _ _ _).mp read
        obtain ⟨rfl, took7⟩ := closing_took _ _ _ _ read
        obtain ⟨took5, plain'⟩ := string_field_took _ _ _ _ string'
        obtain ⟨took6, plain''⟩ := string_field_took _ _ _ _ string''
        refine ⟨whole _ (took_append _ _ _ _ _ (took_append _ _ _ _ _ (took_append _ _ _ _ _ took3 took5) took6) took7) ?_, by simp [ParsedSeal.keys, sealShapes], ?_⟩
        · simp [opens, closes, i, s', d', ParsedSeal.text, ParsedSeal.keys, ParsedSeal.values, text_three]
        · simpa [Unescaped, ParsedSeal.values] using ⟨plain, plain', plain''⟩
  · obtain ⟨value, final, rfl, took, plain⟩ := two .back read
    refine ⟨whole _ took ?_, by simp [ParsedSeal.keys, sealShapes], by simpa [Unescaped, ParsedSeal.values] using plain⟩
    simp [opens, closes, bi, d', ParsedSeal.text, ParsedSeal.keys, ParsedSeal.values, text_two]
  · obtain ⟨value, final, rfl, took, plain⟩ := two .kind read
    refine ⟨whole _ took ?_, by simp [ParsedSeal.keys, sealShapes], by simpa [Unescaped, ParsedSeal.values] using plain⟩
    simp [opens, closes, t, d', ParsedSeal.text, ParsedSeal.keys, ParsedSeal.values, text_two]

end Codex

end Cesr.Codec
