import Cesr.Codec.Blocks
import Cesr.Codec.BudgetExact
import Cesr.Codec.NestedSaid
import Cesr.Codec.Routed

set_option autoImplicit false

namespace Cesr.Codec

open Checks Calls WriterJson Scanner

section Given

variable {α β : Type}

-- A part that reads the value off this text, whatever follows it.
def Gives (part : Scan α) (value : α) (text : Bytes) (before after : Nat) : Prop :=
  ∀ sc rest, Fits sc → sc.left = text ++ rest → sc.budget.depth = before → ∃ sc', part sc = .ok (value, sc') ∧ Arrives sc text after sc'

theorem gives_pure (value : α) (depth : Nat) : Gives (pure value) value [] depth depth :=
  fun sc _ fits _ deep => ⟨sc, rfl, took_nil sc, fits, deep⟩

theorem gives_bind (first : Scan α) (next : α → Scan β) (value : α) (result : β) (text more : Bytes) (before middle after : Nat)
    (left : Gives first value text before middle) (right : Gives (next value) result more middle after) :
    Gives (first >>= next) result (text ++ more) before after := by
  intro sc rest fits found deep
  rw [List.append_assoc] at found
  obtain ⟨at', read, arrives⟩ := left sc _ fits found deep
  obtain ⟨sc', read', arrives'⟩ := right at' rest arrives.fits (took_left _ _ _ _ arrives.took found) arrives.depth
  exact ⟨sc', by rw [scan_bind_run _ _ _ _ _ read, read'], arrives_append _ _ _ _ _ _ _ arrives arrives'⟩

theorem gives_expect (lit : String) (before after : Nat) (balanced : nesting (asBytes lit) before = some after) :
    Gives (expect lit) () (asBytes lit) before after := by
  intro sc rest fits found deep
  rw [← deep] at balanced
  obtain ⟨sc', _, read, arrives⟩ := expect_arrives lit sc rest after fits found balanced
  exact ⟨sc', read, arrives⟩

theorem gives_field (lit : String) (item : Scan α) (value : α) (text : Bytes) (depth : Nat)
    (balanced : nesting (asBytes lit) depth = some depth) (inner : Gives item value text depth depth) :
    Gives (field lit item) value (asBytes lit ++ text) depth depth :=
  gives_bind _ _ _ _ _ _ _ _ _ (gives_expect lit depth depth balanced) inner

theorem gives_string_value (text : String) (depth : Nat) (plain : ∀ byte ∈ asBytes text, Plain byte) :
    Gives stringValue text (quoted (asBytes text)) depth depth := by
  intro sc rest fits found deep
  obtain ⟨sc', read, arrives⟩ := string_arrives text sc rest fits found plain
  exact ⟨sc', by rw [stringValue, scan_bind_run _ _ _ _ _ read]; rfl, arrives.took, arrives.fits, arrives.depth.trans deep⟩

theorem gives_object_span (text : Bytes) (depth : Nat) (spelled : Spells Utf8 .value text) (brace : text.head? = some 0x7B) :
    Gives objectValueSpan text text depth depth := by
  intro sc rest fits found deep
  obtain ⟨sc', read, arrives⟩ := object_value_reads sc text rest spelled brace found fits
  have opened : sc.peek = some 0x7B := by
    rw [peek_left, found]
    cases text with
    | nil => cases brace
    | cons first behind => exact brace
  refine ⟨sc', ?_, arrives.took, arrives.fits, arrives.depth.trans deep⟩
  rw [objectValueSpan, scan_get_run, if_pos opened, valueSpan, scan_get_run, scan_bind_run _ _ _ _ _ read, scan_get_run]
  have sliced : sc'.slice sc.pos sc'.pos = text := by
    rw [slice, arrives.took.input]
    exact slice_took _ _ _ arrives.took
  rw [sliced]
  rfl

end Given

section Taken

theorem string_value_took (sc sc' : Scanner) (text : String) (read : stringValue sc = .ok (text, sc')) :
    Took sc (quoted (asBytes text)) sc' ∧ ∀ byte ∈ asBytes text, Plain byte := by
  obtain ⟨spanned, at', read, last⟩ := (scan_bind_ok _ _ _ _ _).mp read
  obtain ⟨same, same'⟩ := (scan_pure_ok _ _ _ _).mp last
  obtain ⟨took, plain, _⟩ := string_took _ _ _ read
  rw [← same, ← same']
  exact ⟨took, plain⟩

theorem string_field_took (lit : String) (sc sc' : Scanner) (text : String) (read : field lit stringValue sc = .ok (text, sc')) :
    Took sc (asBytes lit ++ quoted (asBytes text)) sc' ∧ ∀ byte ∈ asBytes text, Plain byte := by
  obtain ⟨_, at', opening, read⟩ := (scan_bind_ok _ _ _ _ _).mp read
  obtain ⟨took, plain⟩ := string_value_took _ _ _ read
  exact ⟨took_append _ _ _ _ _ (expect_took _ _ _ _ opening) took, plain⟩

theorem object_span_took (sc sc' : Scanner) (span : Bytes) (read : objectValueSpan sc = .ok (span, sc')) : Took sc span sc' := by
  rw [objectValueSpan, scan_get_run] at read
  by_cases brace : sc.peek = some 0x7B
  · rw [if_pos brace, valueSpan, scan_get_run, scan_bind_ok] at read
    obtain ⟨_, at', walked, read⟩ := read
    obtain ⟨text, took, _⟩ := canonical_value_took _ _ _ walked
    rw [scan_get_run] at read
    obtain ⟨same, same'⟩ := (scan_pure_ok _ _ _ _).mp read
    have sliced : at'.slice sc.pos at'.pos = text := by
      rw [slice, took.input]
      exact slice_took _ _ _ took
    rw [← same, ← same', sliced]
    exact took
  · rw [if_neg brace] at read
    cases read

end Taken

structure RoutedFields where
  datetime : String
  route : String
  replyRoute : Option String
  payload : String
deriving DecidableEq, Repr

namespace RoutedFields

def kind (fields : RoutedFields) : MessageType := if fields.replyRoute.isSome then .qry else .rpy

def tail (fields : RoutedFields) : List Member :=
  match fields.replyRoute with
  | none => [(asBytes "a", asBytes fields.payload)]
  | some replyRoute => [(asBytes "rr", quoted (asBytes replyRoute)), (asBytes "q", asBytes fields.payload)]

def members (fields : RoutedFields) (version said : Bytes) : List Member :=
  (asBytes "v", quoted version) :: (asBytes "t", quoted (asBytes fields.kind.code)) :: (asBytes "d", quoted said) ::
    (asBytes "dt", quoted (asBytes fields.datetime)) :: (asBytes "r", quoted (asBytes fields.route)) :: fields.tail

def parsed (fields : RoutedFields) (said : String) : ParsedRouted :=
  ⟨fields.kind, said, fields.datetime, fields.route, fields.replyRoute, asBytes fields.payload⟩

def tailText (fields : RoutedFields) : Bytes :=
  match fields.replyRoute with
  | none => asBytes ",\"a\":" ++ asBytes fields.payload
  | some replyRoute => asBytes ",\"rr\":" ++ quoted (asBytes replyRoute) ++ (asBytes ",\"q\":" ++ asBytes fields.payload)

theorem members_text (fields : RoutedFields) (version said : Bytes) :
    objectText (fields.members version said) =
      asBytes "\x7b\"v\":" ++ quoted version ++ (asBytes ",\"t\":" ++ quoted (asBytes fields.kind.code)) ++
        (asBytes ",\"d\":" ++ quoted said) ++ (asBytes ",\"dt\":" ++ quoted (asBytes fields.datetime)) ++
          (asBytes ",\"r\":" ++ quoted (asBytes fields.route)) ++ fields.tailText ++ asBytes "\x7d" := by
  have v : asBytes "\x7b\"v\":" = 0x7B :: (quoted (asBytes "v") ++ [0x3A]) := rfl
  have t : asBytes ",\"t\":" = 0x2C :: (quoted (asBytes "t") ++ [0x3A]) := rfl
  have d : asBytes ",\"d\":" = 0x2C :: (quoted (asBytes "d") ++ [0x3A]) := rfl
  have dt : asBytes ",\"dt\":" = 0x2C :: (quoted (asBytes "dt") ++ [0x3A]) := rfl
  have r : asBytes ",\"r\":" = 0x2C :: (quoted (asBytes "r") ++ [0x3A]) := rfl
  have a : asBytes ",\"a\":" = 0x2C :: (quoted (asBytes "a") ++ [0x3A]) := rfl
  have rr : asBytes ",\"rr\":" = 0x2C :: (quoted (asBytes "rr") ++ [0x3A]) := rfl
  have q : asBytes ",\"q\":" = 0x2C :: (quoted (asBytes "q") ++ [0x3A]) := rfl
  have closing : asBytes "\x7d" = [0x7D] := rfl
  rw [v, t, d, dt, r, closing, objectText, members, tail, tailText]
  cases fields.replyRoute with
  | none =>
      simp only []
      rw [a]
      simp only [membersText, memberText, List.append_assoc, List.cons_append, List.nil_append]
  | some replyRoute =>
      simp only []
      rw [rr, q]
      simp only [membersText, memberText, List.append_assoc, List.cons_append, List.nil_append]

structure Spelled (fields : RoutedFields) : Prop where
  datetime : ∀ byte ∈ asBytes fields.datetime, Plain byte
  route : ∀ byte ∈ asBytes fields.route, Plain byte
  replyRoute : ∀ replyRoute, fields.replyRoute = some replyRoute → ∀ byte ∈ asBytes replyRoute, Plain byte
  payload : Objects (asBytes fields.payload)

end RoutedFields

section Scan

theorem routed_kind_ok (tag : Spanned) (sc sc' : Scanner) (kind : MessageType) (read : routedKind tag sc = .ok (kind, sc')) :
    sc' = sc ∧ kind.code = tag.value ∧ (kind = .qry ∨ kind = .rpy) := by
  rw [routedKind, scan_get_run] at read
  by_cases query : tag.value = "qry"
  · rw [if_pos query, scan_pure_ok] at read
    rw [← read.1, ← read.2, query]
    exact ⟨rfl, rfl, .inl rfl⟩
  · rw [if_neg query] at read
    by_cases reply : tag.value = "rpy"
    · rw [if_pos reply, scan_pure_ok] at read
      rw [← read.1, ← read.2, reply]
      exact ⟨rfl, rfl, .inr rfl⟩
    · rw [if_neg reply] at read
      cases read

theorem head_text (sc sc' : Scanner) (tag : Spanned) (read : ParsedEvent.head sc = .ok (tag, sc')) :
    ∃ version, Plainly version ∧ Took sc (asBytes "\x7b\"v\":" ++ quoted version ++ (asBytes ",\"t\":" ++ quoted (asBytes tag.value))) sc' := by
  obtain ⟨_, at1, opening, read⟩ := (scan_bind_ok _ _ _ _ _).mp read
  obtain ⟨vs, at2, versioned, read⟩ := (scan_bind_ok _ _ _ _ _).mp read
  obtain ⟨_, at3, sized, read⟩ := (scan_bind_ok _ _ _ _ _).mp read
  obtain ⟨_, at4, behind, read⟩ := (scan_bind_ok _ _ _ _ _).mp read
  rw [version_string_run] at versioned
  cases passed : versionChecks .keri at1 with
  | error error =>
      rw [passed] at versioned
      cases versioned
  | ok found =>
      rw [passed] at versioned
      obtain ⟨size, shape⟩ := version_checks_text .keri at1 found passed
      have ascii := version_ascii _ _ shape
      have took := (took_moved at1 _ _ (List.take_append_drop versionStringLen at1.left).symm).1
      rw [size, (Prod.mk.inj (Except.ok.inj versioned)).2] at took
      have still : at3 = at2 := by
        rw [declaredSize, scan_get_run] at sized
        exact ((check_ok _ _ _ _).mp sized).2.symm
      rw [still] at behind
      have whole := took_append _ _ _ _ _ (took_append _ _ _ _ _ (took_append _ _ _ _ _ (expect_took _ _ _ _ opening) took)
        (expect_took _ _ _ _ behind)) (string_took _ _ _ read).1
      refine ⟨at1.left.take versionStringLen, ⟨asciiText _, (as_bytes_ascii_text _ fun byte inside => (ascii byte inside).2).symm,
        fun byte inside => (ascii byte inside).1⟩, ?_⟩
      have opens : asBytes "\x7b\"v\":\"" = asBytes "\x7b\"v\":" ++ [quote] := rfl
      have closes : asBytes "\",\"t\":" = quote :: asBytes ",\"t\":" := rfl
      rw [opens, closes] at whole
      simp only [quoted, List.append_assoc, List.cons_append, List.nil_append] at whole ⊢
      exact whole

theorem reply_route_took (kind : MessageType) (known : kind = .qry ∨ kind = .rpy) (sc middle sc' : Scanner) (fields : RoutedFields)
    (read : replyRouteField kind sc = .ok (fields.replyRoute, middle))
    (read' : payloadField kind middle = .ok (asBytes fields.payload, sc')) :
    Took sc fields.tailText sc' ∧ kind = fields.kind ∧
      (∀ replyRoute, fields.replyRoute = some replyRoute → ∀ byte ∈ asBytes replyRoute, Plain byte) ∧ Objects (asBytes fields.payload) := by
  have whole : ∀ lit, field lit objectValueSpan middle = .ok (asBytes fields.payload, sc') →
      Took middle (asBytes lit ++ asBytes fields.payload) sc' ∧ Objects (asBytes fields.payload) := by
    intro lit taken
    obtain ⟨_, at', opening, spanned⟩ := (scan_bind_ok _ _ _ _ _).mp taken
    exact ⟨took_append _ _ _ _ _ (expect_took _ _ _ _ opening) (object_span_took _ _ _ spanned), object_span_returns _ _ _ spanned⟩
  rcases known with query | reply
  · rw [replyRouteField, if_pos query] at read
    rw [payloadField, if_pos query] at read'
    obtain ⟨replyRoute, at', read, last⟩ := (scan_bind_ok _ _ _ _ _).mp read
    obtain ⟨named, still⟩ := (scan_pure_ok _ _ _ _).mp last
    obtain ⟨took, plain⟩ := string_field_took _ _ _ _ read
    obtain ⟨took', object⟩ := whole _ read'
    rw [still] at took
    rw [RoutedFields.tailText, RoutedFields.kind, ← named]
    refine ⟨took_append _ _ _ _ _ took took', query, ?_, object⟩
    intro other same
    rw [← Option.some.inj same]
    exact plain
  · have other : ¬ kind = .qry := by
      rw [reply]
      decide
    rw [replyRouteField, if_neg other] at read
    rw [payloadField, if_neg other] at read'
    obtain ⟨named, still⟩ := (scan_pure_ok _ _ _ _).mp read
    obtain ⟨took', object⟩ := whole _ read'
    rw [RoutedFields.tailText, RoutedFields.kind, ← named, still]
    refine ⟨took', reply, ?_, object⟩
    intro replyRoute same
    cases same

theorem routed_took (raw : Bytes) (budget : JsonBudget) (parsed : ParsedRouted) (done : Scanner) (payload : String)
    (read : ParsedRouted.scan (withBudget raw budget) = .ok (parsed, done)) (text : parsed.payload = asBytes payload) :
    ∃ fields version, RoutedFields.Spelled fields ∧ parsed = fields.parsed parsed.said ∧ Plainly version ∧
      Plainly (asBytes parsed.said) ∧ raw = objectText (fields.members version (asBytes parsed.said)) := by
  obtain ⟨tag, at1, headed, read⟩ := (scan_bind_ok _ _ _ _ _).mp read
  obtain ⟨kind, at2, kinded, read⟩ := (scan_bind_ok _ _ _ _ _).mp read
  obtain ⟨said, at3, read3, read⟩ := (scan_bind_ok _ _ _ _ _).mp read
  obtain ⟨datetime, at4, read4, read⟩ := (scan_bind_ok _ _ _ _ _).mp read
  obtain ⟨route, at5, read5, read⟩ := (scan_bind_ok _ _ _ _ _).mp read
  obtain ⟨replyRoute, at6, read6, read⟩ := (scan_bind_ok _ _ _ _ _).mp read
  obtain ⟨span, at7, read7, read⟩ := (scan_bind_ok _ _ _ _ _).mp read
  obtain ⟨_, at8, closing, read⟩ := (scan_bind_ok _ _ _ _ _).mp read
  obtain ⟨_, at9, finished, read⟩ := (scan_bind_ok _ _ _ _ _).mp read
  obtain ⟨same, _⟩ := (scan_pure_ok _ _ _ _).mp read
  rw [← same] at text ⊢
  obtain ⟨still, coded, known⟩ := routed_kind_ok _ _ _ _ kinded
  obtain ⟨version, plain1, took1⟩ := head_text _ _ _ headed
  rw [still] at read3
  obtain ⟨took3, plain3⟩ := string_field_took _ _ _ _ read3
  obtain ⟨took4, plain4⟩ := string_field_took _ _ _ _ read4
  obtain ⟨took5, plain5⟩ := string_field_took _ _ _ _ read5
  have spelled : span = asBytes payload := text
  rw [spelled] at read7 ⊢
  obtain ⟨took7, named, plain, object⟩ := reply_route_took kind known at5 at6 at7 ⟨datetime, route, replyRoute, payload⟩ read6 read7
  refine ⟨⟨datetime, route, replyRoute, payload⟩, version, ⟨plain4, plain5, plain, object⟩,
    by rw [RoutedFields.parsed, ← named], plain1, ⟨said, rfl, plain3⟩, ?_⟩
  have took := took_append _ _ _ _ _ (took_append _ _ _ _ _ (took_append _ _ _ _ _ (took_append _ _ _ _ _ (took_append _ _ _ _ _
    took1 took3) took4) took5) took7) (expect_took _ _ _ _ closing)
  have left := took.left
  rw [finish_left _ _ _ finished, List.append_nil, ← coded, named] at left
  rw [RoutedFields.members_text]
  exact left

structure Declares (proto : Protocol) (version : Bytes) (size : Nat) : Prop where
  parses : VersionString.parse version = .ok ⟨proto, 1, 0, .json, size⟩
  long : version.length = versionStringLen

theorem version_reads (proto : Protocol) (version rest : Bytes) (size : Nat) (sc : Scanner) (declares : Declares proto version size)
    (found : sc.left = version ++ rest) :
    versionString proto sc = .ok (⟨proto, 1, 0, .json, size⟩, sc.moved (sc.pos + version.length)) := by
  have long : ¬ sc.left.length < versionStringLen := by
    rw [found, List.length_append, declares.long]
    omega
  have front : sc.left.take versionStringLen = version := by rw [found, ← declares.long, List.take_left]
  have passed : versionChecks proto sc = .ok ⟨proto, 1, 0, .json, size⟩ := by
    rw [versionChecks, if_neg long, front, declares.parses]
    simp only [bind_ok, map_error_ok, reject_if_ok, exists_done, pure_ok, not_not]
    exact ⟨_, rfl, rfl, ⟨rfl, rfl⟩, rfl, rfl⟩
  rw [version_string_run, passed, declares.long]
  rfl

theorem head_reads (version rest : Bytes) (code : String) (sc : Scanner) (plain : ∀ byte ∈ asBytes code, Plain byte) (fits : Fits sc)
    (declares : Declares .keri version sc.input.length) (top : sc.budget.depth = 0)
    (found : sc.left = asBytes "\x7b\"v\":" ++ quoted version ++ (asBytes ",\"t\":" ++ quoted (asBytes code)) ++ rest) :
    ∃ tag sc', ParsedEvent.head sc = .ok (tag, sc') ∧ tag.value = code ∧
      Arrives sc (asBytes "\x7b\"v\":" ++ quoted version ++ (asBytes ",\"t\":" ++ quoted (asBytes code))) 1 sc' := by
  have opens : asBytes "\x7b\"v\":\"" = asBytes "\x7b\"v\":" ++ [quote] := rfl
  have closes : asBytes "\",\"t\":" = quote :: asBytes ",\"t\":" := rfl
  have split : asBytes "\x7b\"v\":" ++ quoted version ++ (asBytes ",\"t\":" ++ quoted (asBytes code)) =
      asBytes "\x7b\"v\":\"" ++ (version ++ (asBytes "\",\"t\":" ++ quoted (asBytes code))) := by
    rw [opens, closes]
    simp only [quoted, List.append_assoc, List.cons_append, List.nil_append]
  rw [split] at found ⊢
  simp only [List.append_assoc] at found
  obtain ⟨at1, _, read1, arrives1⟩ := expect_arrives "\x7b\"v\":\"" sc _ 1 fits found (by rw [top]; rfl)
  have found1 := took_left _ _ _ _ arrives1.took found
  have read2 := version_reads .keri version _ sc.input.length at1 declares found1
  have arrives2 := arrives_moved at1 _ _ arrives1.fits found1
  have found2 := took_left _ _ _ _ arrives2.took found1
  have read3 : declaredSize ⟨.keri, 1, 0, .json, sc.input.length⟩ (at1.moved (at1.pos + version.length)) =
      .ok ((), at1.moved (at1.pos + version.length)) := by
    have whole : sc.input.length = (at1.moved (at1.pos + version.length)).input.length := congrArg List.length arrives1.took.input.symm
    rw [declaredSize, scan_get_run]
    exact (check_ok _ _ _ _).mpr ⟨(reject_if_ok _ _ _).mpr fun other => other whole, rfl⟩
  obtain ⟨at3, _, read4, arrives4⟩ := expect_arrives "\",\"t\":" _ _ 1 arrives2.fits found2 (by rw [arrives2.depth, arrives1.depth]; rfl)
  have found4 := took_left _ _ _ _ arrives4.took found2
  obtain ⟨sc', read5, arrives5⟩ := string_arrives code at3 rest arrives4.fits found4 plain
  rw [arrives4.depth] at arrives5
  refine ⟨⟨code, at3.pos + 1, at3.pos + 1 + (asBytes code).length⟩, sc', ?_, rfl, arrives_append _ _ _ _ _ _ _ arrives1
    (arrives_append _ _ _ _ _ _ _ arrives2 (arrives_append _ _ _ _ _ _ _ arrives4 arrives5))⟩
  rw [ParsedEvent.head, scan_bind_run _ _ _ _ _ read1, scan_bind_run _ _ _ _ _ read2, scan_bind_run _ _ _ _ _ read3, field,
    scan_bind_run _ _ _ _ _ read4]
  exact read5

theorem gives_tail (fields : RoutedFields) (spelled : RoutedFields.Spelled fields) (sc : Scanner) (rest : Bytes) (fits : Fits sc)
    (found : sc.left = fields.tailText ++ rest) (deep : sc.budget.depth = 1) :
    ∃ middle sc', replyRouteField fields.kind sc = .ok (fields.replyRoute, middle) ∧
      payloadField fields.kind middle = .ok (asBytes fields.payload, sc') ∧ Arrives sc fields.tailText 1 sc' := by
  obtain ⟨members, object, spells⟩ := spelled.payload
  have brace : (asBytes fields.payload).head? = some 0x7B := by
    rw [object]
    rfl
  have value : Spells Utf8 .value (asBytes fields.payload) := by
    rw [object]
    exact object_spells Utf8 _ spells
  have span := gives_object_span (asBytes fields.payload) 1 value brace
  rw [RoutedFields.tailText] at found ⊢
  rw [RoutedFields.kind]
  cases named : fields.replyRoute with
  | none =>
      rw [named] at found
      obtain ⟨sc', read, arrives⟩ := gives_field ",\"a\":" _ _ _ 1 rfl span sc rest fits found deep
      exact ⟨sc, sc', rfl, read, arrives⟩
  | some replyRoute =>
      rw [named] at found
      simp only at found
      rw [List.append_assoc] at found
      have first := gives_field ",\"rr\":" _ _ _ 1 rfl (gives_string_value replyRoute 1 (spelled.replyRoute _ named))
      obtain ⟨middle, read, arrives⟩ := first sc _ fits found deep
      have later := took_left _ _ _ _ arrives.took found
      obtain ⟨sc', read', arrives'⟩ := gives_field ",\"q\":" _ _ _ 1 rfl span middle rest arrives.fits later arrives.depth
      refine ⟨middle, sc', ?_, read', arrives_append _ _ _ _ _ _ _ arrives arrives'⟩
      have asked : (if (some replyRoute).isSome = true then MessageType.qry else MessageType.rpy) = .qry := rfl
      rw [replyRouteField, if_pos asked, scan_bind_run _ _ _ _ _ read]
      rfl

theorem routed_kind_reads (fields : RoutedFields) (tag : Spanned) (sc : Scanner) (coded : tag.value = fields.kind.code) :
    routedKind tag sc = .ok (fields.kind, sc) := by
  rw [routedKind, scan_get_run, coded, RoutedFields.kind]
  cases fields.replyRoute with
  | none => rfl
  | some replyRoute => rfl

theorem routed_code_plain (fields : RoutedFields) : ∀ byte ∈ asBytes fields.kind.code, Plain byte := by
  rw [RoutedFields.kind]
  cases fields.replyRoute with
  | none =>
      have reply : ∀ byte ∈ asBytes MessageType.rpy.code, Plain byte := by decide +kernel
      exact reply
  | some replyRoute =>
      have query : ∀ byte ∈ asBytes MessageType.qry.code, Plain byte := by decide +kernel
      exact query

theorem routed_reads (fields : RoutedFields) (spelled : RoutedFields.Spelled fields) (version : Bytes) (said : String)
    (plain : ∀ byte ∈ asBytes said, Plain byte)
    (declares : Declares .keri version (objectText (fields.members version (asBytes said))).length) :
    ∃ done, ParsedRouted.scan (Scanner.new (objectText (fields.members version (asBytes said)))) = .ok (fields.parsed said, done) := by
  generalize whole : objectText (fields.members version (asBytes said)) = raw at declares
  have fits := fits_new raw
  have found : (Scanner.new raw).left = _ := whole.symm.trans (fields.members_text version (asBytes said))
  simp only [List.append_assoc] at found
  have front : ∀ tail : Bytes, asBytes "\x7b\"v\":" ++ (quoted version ++ (asBytes ",\"t\":" ++ (quoted (asBytes fields.kind.code) ++ tail))) =
      asBytes "\x7b\"v\":" ++ quoted version ++ (asBytes ",\"t\":" ++ quoted (asBytes fields.kind.code)) ++ tail := by
    intro tail
    simp only [List.append_assoc]
  rw [front] at found
  obtain ⟨tag, at1, read1, coded, arrives1⟩ := head_reads version _ fields.kind.code _ (routed_code_plain fields) fits declares rfl found
  have found1 := took_left _ _ _ _ arrives1.took found
  have string : ∀ lit text, nesting (asBytes lit) 1 = some 1 → (∀ byte ∈ asBytes text, Plain byte) → ∀ sc rest, Fits sc →
      sc.left = asBytes lit ++ (quoted (asBytes text) ++ rest) → sc.budget.depth = 1 →
        ∃ sc', field lit stringValue sc = .ok (text, sc') ∧ sc'.left = rest ∧ Arrives sc (asBytes lit ++ quoted (asBytes text)) 1 sc' := by
    intro lit text balanced allowed sc rest fits' found' deep
    rw [← List.append_assoc] at found'
    obtain ⟨sc', read, arrives⟩ := gives_field lit _ _ _ 1 balanced (gives_string_value text 1 allowed) sc rest fits' found' deep
    exact ⟨sc', read, took_left _ _ _ _ arrives.took found', arrives⟩
  obtain ⟨at2, read2, found2, arrives2⟩ := string ",\"d\":" said rfl plain at1 _ arrives1.fits found1 arrives1.depth
  obtain ⟨at3, read3, found3, arrives3⟩ :=
    string ",\"dt\":" fields.datetime rfl spelled.datetime at2 _ arrives2.fits found2 arrives2.depth
  obtain ⟨at4, read4, found4, arrives4⟩ := string ",\"r\":" fields.route rfl spelled.route at3 _ arrives3.fits found3 arrives3.depth
  obtain ⟨at5, at6, read5, read6, arrives6⟩ := gives_tail fields spelled at4 _ arrives4.fits found4 arrives4.depth
  have found6 := took_left _ _ _ _ arrives6.took found4
  obtain ⟨at7, _, read7, arrives7⟩ := expect_arrives "\x7d" at6 [] 0 arrives6.fits (by rw [found6, List.append_nil]) (by
    rw [arrives6.depth]
    rfl)
  have all := took_append _ _ _ _ _ (took_append _ _ _ _ _ (took_append _ _ _ _ _ (took_append _ _ _ _ _ (took_append _ _ _ _ _
    arrives1.took arrives2.took) arrives3.took) arrives4.took) arrives6.took) arrives7.took
  have ends : at7.pos = at7.input.length := by
    have left := congrArg List.length all.left
    rw [took_left at6 at7 (asBytes "\x7d") [] arrives7.took (by rw [found6, List.append_nil]), List.append_nil] at left
    rw [all.pos, all.input, ← left]
    exact Nat.zero_add _
  have finished : finish at7 = .ok ((), at7) := (finish_ok at7 at7 ()).mpr ⟨rfl, ends⟩
  refine ⟨at7, ?_⟩
  rw [ParsedRouted.scan, scan_bind_run _ _ _ _ _ read1, scan_bind_run _ _ _ _ _ (routed_kind_reads fields tag at1 coded),
    scan_bind_run _ _ _ _ _ read2, scan_bind_run _ _ _ _ _ read3, scan_bind_run _ _ _ _ _ read4, scan_bind_run _ _ _ _ _ read5,
    scan_bind_run _ _ _ _ _ read6, bodyEnd, scan_bind_run _ _ _ _ _ read7, scan_bind_run _ _ _ _ _ finished]
  rfl

end Scan

end Cesr.Codec
