import Cesr.Codec.Exn
import Cesr.Codec.MeterAnchor
import Cesr.Codec.SaidText

set_option autoImplicit false

namespace Cesr.Codec

open Checks WriterJson Scanner JsonTally JsonBudget

section Heads

def versionChecks (proto : Protocol) (sc : Scanner) : Except CodecError VersionString :=
  if sc.left.length < versionStringLen then refuse (sc.err "17-byte version string")
  else do
    let vs ← (VersionString.parse (sc.left.take versionStringLen)).mapError fun error => CodecError.version (.version error)
    rejectIf (vs.proto ≠ proto) (.version (.invalidVersionString ("expected " ++ proto.asStr ++ " protocol, got " ++ vs.proto.asStr)))
    rejectIf (¬(vs.major = 1 ∧ vs.minor = 0)) (.version (.unsupportedProtocolVersion vs.proto vs.major vs.minor))
    rejectIf (vs.kind ≠ .json) (.version (.invalidVersionString ("expected JSON, got " ++ vs.kind.asStr)))
    pure vs

theorem check_bind_run {α β : Type} (result : Except CodecError α) (next : α → Scan β) (sc : Scanner) :
    (check result >>= next) sc = result >>= fun value => next value sc := by
  cases result with
  | error error => rfl
  | ok value => rfl

theorem version_string_run (proto : Protocol) (sc : Scanner) :
    versionString proto sc = (versionChecks proto sc).map fun vs => (vs, sc.moved (sc.pos + versionStringLen)) := by
  rw [versionString, versionChecks, scan_get_run]
  by_cases short : sc.left.length < versionStringLen
  · rw [if_pos short, if_pos short]
    rfl
  · rw [if_neg short, if_neg short, check_bind_run]
    cases (VersionString.parse (sc.left.take versionStringLen)).mapError fun error => CodecError.version (.version error) with
    | error error => rfl
    | ok vs =>
        simp only [ok_bind]
        rw [check_bind_run]
        cases rejectIf (vs.proto ≠ proto) (CodecError.version
          (.invalidVersionString ("expected " ++ proto.asStr ++ " protocol, got " ++ vs.proto.asStr))) with
        | error error => rfl
        | ok _ =>
            simp only [ok_bind]
            rw [check_bind_run]
            cases rejectIf (¬(vs.major = 1 ∧ vs.minor = 0)) (CodecError.version
              (.unsupportedProtocolVersion vs.proto vs.major vs.minor)) with
            | error error => rfl
            | ok _ =>
                simp only [ok_bind]
                rw [check_bind_run]
                cases rejectIf (vs.kind ≠ .json) (CodecError.version
                  (.invalidVersionString ("expected JSON, got " ++ vs.kind.asStr))) with
                | error error => rfl
                | ok _ => rfl

theorem version_checks_text (proto : Protocol) (sc : Scanner) (vs : VersionString) (passed : versionChecks proto sc = .ok vs) :
    (sc.left.take versionStringLen).length = versionStringLen ∧ VersionText (sc.left.take versionStringLen) vs := by
  rw [versionChecks] at passed
  by_cases short : sc.left.length < versionStringLen
  · rw [if_pos short] at passed
    cases passed
  · rw [if_neg short] at passed
    simp only [bind_ok, map_error_ok, reject_if_ok, exists_done, pure_ok, not_not] at passed
    obtain ⟨found, parsed, _, _, kind, same⟩ := passed
    have size : (sc.left.take versionStringLen).length = versionStringLen := by
      rw [List.length_take]
      omega
    rw [← same]
    exact ⟨size, parsed, size, kind⟩

theorem version_string_priced (proto : Protocol) : Priced False .inside .inside (versionString proto) := by
  intro sc
  have same : versionChecks proto sc.opened = versionChecks proto sc := rfl
  rw [version_string_run, version_string_run, same]
  cases passed : versionChecks proto sc with
  | error error => exact .fails error error False.elim False.elim
  | ok vs =>
      obtain ⟨size, shape⟩ := version_checks_text proto sc vs passed
      have split : sc.left = sc.left.take versionStringLen ++ sc.left.drop versionStringLen := (List.take_append_drop _ _).symm
      have plain := silent_text (sc.left.take versionStringLen) [] (fun byte inside => (version_plain _ _ shape byte inside).2) (silent_nil _)
      rw [List.append_nil] at plain
      have took := (took_moved sc _ _ split).1
      rw [size] at took
      exact .pays vs (sc.moved (sc.pos + versionStringLen)) _ took plain.ends (by rw [plain.marks]; rfl)

theorem declared_size_priced (vs : VersionString) : Priced False .inside .inside (declaredSize vs) :=
  priced_get _ (fun _ => rfl) fun sc => priced_check _ False.elim sc

theorem event_head_priced : Priced False .outside .outside ParsedEvent.head := by
  have opening : Priced False .outside .inside (expect "\x7b\"v\":\"") := priced_expect _ ⟨rfl, rfl⟩
  refine priced_bind _ _ opening fun _ => priced_bind _ _ (version_string_priced .keri) fun vs => ?_
  exact priced_bind _ _ (declared_size_priced vs) fun _ => field_priced _ _ ⟨rfl, rfl⟩ string_priced

theorem acdc_head_priced : Priced False .outside .outside ParsedAcdc.head := by
  have opening : Priced False .outside .inside (expect "\x7b\"v\":\"") := priced_expect _ ⟨rfl, rfl⟩
  refine priced_bind _ _ opening fun _ => priced_bind _ _ (version_string_priced .acdc) fun vs => ?_
  exact priced_expect _ ⟨rfl, rfl⟩

theorem exn_head_priced : Priced False .outside .outside ParsedExn.head := by
  have opening : Priced False .outside .inside (expect "\x7b\"v\":\"") := priced_expect _ ⟨rfl, rfl⟩
  refine priced_bind _ _ opening fun _ => priced_bind _ _ (version_string_priced .keri) fun vs => ?_
  exact priced_expect _ ⟨rfl, rfl⟩

end Heads

section Fields

theorem threshold_priced : Priced False .outside .outside ParsedTholder.decode := by
  have clauses : Priced False .outside .outside ParsedTholder.clauses := by
    refine priced_get _ (fun _ => rfl) fun sc => meets_ite _ _ _ sc (fun _ => ?_) fun _ => meets_ite _ _ _ sc (fun _ => ?_) fun _ => ?_
    · exact meets_bind _ _ sc (tail_list_priced _ string_value_priced sc) fun _ _ _ => priced_pure _
    · exact meets_bind _ _ sc (tail_list_priced _ string_array_priced sc) fun _ _ _ => priced_pure _
    · exact priced_reject _ rfl sc
  have array : Priced False .outside .outside ParsedTholder.weightedArray :=
    priced_bind _ _ (priced_expect "[" ⟨rfl, rfl⟩) fun _ => priced_lit "]" _ ⟨rfl, rfl⟩ (priced_pure _) clauses
  refine priced_get _ (fun _ => rfl) fun sc => meets_ite _ _ _ sc (fun _ => ?_) fun _ => meets_ite _ _ _ sc (fun _ => ?_) fun _ => ?_
  · exact meets_bind _ _ sc (string_value_priced sc) fun _ _ _ => priced_pure _
  · exact meets_bind _ _ sc (integer_priced sc) fun _ _ _ => priced_pure _
  · exact meets_ite _ _ _ sc (fun _ => array sc) fun _ => priced_reject _ rfl sc

theorem count_priced : Priced False .outside .outside ParsedCount.decode := by
  refine priced_get _ (fun _ => rfl) fun sc => meets_ite _ _ _ sc (fun _ => ?_) fun _ => meets_ite _ _ _ sc (fun _ => ?_) fun _ => ?_
  · exact meets_bind _ _ sc (string_value_priced sc) fun _ _ _ => priced_pure _
  · exact meets_bind _ _ sc (integer_priced sc) fun _ _ _ => priced_pure _
  · exact priced_reject _ rfl sc

theorem body_end_priced {α : Type} (parsed : α) : Priced False .outside .outside (bodyEnd parsed) := by
  have finishes : Priced False .outside .outside finish :=
    priced_get _ (fun _ => rfl) fun sc => meets_ite _ _ _ sc (fun _ => priced_pure () sc) fun _ => priced_reject _ rfl sc
  exact priced_bind _ _ (priced_expect "\x7d" ⟨rfl, rfl⟩) fun _ => priced_bind _ _ finishes fun _ => priced_pure parsed

theorem text_priced (lit : String) (fair : Fair .outside .outside lit) : Priced False .outside .outside (field lit stringValue) :=
  field_priced _ lit fair string_value_priced

theorem array_priced (lit : String) (fair : Fair .outside .outside lit) : Priced False .outside .outside (field lit stringArray) :=
  field_priced _ lit fair string_array_priced

theorem anchors_priced : Priced False .outside .outside (field ",\"a\":" (delimitedList ParsedSeal.decode)) :=
  field_priced _ _ ⟨rfl, rfl⟩ (delimited_list_priced _ seal_priced)

theorem icp_fields_priced : Priced False .outside .outside ParsedIcp.fields := by
  refine priced_bind _ _ (field_priced _ ",\"d\":" ⟨rfl, rfl⟩ string_priced) fun said => ?_
  refine priced_bind _ _ (field_priced _ ",\"i\":" ⟨rfl, rfl⟩ string_priced) fun pfx => ?_
  refine priced_bind _ _ (text_priced ",\"s\":" ⟨rfl, rfl⟩) fun sn => ?_
  refine priced_bind _ _ (field_priced _ ",\"kt\":" ⟨rfl, rfl⟩ threshold_priced) fun threshold => ?_
  refine priced_bind _ _ (array_priced ",\"k\":" ⟨rfl, rfl⟩) fun keys => ?_
  refine priced_bind _ _ (field_priced _ ",\"nt\":" ⟨rfl, rfl⟩ threshold_priced) fun nextThreshold => ?_
  refine priced_bind _ _ (array_priced ",\"n\":" ⟨rfl, rfl⟩) fun nextKeys => ?_
  refine priced_bind _ _ (field_priced _ ",\"bt\":" ⟨rfl, rfl⟩ count_priced) fun count => ?_
  refine priced_bind _ _ (array_priced ",\"b\":" ⟨rfl, rfl⟩) fun witnesses => ?_
  refine priced_bind _ _ (array_priced ",\"c\":" ⟨rfl, rfl⟩) fun config => ?_
  exact priced_bind _ _ anchors_priced fun anchors => priced_pure _

theorem icp_body_priced : Priced False .outside .outside ParsedIcp.body :=
  priced_bind _ _ icp_fields_priced fun fields => body_end_priced fields

theorem dip_body_priced : Priced False .outside .outside ParsedDip.body :=
  priced_bind _ _ icp_fields_priced fun _ => priced_bind _ _ (text_priced ",\"di\":" ⟨rfl, rfl⟩) fun _ => body_end_priced _

theorem rot_body_priced : Priced False .outside .outside ParsedRot.body := by
  refine priced_bind _ _ (field_priced _ ",\"d\":" ⟨rfl, rfl⟩ string_priced) fun said => ?_
  refine priced_bind _ _ (text_priced ",\"i\":" ⟨rfl, rfl⟩) fun pfx => ?_
  refine priced_bind _ _ (text_priced ",\"s\":" ⟨rfl, rfl⟩) fun sn => ?_
  refine priced_bind _ _ (text_priced ",\"p\":" ⟨rfl, rfl⟩) fun prior => ?_
  refine priced_bind _ _ (field_priced _ ",\"kt\":" ⟨rfl, rfl⟩ threshold_priced) fun threshold => ?_
  refine priced_bind _ _ (array_priced ",\"k\":" ⟨rfl, rfl⟩) fun keys => ?_
  refine priced_bind _ _ (field_priced _ ",\"nt\":" ⟨rfl, rfl⟩ threshold_priced) fun nextThreshold => ?_
  refine priced_bind _ _ (array_priced ",\"n\":" ⟨rfl, rfl⟩) fun nextKeys => ?_
  refine priced_bind _ _ (field_priced _ ",\"bt\":" ⟨rfl, rfl⟩ count_priced) fun count => ?_
  refine priced_bind _ _ (array_priced ",\"br\":" ⟨rfl, rfl⟩) fun removals => ?_
  refine priced_bind _ _ (array_priced ",\"ba\":" ⟨rfl, rfl⟩) fun additions => ?_
  exact priced_bind _ _ anchors_priced fun anchors => body_end_priced _

theorem ixn_body_priced : Priced False .outside .outside ParsedIxn.body := by
  refine priced_bind _ _ (field_priced _ ",\"d\":" ⟨rfl, rfl⟩ string_priced) fun said => ?_
  refine priced_bind _ _ (text_priced ",\"i\":" ⟨rfl, rfl⟩) fun pfx => ?_
  refine priced_bind _ _ (text_priced ",\"s\":" ⟨rfl, rfl⟩) fun sn => ?_
  refine priced_bind _ _ (text_priced ",\"p\":" ⟨rfl, rfl⟩) fun prior => ?_
  exact priced_bind _ _ anchors_priced fun anchors => body_end_priced _

theorem event_scan_priced : Priced False .outside .outside ParsedEvent.scan := by
  refine priced_bind _ _ event_head_priced fun messageType => ?_
  refine priced_ite _ _ _ (priced_bind _ _ icp_body_priced fun _ => priced_pure _) ?_
  refine priced_ite _ _ _ (priced_bind _ _ rot_body_priced fun _ => priced_pure _) ?_
  refine priced_ite _ _ _ (priced_bind _ _ ixn_body_priced fun _ => priced_pure _) ?_
  refine priced_ite _ _ _ (priced_bind _ _ dip_body_priced fun _ => priced_pure _) ?_
  refine priced_ite _ _ _ (priced_bind _ _ rot_body_priced fun _ => priced_pure _) ?_
  exact priced_ite _ _ _ (priced_reject _ rfl) (priced_reject _ rfl)

theorem typed_body_priced {α : Type} (expected : String) (body : Scan α) (priced : Priced False .outside .outside body) :
    Priced False .outside .outside (typedBody expected body) := by
  refine priced_bind _ _ event_head_priced fun messageType => priced_bind _ _ ?_ fun _ => priced
  exact priced_get _ (fun _ => rfl) fun sc => meets_ite _ _ _ sc (fun _ => priced_pure () sc) fun _ => priced_reject _ rfl sc

theorem rct_body_priced : Priced False .outside .outside ParsedRct.body := by
  refine priced_bind _ _ (text_priced ",\"d\":" ⟨rfl, rfl⟩) fun said => priced_bind _ _ (text_priced ",\"i\":" ⟨rfl, rfl⟩) fun pfx => ?_
  exact priced_bind _ _ (text_priced ",\"s\":" ⟨rfl, rfl⟩) fun sn => body_end_priced _

theorem tel_scan_priced : Priced False .outside .outside ParsedTel.scan := by
  have said := text_priced ",\"d\":" ⟨rfl, rfl⟩
  have name := text_priced ",\"i\":" ⟨rfl, rfl⟩
  have sequence := text_priced ",\"s\":" ⟨rfl, rfl⟩
  have registry := text_priced ",\"ri\":" ⟨rfl, rfl⟩
  have issuer := text_priced ",\"ii\":" ⟨rfl, rfl⟩
  have prior := text_priced ",\"p\":" ⟨rfl, rfl⟩
  have time := text_priced ",\"dt\":" ⟨rfl, rfl⟩
  have threshold : Priced False .outside .outside (field ",\"bt\":" ParsedCount.decode) := field_priced _ _ ⟨rfl, rfl⟩ count_priced
  have anchor : Priced False .outside .outside (field ",\"ra\":" ParsedSeal.decode) := field_priced _ _ ⟨rfl, rfl⟩ seal_priced
  refine priced_bind _ _ event_head_priced fun messageType => ?_
  refine priced_ite _ _ _ (priced_bind _ _ ?_ fun _ => priced_pure _) ?_
  · refine priced_bind _ _ said fun _ => priced_bind _ _ name fun _ => priced_bind _ _ issuer fun _ => ?_
    refine priced_bind _ _ sequence fun _ => priced_bind _ _ (array_priced ",\"c\":" ⟨rfl, rfl⟩) fun _ => ?_
    refine priced_bind _ _ threshold fun _ => priced_bind _ _ (array_priced ",\"b\":" ⟨rfl, rfl⟩) fun _ => ?_
    exact priced_bind _ _ (text_priced ",\"n\":" ⟨rfl, rfl⟩) fun _ => body_end_priced _
  refine priced_ite _ _ _ (priced_bind _ _ ?_ fun _ => priced_pure _) ?_
  · refine priced_bind _ _ said fun _ => priced_bind _ _ name fun _ => priced_bind _ _ prior fun _ => ?_
    refine priced_bind _ _ sequence fun _ => priced_bind _ _ threshold fun _ => ?_
    refine priced_bind _ _ (array_priced ",\"br\":" ⟨rfl, rfl⟩) fun _ => ?_
    exact priced_bind _ _ (array_priced ",\"ba\":" ⟨rfl, rfl⟩) fun _ => body_end_priced _
  refine priced_ite _ _ _ (priced_bind _ _ ?_ fun _ => priced_pure _) ?_
  · refine priced_bind _ _ said fun _ => priced_bind _ _ name fun _ => priced_bind _ _ sequence fun _ => ?_
    exact priced_bind _ _ registry fun _ => priced_bind _ _ time fun _ => body_end_priced _
  refine priced_ite _ _ _ (priced_bind _ _ ?_ fun _ => priced_pure _) ?_
  · refine priced_bind _ _ said fun _ => priced_bind _ _ name fun _ => priced_bind _ _ sequence fun _ => ?_
    exact priced_bind _ _ registry fun _ => priced_bind _ _ prior fun _ => priced_bind _ _ time fun _ => body_end_priced _
  refine priced_ite _ _ _ (priced_bind _ _ ?_ fun _ => priced_pure _) ?_
  · refine priced_bind _ _ said fun _ => priced_bind _ _ name fun _ => priced_bind _ _ issuer fun _ => ?_
    exact priced_bind _ _ sequence fun _ => priced_bind _ _ anchor fun _ => priced_bind _ _ time fun _ => body_end_priced _
  refine priced_ite _ _ _ (priced_bind _ _ ?_ fun _ => priced_pure _) (priced_reject _ rfl)
  · refine priced_bind _ _ said fun _ => priced_bind _ _ name fun _ => priced_bind _ _ sequence fun _ => ?_
    exact priced_bind _ _ prior fun _ => priced_bind _ _ anchor fun _ => priced_bind _ _ time fun _ => body_end_priced _

theorem optional_priced {α : Type} (lit : String) (value : Scan α) (fair : Fair .outside .outside lit)
    (priced : Priced False .outside .outside value) : Priced False .outside .outside (optional lit value) :=
  priced_lit lit _ fair (priced_bind _ _ priced fun _ => priced_pure _) (priced_pure none)

theorem acdc_scan_priced : Priced False .outside .outside ParsedAcdc.scan := by
  have span : Priced False .outside .outside fieldSpan := by
    refine priced_get _ (fun _ => rfl) fun sc => meets_ite _ _ _ sc (fun _ => ?_) fun _ => meets_ite _ _ _ sc (fun _ => ?_) fun _ => ?_
    · exact meets_bind _ _ sc (string_value_priced sc) fun _ _ _ => priced_pure _
    · exact meets_bind _ _ sc (object_value_span_priced sc) fun _ _ _ => priced_pure _
    · exact priced_reject _ rfl sc
  have schema : Priced False .outside .outside ParsedAcdc.schemaField := by
    refine priced_get _ (fun _ => rfl) fun sc => meets_bind _ _ sc (optional_priced ",\"s\":" _ ⟨rfl, rfl⟩ span sc) fun found _ _ => ?_
    cases found with
    | none => exact priced_reject _ rfl
    | some given => exact priced_pure given
  have aggregate : ∀ attributes, Priced False .outside .outside (ParsedAcdc.aggregateField attributes) := by
    intro attributes
    refine priced_get _ (fun _ => rfl) fun sc => meets_bind _ _ sc (optional_priced ",\"A\":" _ ⟨rfl, rfl⟩ string_value_priced sc) ?_
    exact fun found _ _ => priced_ite _ _ _ (priced_reject _ rfl) (priced_pure found)
  refine priced_bind _ _ acdc_head_priced fun _ => priced_bind _ _ string_value_priced fun said => ?_
  refine priced_bind _ _ (optional_priced ",\"u\":" _ ⟨rfl, rfl⟩ string_value_priced) fun nonce => ?_
  refine priced_bind _ _ (text_priced ",\"i\":" ⟨rfl, rfl⟩) fun issuer => ?_
  refine priced_bind _ _ (optional_priced ",\"ri\":" _ ⟨rfl, rfl⟩ span) fun registry => priced_bind _ _ schema fun schema => ?_
  refine priced_bind _ _ (optional_priced ",\"a\":" _ ⟨rfl, rfl⟩ span) fun attributes => priced_bind _ _ (aggregate attributes) fun _ => ?_
  refine priced_bind _ _ (optional_priced ",\"e\":" _ ⟨rfl, rfl⟩ span) fun edges => ?_
  refine priced_bind _ _ (optional_priced ",\"r\":" _ ⟨rfl, rfl⟩ span) fun rules => ?_
  exact priced_bind _ _ (priced_expect "\x7d" ⟨rfl, rfl⟩) fun _ => priced_pure _

theorem exn_scan_priced : Priced False .outside .outside ParsedExn.scan := by
  have object : Priced False .outside .outside objectStr :=
    priced_bind _ _ object_value_span_priced fun span => priced_check _ False.elim
  have attributes : Priced False .outside .outside ParsedExn.attributeSpan := by
    refine priced_get _ (fun _ => rfl) fun sc => meets_ite _ _ _ sc (fun _ => ?_) fun _ => meets_ite _ _ _ sc (fun _ => ?_) fun _ => ?_
    · exact meets_bind _ _ sc (string_value_priced sc) fun _ _ _ => priced_pure _
    · exact meets_bind _ _ sc (object sc) fun _ _ _ => priced_pure _
    · exact priced_reject _ rfl sc
  have embeds : Priced False .outside .outside ParsedExn.embedsField := by
    refine priced_lit ",\"e\":" _ ⟨rfl, rfl⟩ ?_ (priced_pure _)
    exact priced_bind _ _ object fun map => priced_ite _ _ _ (priced_pure _) (priced_check _ False.elim)
  refine priced_bind _ _ exn_head_priced fun _ => priced_bind _ _ string_value_priced fun said => ?_
  refine priced_bind _ _ (text_priced ",\"i\":" ⟨rfl, rfl⟩) fun _ => priced_bind _ _ (text_priced ",\"rp\":" ⟨rfl, rfl⟩) fun _ => ?_
  refine priced_bind _ _ (text_priced ",\"p\":" ⟨rfl, rfl⟩) fun _ => priced_bind _ _ (text_priced ",\"dt\":" ⟨rfl, rfl⟩) fun _ => ?_
  refine priced_bind _ _ (text_priced ",\"r\":" ⟨rfl, rfl⟩) fun _ => priced_bind _ _ (field_priced _ ",\"q\":" ⟨rfl, rfl⟩ object) fun _ => ?_
  refine priced_bind _ _ (field_priced _ ",\"a\":" ⟨rfl, rfl⟩ attributes) fun _ => priced_bind _ _ embeds fun _ => ?_
  exact priced_bind _ _ (priced_expect "\x7d" ⟨rfl, rfl⟩) fun _ => priced_pure _

end Fields

end Cesr.Codec
