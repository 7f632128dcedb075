import Cesr.Codec.MeterFields
import Cesr.Codec.SaidLaw

set_option autoImplicit false

namespace Cesr.Codec

open Checks WriterJson Scanner JsonTally JsonBudget

section Consumed

variable {α β : Type}

def Even (part : Scan α) : Prop := ∀ sc value sc', part sc = .ok (value, sc') → ∃ text, Took sc text sc' ∧ Level text

def Closing' (part : Scan α) : Prop := ∀ sc value sc', part sc = .ok (value, sc') → ∃ text, Took sc (text ++ [0x7D]) sc' ∧ Level text

def Finishes (part : Scan α) : Prop := ∀ sc value sc', part sc = .ok (value, sc') → sc'.left = []

theorem level_nil : Level [] := level_silent [] (silent_nil _)

theorem even_pure (value : α) : Even (pure value : Scan α) := by
  intro sc value' sc' read
  rw [← ((scan_pure_ok _ _ _ _).mp read).2]
  exact ⟨[], took_nil sc, level_nil⟩

theorem even_reject (error : DeserializeError) : Even (reject error : Scan α) := by
  intro sc value sc' read
  cases read

theorem even_get (next : Scanner → Scan β) (each : ∀ sc, Even (next sc)) : Even (get >>= next) :=
  fun sc value sc' read => each sc sc value sc' read

theorem even_bind (first : Scan α) (next : α → Scan β) (left : Even first) (right : ∀ value, Even (next value)) : Even (first >>= next) := by
  intro sc value sc' read
  obtain ⟨middle, at', taken, read⟩ := (scan_bind_ok _ _ _ _ _).mp read
  obtain ⟨text, took, level⟩ := left sc middle at' taken
  obtain ⟨more, took', level'⟩ := right middle at' value sc' read
  exact ⟨text ++ more, took_append _ _ _ _ _ took took', level_append text more level level'⟩

theorem even_ite (fault : Prop) [Decidable fault] (first second : Scan α) (left : Even first) (right : Even second) :
    Even (if fault then first else second) := by
  by_cases found : fault
  · rw [if_pos found]
    exact left
  · rw [if_neg found]
    exact right

theorem even_check (result : Except CodecError α) : Even (check result) := by
  intro sc value sc' read
  rw [← ((check_ok _ _ _ _).mp read).2]
  exact ⟨[], took_nil sc, level_nil⟩

theorem even_lit (lit : String) (level : Level (asBytes lit)) : Even (takeLit lit) := by
  intro sc taken sc' read
  rcases take_lit_cases lit sc sc' taken read with ⟨_, took⟩ | ⟨_, took⟩
  · exact ⟨asBytes lit, took, level⟩
  · exact ⟨[], took, level_nil⟩

theorem even_field (lit : String) (value : Scan α) (level : Level (asBytes lit)) (even : Even value) : Even (field lit value) :=
  even_bind _ _ (fun sc done sc' read => ⟨asBytes lit, expect_took lit sc sc' done read, level⟩) fun _ => even

theorem even_optional (lit : String) (value : Scan α) (level : Level (asBytes lit)) (even : Even value) : Even (optional lit value) := by
  refine even_bind _ _ (even_lit lit level) fun taken => even_ite _ _ _ ?_ (even_pure none)
  exact even_bind _ _ even fun _ => even_pure _

theorem string_value_even : Even stringValue := by
  refine even_bind _ _ ?_ fun _ => even_pure _
  intro sc text sc' read
  obtain ⟨took, plain, _⟩ := string_took sc sc' text read
  have silent := silent_text (asBytes text.value) [] (fun byte inside => (plain byte inside).2) (silent_nil _)
  rw [List.append_nil] at silent
  exact ⟨_, took, level_silent _ (silent_quoted _ silent)⟩

theorem written_silent (content name : Bytes) (written : Written content name) : Silent .inside .inside content :=
  silent_denotes content name written.1.1

theorem value_level (text : Bytes) (spelled : Spells Utf8 .value text) : Level text :=
  level_spells Written written_silent .value text ((writer_spells .value text).mp spelled)

theorem object_span_even : Even objectValueSpan := by
  refine even_get _ fun sc => even_ite _ _ _ ?_ (even_reject _)
  refine even_get _ fun sc => even_bind _ _ ?_ fun _ => even_get _ fun _ => even_pure _
  intro sc done sc' read
  obtain ⟨text, took, spelled⟩ := canonical_value_took sc sc' done read
  exact ⟨text, took, value_level text spelled⟩

theorem closing_bind (first : Scan α) (next : α → Scan β) (left : Even first) (right : ∀ value, Closing' (next value)) :
    Closing' (first >>= next) := by
  intro sc value sc' read
  obtain ⟨middle, at', taken, read⟩ := (scan_bind_ok _ _ _ _ _).mp read
  obtain ⟨text, took, level⟩ := left sc middle at' taken
  obtain ⟨more, took', level'⟩ := right middle at' value sc' read
  refine ⟨text ++ more, ?_, level_append text more level level'⟩
  rw [List.append_assoc]
  exact took_append _ _ _ _ _ took took'

theorem closing_end (value : α) : Closing' (do expect "\x7d"; pure value) := by
  intro sc value' sc' read
  obtain ⟨_, at', taken, read⟩ := (scan_bind_ok _ _ _ _ _).mp read
  rw [← ((scan_pure_ok _ _ _ _).mp read).2]
  exact ⟨[], expect_took _ _ _ _ taken, level_nil⟩

theorem head_level (version behind : Bytes) (plain : ∀ byte ∈ version, Plain byte) (ended : ends .inside behind = .outside)
    (all : ∀ mark ∈ marks .inside behind, mark = .member) : Level (asBytes "\"v\":\"" ++ (version ++ behind)) := by
  have silent := silent_text version [] (fun byte inside => (plain byte inside).2) (silent_nil _)
  rw [List.append_nil] at silent
  have opened' : ends .outside (asBytes "\"v\":\"") = .inside := rfl
  apply level_unmarked
  · rw [ends_append, opened', ends_append, silent.ends]
    exact ended
  · rw [marks_append, opened', marks_append, silent.ends, silent.marks, List.nil_append]
    exact List.forall_mem_cons.mpr ⟨rfl, all⟩

theorem head_took (proto : Protocol) (behind : String) (ended : ends .inside (asBytes behind) = .outside)
    (all : ∀ mark ∈ marks .inside (asBytes behind), mark = .member) (sc sc' : Scanner) (done : Unit)
    (read : (do expect "\x7b\"v\":\""; let _ ← versionString proto; expect behind : Scan Unit) sc = .ok (done, sc')) :
    ∃ inner, Took sc (0x7B :: inner) sc' ∧ Level inner := by
  obtain ⟨_, at', opening, read⟩ := (scan_bind_ok _ _ _ _ _).mp read
  obtain ⟨vs, at'', versioned, read⟩ := (scan_bind_ok _ _ _ _ _).mp read
  rw [version_string_run] at versioned
  cases passed : versionChecks proto at' with
  | error error =>
      rw [passed] at versioned
      cases versioned
  | ok found =>
      rw [passed] at versioned
      obtain ⟨size, shape⟩ := version_checks_text proto at' found passed
      have split : at'.left = at'.left.take versionStringLen ++ at'.left.drop versionStringLen := (List.take_append_drop _ _).symm
      have took := (took_moved at' _ _ split).1
      rw [size] at took
      obtain ⟨_, moved'⟩ := Prod.mk.inj (Except.ok.inj versioned)
      rw [moved'] at took
      have whole := took_append _ _ _ _ _ (expect_took _ _ _ _ opening) (took_append _ _ _ _ _ took (expect_took _ _ _ _ read))
      exact ⟨_, whole, head_level _ _ (version_plain _ _ shape) ended all⟩

end Consumed

section Whole

variable {α β : Type}

def Encloses (part : Scan α) : Prop :=
  ∀ sc value sc', part sc = .ok (value, sc') → ∃ inner, Took sc (0x7B :: (inner ++ [0x7D])) sc' ∧ Level inner

theorem encloses_bind (head : Scan Unit) (next : Scan β)
    (opens : ∀ sc done sc', head sc = .ok (done, sc') → ∃ inner, Took sc (0x7B :: inner) sc' ∧ Level inner) (closes : Closing' next) :
    Encloses (head >>= fun _ => next) := by
  intro sc value sc' read
  obtain ⟨done, at', opened', read⟩ := (scan_bind_ok _ _ _ _ _).mp read
  obtain ⟨inner, took, level⟩ := opens sc done at' opened'
  obtain ⟨more, took', level'⟩ := closes at' value sc' read
  have whole := took_append _ _ _ _ _ took took'
  rw [List.cons_append, ← List.append_assoc] at whole
  exact ⟨inner ++ more, whole, level_append inner more level level'⟩

theorem acdc_scan_encloses : Encloses ParsedAcdc.scan := by
  have span : Even fieldSpan := by
    refine even_get _ fun sc => even_ite _ _ _ ?_ (even_ite _ _ _ ?_ (even_reject _))
    · exact even_bind _ _ string_value_even fun _ => even_pure _
    · exact even_bind _ _ object_span_even fun _ => even_pure _
  have schema : Even ParsedAcdc.schemaField := by
    refine even_get _ fun sc => even_bind _ _ (even_optional _ _ (level_unmarked _ rfl (by decide)) span) fun found => ?_
    cases found with
    | none => exact even_reject _
    | some given => exact even_pure given
  have aggregate : ∀ attributes, Even (ParsedAcdc.aggregateField attributes) := by
    intro attributes
    refine even_get _ fun sc => even_bind _ _ (even_optional _ _ (level_unmarked _ rfl (by decide)) string_value_even) fun found => ?_
    exact even_ite _ _ _ (even_reject _) (even_pure found)
  refine encloses_bind _ _ (fun sc done sc' read => head_took .acdc "\",\"d\":" rfl (by decide) sc sc' done read) ?_
  refine closing_bind _ _ string_value_even fun said => ?_
  refine closing_bind _ _ (even_optional ",\"u\":" _ (level_unmarked _ rfl (by decide)) string_value_even) fun nonce => ?_
  refine closing_bind _ _ (even_field ",\"i\":" _ (level_unmarked _ rfl (by decide)) string_value_even) fun issuer => ?_
  refine closing_bind _ _ (even_optional ",\"ri\":" _ (level_unmarked _ rfl (by decide)) span) fun registry => ?_
  refine closing_bind _ _ schema fun schema => ?_
  refine closing_bind _ _ (even_optional ",\"a\":" _ (level_unmarked _ rfl (by decide)) span) fun attributes => ?_
  refine closing_bind _ _ (aggregate attributes) fun _ => ?_
  refine closing_bind _ _ (even_optional ",\"e\":" _ (level_unmarked _ rfl (by decide)) span) fun edges => ?_
  refine closing_bind _ _ (even_optional ",\"r\":" _ (level_unmarked _ rfl (by decide)) span) fun rules => ?_
  exact closing_end _

theorem exn_scan_encloses : Encloses ParsedExn.scan := by
  have object : Even objectStr := even_bind _ _ object_span_even fun span => even_check _
  have attributes : Even ParsedExn.attributeSpan := by
    refine even_get _ fun sc => even_ite _ _ _ ?_ (even_ite _ _ _ ?_ (even_reject _))
    · exact even_bind _ _ string_value_even fun _ => even_pure _
    · exact even_bind _ _ object fun _ => even_pure _
  have embeds : Even ParsedExn.embedsField := by
    refine even_bind _ _ (even_lit ",\"e\":" (level_unmarked _ rfl (by decide))) fun taken => even_ite _ _ _ ?_ (even_pure _)
    exact even_bind _ _ object fun map => even_ite _ _ _ (even_pure _) (even_check _)
  refine encloses_bind _ _ (fun sc done sc' read => head_took .keri "\",\"t\":\"exn\",\"d\":" rfl (by decide) sc sc' done read) ?_
  refine closing_bind _ _ string_value_even fun said => ?_
  refine closing_bind _ _ (even_field ",\"i\":" _ (level_unmarked _ rfl (by decide)) string_value_even) fun issuer => ?_
  refine closing_bind _ _ (even_field ",\"rp\":" _ (level_unmarked _ rfl (by decide)) string_value_even) fun reply => ?_
  refine closing_bind _ _ (even_field ",\"p\":" _ (level_unmarked _ rfl (by decide)) string_value_even) fun prior => ?_
  refine closing_bind _ _ (even_field ",\"dt\":" _ (level_unmarked _ rfl (by decide)) string_value_even) fun datetime => ?_
  refine closing_bind _ _ (even_field ",\"r\":" _ (level_unmarked _ rfl (by decide)) string_value_even) fun route => ?_
  refine closing_bind _ _ (even_field ",\"q\":" _ (level_unmarked _ rfl (by decide)) object) fun modifiers => ?_
  refine closing_bind _ _ (even_field ",\"a\":" _ (level_unmarked _ rfl (by decide)) attributes) fun attributes => ?_
  exact closing_bind _ _ embeds fun embeds => closing_end _

theorem members_level (members : List Member) (object : Object Utf8 members) : Level (membersText members) := by
  have member : ∀ member : Member, Content Utf8 member.1 → Spells Utf8 .value member.2 → Level (memberText member) := by
    intro member key value
    exact level_append _ _ (level_silent _ (silent_quoted _ (content_silent _ key.2))) (level_byte 0x3A _ (.inr rfl) (value_level _ value))
  induction members with
  | nil => exact level_nil
  | cons first others ih =>
      have here := member first (object.keys _ List.mem_cons_self) (object.values _ List.mem_cons_self)
      have later := ih ⟨(List.forall_mem_cons.mp object.keys).2, (List.nodup_cons.mp object.distinct).2,
        (List.forall_mem_cons.mp object.values).2⟩
      cases others with
      | nil => exact here
      | cons next rest => exact level_append _ _ here (level_byte 0x2C _ (.inl rfl) later)

theorem encloses_whole (part : Scan α) (encloses : Encloses part) (members : List Member) (object : Object Utf8 members)
    (budget : JsonBudget) (value : α) (sc' : Scanner) (read : part (withBudget (objectText members) budget) = .ok (value, sc')) :
    sc'.left = [] := by
  obtain ⟨inner, took, level⟩ := encloses _ value sc' read
  exact object_prefix inner (membersText members) sc'.left level (members_level members object) took.left

theorem finishes_bind (first : Scan α) (next : α → Scan β) (later : ∀ value, Finishes (next value)) : Finishes (first >>= next) := by
  intro sc value sc' read
  obtain ⟨middle, at', _, read⟩ := (scan_bind_ok _ _ _ _ _).mp read
  exact later middle at' value sc' read

theorem finishes_map (part : Scan α) (wrap : α → β) (finishes : Finishes part) : Finishes (do let value ← part; pure (wrap value)) := by
  intro sc value sc' read
  obtain ⟨middle, at', taken, read⟩ := (scan_bind_ok _ _ _ _ _).mp read
  rw [← ((scan_pure_ok _ _ _ _).mp read).2]
  exact finishes sc middle at' taken

theorem finishes_ite (fault : Prop) [Decidable fault] (first second : Scan α) (left : Finishes first) (right : Finishes second) :
    Finishes (if fault then first else second) := by
  by_cases found : fault
  · rw [if_pos found]
    exact left
  · rw [if_neg found]
    exact right

theorem finishes_reject (error : DeserializeError) : Finishes (reject error : Scan α) := by
  intro sc value sc' read
  cases read

theorem body_end_finishes (parsed : α) : Finishes (bodyEnd parsed) := by
  refine finishes_bind _ _ fun _ => ?_
  intro sc value sc' read
  obtain ⟨done, at', finished, read⟩ := (scan_bind_ok _ _ _ _ _).mp read
  rw [← ((scan_pure_ok _ _ _ _).mp read).2, ((finish_ok _ _ _).mp finished).1]
  exact finish_left sc at' done finished

theorem icp_body_finishes : Finishes ParsedIcp.body := finishes_bind _ _ fun _ => body_end_finishes _

theorem dip_body_finishes : Finishes ParsedDip.body := finishes_bind _ _ fun _ => finishes_bind _ _ fun _ => body_end_finishes _

theorem rot_body_finishes : Finishes ParsedRot.body := by
  iterate 12 refine finishes_bind _ _ fun _ => ?_
  exact body_end_finishes _

theorem ixn_body_finishes : Finishes ParsedIxn.body := by
  iterate 5 refine finishes_bind _ _ fun _ => ?_
  exact body_end_finishes _

theorem event_scan_finishes : Finishes ParsedEvent.scan := by
  refine finishes_bind _ _ fun messageType => ?_
  refine finishes_ite _ _ _ (finishes_map _ _ icp_body_finishes) ?_
  refine finishes_ite _ _ _ (finishes_map _ _ rot_body_finishes) ?_
  refine finishes_ite _ _ _ (finishes_map _ _ ixn_body_finishes) ?_
  refine finishes_ite _ _ _ (finishes_map _ _ dip_body_finishes) ?_
  refine finishes_ite _ _ _ (finishes_map _ _ rot_body_finishes) ?_
  exact finishes_ite _ _ _ (finishes_reject _) (finishes_reject _)

theorem typed_body_finishes (expected : String) (body : Scan α) (finishes : Finishes body) : Finishes (typedBody expected body) :=
  finishes_bind _ _ fun _ => finishes_bind _ _ fun _ => finishes

theorem rct_body_finishes : Finishes ParsedRct.body := by
  iterate 3 refine finishes_bind _ _ fun _ => ?_
  exact body_end_finishes _

theorem tel_scan_finishes : Finishes ParsedTel.scan := by
  refine finishes_bind _ _ fun messageType => ?_
  refine finishes_ite _ _ _ (finishes_map _ _ ?_) ?_
  · iterate 8 refine finishes_bind _ _ fun _ => ?_
    exact body_end_finishes _
  refine finishes_ite _ _ _ (finishes_map _ _ ?_) ?_
  · iterate 7 refine finishes_bind _ _ fun _ => ?_
    exact body_end_finishes _
  refine finishes_ite _ _ _ (finishes_map _ _ ?_) ?_
  · iterate 5 refine finishes_bind _ _ fun _ => ?_
    exact body_end_finishes _
  refine finishes_ite _ _ _ (finishes_map _ _ ?_) ?_
  · iterate 6 refine finishes_bind _ _ fun _ => ?_
    exact body_end_finishes _
  refine finishes_ite _ _ _ (finishes_map _ _ ?_) ?_
  · iterate 6 refine finishes_bind _ _ fun _ => ?_
    exact body_end_finishes _
  refine finishes_ite _ _ _ (finishes_map _ _ ?_) (finishes_reject _)
  iterate 6 refine finishes_bind _ _ fun _ => ?_
  exact body_end_finishes _

end Whole

section Exact

variable {α β : Type}

-- A reader succeeds within limits when it does without them, and the members and
-- the depth of the body are within them.
def Metered (read : Bytes → JsonBudget → Except CodecError α) : Prop :=
  ∀ raw limits value, read raw (.ofLimits limits) = .ok value ↔
    read raw .unlimited = .ok value ∧ members raw ≤ limits.maxFields ∧ deepest raw ≤ limits.maxDepth

theorem covered_iff (raw : Bytes) (limits : JsonLimits) :
    (pay (marks .outside raw) (.ofLimits limits)).isSome = true ↔ members raw ≤ limits.maxFields ∧ deepest raw ≤ limits.maxDepth := by
  have priced := pay_limited (marks .outside raw) limits.maxFields limits.maxDepth 0 0 (Nat.zero_le _) (Nat.zero_le _)
  rw [Nat.zero_add] at priced
  exact priced

theorem scanned_ok (scan : Scan α) (raw : Bytes) (budget : JsonBudget) (value : α) :
    scanned scan raw budget = .ok value ↔ ∃ done, scan (withBudget raw budget) = .ok (value, done) := by
  rw [scanned]
  cases scan (withBudget raw budget) with
  | error error =>
      apply Iff.intro
      · intro found
        cases found
      · intro found
        obtain ⟨_, found⟩ := found
        cases found
  | ok both =>
      apply Iff.intro
      · intro found
        cases found
        exact ⟨both.2, rfl⟩
      · intro found
        obtain ⟨done, found⟩ := found
        cases found
        rfl

def readBody (scan : Scan α) (lift : Bytes → α → Except CodecError β) (raw : Bytes) (budget : JsonBudget) : Except CodecError β := do
  checkJsonBody raw
  let parsed ← scanned scan raw budget
  lift raw parsed

theorem read_metered (scan : Scan α) (lift : Bytes → α → Except CodecError β) (priced : Priced False .outside .outside scan)
    (whole : ∀ raw parsed value budget done, scan (withBudget raw budget) = .ok (parsed, done) → lift raw parsed = .ok value → done.left = []) :
    Metered (readBody scan lift) := by
  intro raw limits value
  simp only [readBody, bind_ok, exists_done, scanned_ok]
  have met := priced (withBudget raw (.ofLimits limits))
  have free : (withBudget raw (.ofLimits limits)).opened = withBudget raw .unlimited := rfl
  rw [free] at met
  generalize opens : scan (withBudget raw .unlimited) = unbounded at met
  generalize holds : scan (withBudget raw (.ofLimits limits)) = bounded at met
  cases met with
  | fails error error' _ _ =>
      apply Iff.intro
      · intro found
        obtain ⟨_, _, ⟨_, read⟩, _⟩ := found
        cases read
      · intro found
        obtain ⟨⟨_, _, ⟨_, read⟩, _⟩, _⟩ := found
        cases read
  | pays parsed done text took ended bill =>
      have covers : ∀ value, lift raw parsed = .ok value → members raw ≤ limits.maxFields ∧ deepest raw ≤ limits.maxDepth := by
        intro value lifted
        have nothing := whole raw parsed value _ done holds lifted
        have all : raw = text := by
          have left := took.left
          rw [nothing, List.append_nil] at left
          exact left
        rw [← covered_iff, all, show pay (marks .outside text) (.ofLimits limits) = some done.budget from bill]
        rfl
      apply Iff.intro
      · intro found
        obtain ⟨json, _, ⟨_, read⟩, lifted⟩ := found
        cases read
        exact ⟨⟨json, parsed, ⟨done.opened, rfl⟩, lifted⟩, covers value lifted⟩
      · intro found
        obtain ⟨⟨json, _, ⟨_, read⟩, lifted⟩, _⟩ := found
        cases read
        exact ⟨json, parsed, ⟨done, rfl⟩, lifted⟩
  | refused parsed done error _ unpaid =>
      apply Iff.intro
      · intro found
        obtain ⟨_, _, ⟨_, read⟩, _⟩ := found
        cases read
      · intro found
        have paid := (covered_iff raw limits).mpr found.2
        have unpaid' : pay (marks .outside raw) (.ofLimits limits) = none := unpaid
        rw [unpaid'] at paid
        cases paid

theorem finished_metered (scan : Scan α) (lift : Bytes → α → Except CodecError β) (priced : Priced False .outside .outside scan)
    (finishes : Finishes scan) :
    Metered (readBody scan lift) :=
  read_metered scan lift priced fun raw parsed _ budget done read _ => finishes (withBudget raw budget) parsed done read

theorem enclosed_metered (scan : Scan α) (lift : Bytes → α → Except CodecError β) (priced : Priced False .outside .outside scan)
    (encloses : Encloses scan)
    (objects : ∀ raw parsed value, lift raw parsed = .ok value → ∃ members, raw = objectText members ∧ Object Utf8 members) :
    Metered (readBody scan lift) := by
  refine read_metered scan lift priced fun raw parsed value budget done read lifted => ?_
  obtain ⟨members, same, object⟩ := objects raw parsed value lifted
  rw [same] at read
  exact encloses_whole scan encloses members object budget parsed done read

theorem verified_object (library : KeyLibrary) (reason : String) (label : String) (code : DigestCode) (codes : SadCodes) (raw : Bytes)
    (sad : ParsedSad) (built : staticCodes reason [(label, code)] = .ok codes) (verified : codes.verify library raw = .ok sad) :
    ∃ members, raw = objectText members ∧ Object Utf8 members := by
  have slots : codes.slots = [(label, code)] := by
    rw [staticCodes, map_error_ok, SadCodes.fromPairs] at built
    split at built
    · split at built
      · cases built
        rfl
      · cases built
    · cases built
  have distinct : (codes.slots.map Prod.fst).Nodup := by
    rw [slots]
    exact List.nodup_singleton label
  simp only [SadCodes.verify, bind_ok] at verified
  obtain ⟨scan, read, _⟩ := verified
  obtain ⟨members, same, listed, _⟩ := (scan_sad_ok codes distinct raw scan).mp read
  exact ⟨members, same, ((listed_iff codes members).mp listed).1⟩

def Lenient (read : Bytes → JsonBudget → Except CodecError α) : Prop :=
  ∀ raw (limits more : JsonLimits) value, limits.maxFields ≤ more.maxFields → limits.maxDepth ≤ more.maxDepth →
    read raw (.ofLimits limits) = .ok value → read raw (.ofLimits more) = .ok value

structure LimitsExact (read : Bytes → JsonBudget → Except CodecError α) : Prop where
  metered : Metered read
  lenient : Lenient read

theorem limits_exact (read : Bytes → JsonBudget → Except CodecError α) (metered : Metered read) : LimitsExact read := by
  refine ⟨metered, ?_⟩
  intro raw limits more value fields depth accepted
  obtain ⟨free, fewer, lower⟩ := (metered raw limits value).mp accepted
  exact (metered raw more value).mpr ⟨free, fewer.trans fields, lower.trans depth⟩

theorem pay_fields (list : List Mark) (budget paid : JsonBudget) (bill : pay list budget = some paid) :
    paid.fields = budget.fields + list.count .member := by
  induction list generalizing budget with
  | nil =>
      cases bill
      rfl
  | cons mark rest ih =>
      rw [pay, Option.bind_eq_some_iff] at bill
      obtain ⟨next, first, later⟩ := bill
      rw [ih next later]
      cases mark with
      | member =>
          cases counted : budget.field with
          | error limit =>
              rw [payMark, counted] at first
              cases first
          | ok charged =>
              rw [payMark, counted] at first
              have same : charged.opened = ⟨none, none, budget.fields + 1, budget.depth⟩ :=
                (Except.ok.inj (field_opened _ _ counted)).symm
              have more : next.fields = budget.fields + 1 := by
                rw [← Option.some.inj first]
                show charged.opened.fields = budget.fields + 1
                rw [same]
              rw [more, List.count_cons_self, Nat.add_assoc, Nat.add_comm 1]
      | opening =>
          cases entered : budget.enter with
          | error limit =>
              rw [payMark, entered] at first
              cases first
          | ok charged =>
              rw [payMark, entered] at first
              have same : charged.opened = ⟨none, none, budget.fields, budget.depth + 1⟩ :=
                (Except.ok.inj (enter_opened _ _ entered)).symm
              have kept : next.fields = budget.fields := by
                rw [← Option.some.inj first]
                show charged.opened.fields = budget.fields
                rw [same]
              rw [kept, List.count_cons_of_ne (by decide)]
      | closing =>
          rw [← Option.some.inj first, List.count_cons_of_ne (by decide)]
          rfl

-- An anchor is charged for its members once, also when the typed reader has given it up.
theorem anchor_charged (sc done : Scanner) (parsed : ParsedSeal) (read : ParsedSeal.decode sc = .ok (parsed, done)) :
    ∃ text, Took sc text done ∧ done.budget.fields = sc.budget.fields + members text := by
  have met := seal_priced sc
  rw [read] at met
  generalize ParsedSeal.decode sc.opened = free at met
  cases met with
  | pays _ _ text took _ bill => exact ⟨text, took, pay_fields _ _ _ bill⟩

end Exact

example : members (asBytes "\x7b\"a\":[1,\x7b\x7d],\"b\":\"x:\x7b\"\x7d") = 2 ∧ deepest (asBytes "\x7b\"a\":[1,\x7b\x7d]\x7d") = 3 := by
  decide

-- The limits refuse exactly the bodies that have more members or nest deeper,
-- whichever reader they are for, and an anchor is charged for its members once.
theorem json_budget_exact (library : KeyLibrary) :
    (LimitsExact (deserializeEvent library) ∧ LimitsExact (deserializeInception library) ∧ LimitsExact (deserializeRotation library) ∧
        LimitsExact (deserializeInteraction library) ∧ LimitsExact (deserializeDelegatedInception library) ∧
        LimitsExact (deserializeDelegatedRotation library)) ∧
      LimitsExact (deserializeTel library) ∧ LimitsExact deserializeReceipt ∧ LimitsExact (deserializeAcdc library) ∧
      LimitsExact (deserializeExn library) ∧
      ∀ sc done parsed, ParsedSeal.decode sc = .ok (parsed, done) →
        ∃ text, Took sc text done ∧ done.budget.fields = sc.budget.fields + members text := by
  refine ⟨⟨?_, ?_, ?_, ?_, ?_, ?_⟩, ?_, ?_, ?_, ?_, fun sc done parsed read => anchor_charged sc done parsed read⟩
  all_goals apply limits_exact
  · exact finished_metered _ (liftEvent library) event_scan_priced event_scan_finishes
  · exact finished_metered _ (liftInception library) (typed_body_priced "icp" _ icp_body_priced) (typed_body_finishes _ _ icp_body_finishes)
  · exact finished_metered _ (liftRotation library) (typed_body_priced "rot" _ rot_body_priced) (typed_body_finishes _ _ rot_body_finishes)
  · exact finished_metered _ (liftInteraction library) (typed_body_priced "ixn" _ ixn_body_priced)
      (typed_body_finishes _ _ ixn_body_finishes)
  · exact finished_metered _ (liftDelegatedInception library) (typed_body_priced "dip" _ dip_body_priced)
      (typed_body_finishes _ _ dip_body_finishes)
  · exact finished_metered _ (liftDelegatedRotation library) (typed_body_priced "drt" _ rot_body_priced)
      (typed_body_finishes _ _ rot_body_finishes)
  · exact finished_metered _ (liftTel library) tel_scan_priced tel_scan_finishes
  · exact finished_metered _ (fun _ => buildReceipt) (typed_body_priced "rct" _ rct_body_priced) (typed_body_finishes _ _ rct_body_finishes)
  · refine enclosed_metered _ (liftAcdc library) acdc_scan_priced acdc_scan_encloses fun raw parsed value lifted => ?_
    simp only [liftAcdc, bind_ok] at lifted
    obtain ⟨code, _, codes, built, sad, verified, _⟩ := lifted
    exact verified_object library _ "d" code codes raw sad built verified
  · refine enclosed_metered _ (liftExn library) exn_scan_priced exn_scan_encloses fun raw parsed value lifted => ?_
    simp only [liftExn, bind_ok] at lifted
    obtain ⟨code, _, codes, built, sad, verified, _⟩ := lifted
    exact verified_object library _ "d" code codes raw sad built verified

end Cesr.Codec
