import Cesr.Codec.Acdc
import Cesr.Keri.CredentialVerifier

set_option autoImplicit false

namespace Cesr.Keri

open Checks Calls

section Walk

variable (codec : CredentialCodec) (chain : List ChainCredential) (limits : CredentialVerificationLimits)

structure Conforms (schema : VerifiedSchema) (evidence : CredentialEvidence) (credential : Acdc) : Prop where
  bounded : evidence.raw.length ≤ 1048576 ∧ limits.json.maxDepth ≤ 128
  read : codec.deserialize evidence.raw limits.json = some credential
  named : credential.schema = .said schema.said
  aggregated : credential.aggregateAttributes = none
  disclosed : ∃ payload, credential.attributes = some (.block payload)
  valid : ∃ value, codec.fromSlice evidence.raw = some value ∧ schema.validates value = true

def Validated (evidence : CredentialEvidence) (credential : Acdc) : Prop :=
  ∃ schema, evidence.schema = some schema ∧ Conforms codec limits schema evidence credential

def EdgeBlock (credential : Acdc) (fields : List (String × Json)) : Prop :=
  ∃ payload, credential.edges = some (.block payload) ∧ codec.fromStr payload = some (.object fields)

-- The block's own said and operator are no edges.
def Cites (credential : Acdc) (label : String) (edge : Json) : Prop :=
  ∃ fields, EdgeBlock codec credential fields ∧ (label, edge) ∈ fields ∧ label ≠ "d" ∧ label ≠ "o"

def NamesTarget (edge : Json) (target : String) : Prop := edge.get "n" = some (.string target)

def Operated (edge : Json) (operator : String) : Prop := edge.get "o" = some (.string operator)

def Issuee (credential : Acdc) (issuee : String) : Prop :=
  ∃ payload data, credential.attributes = some (.block payload) ∧ codec.fromStr payload = some data ∧
    data.get "i" = some (.string issuee)

def Supplies (target : String) (evidence : CredentialEvidence) : Prop :=
  (chain.filter fun candidate => candidate.said = target) = [⟨target, evidence⟩]

inductive Route : CredentialEvidence → List String → CredentialEvidence → Acdc → Prop where
  | here (evidence : CredentialEvidence) (credential : Acdc) (validated : Validated codec limits evidence credential) :
      Route evidence [] evidence credential
  | along (evidence : CredentialEvidence) (credential : Acdc) (label : String) (edge : Json) (target : String)
      (next : CredentialEvidence) (names : List String) (last : CredentialEvidence) (final : Acdc)
      (validated : Validated codec limits evidence credential) (cited : Cites codec credential label edge)
      (named : NamesTarget edge target) (supplied : Supplies chain target next) (later : Route next names last final) :
      Route evidence (target :: names) last final

def RulesEmpty (credential : Acdc) : Prop :=
  credential.rules = none ∨ ∃ payload, credential.rules = some (.block payload) ∧ codec.fromStr payload = some (.object [])

structure IssuedUnder (evidence : CredentialEvidence) (credential : Acdc) : Prop where
  accepted : ∃ registry state issuer, evidence.registry = some registry ∧ evidence.credentialState = some state ∧
    evidence.issuerState = some issuer ∧ credential.registry = some (.said registry.id) ∧ credential.issuer = registry.issuer ∧
    issuer.pfx = credential.issuer ∧ state.registry = registry.id ∧ state.credential = credential.said ∧ state.status = .issued

-- A name and at most one of two operators, and nothing else.
structure EdgeFormed (edge : Json) (target : String) : Prop where
  members : ∃ fields, edge = .object fields ∧ ∀ field ∈ fields, field.1 = "n" ∨ field.1 = "o"
  named : NamesTarget edge target
  operator : edge.get "o" = none ∨ Operated edge "I2I" ∨ Operated edge "NI2I"

-- An edge without an operator binds only a credential that has an issuee.
structure HolderBound (credential : Acdc) (edge : Json) (cited : Acdc) : Prop where
  stated : Operated edge "I2I" → ∃ issuer, credential.issuer.toQb64 = some issuer ∧ Issuee codec cited issuer
  default : edge.get "o" = none → ∀ issuee, Issuee codec cited issuee → credential.issuer.toQb64 = some issuee

structure EdgeSound (credential : Acdc) (edge : Json) (target : String) (next : CredentialEvidence) (cited : Acdc) : Prop where
  formed : EdgeFormed edge target
  supplied : Supplies chain target next
  validated : Validated codec limits next cited
  said : cited.said.toQb64 = some target
  holder : HolderBound codec credential edge cited

structure NodeSound (evidence : CredentialEvidence) (credential : Acdc) : Prop where
  validated : Validated codec limits evidence credential
  rules : RulesEmpty codec credential
  issued : IssuedUnder evidence credential
  inline : credential.edges = none ∨ ∃ fields, EdgeBlock codec credential fields
  edges : ∀ label edge, Cites codec credential label edge →
    ∃ target next cited, EdgeSound codec chain limits credential edge target next cited

theorem validate_credential_ok (schema : VerifiedSchema) (evidence : CredentialEvidence) (credential : Acdc)
    (passed : schema.validateCredential codec evidence.raw limits.json = .ok credential) :
    Conforms codec limits schema evidence credential := by
  simp only [VerifiedSchema.validateCredential, bind_ok, present_ok, reject_if_ok, exists_done, pure_ok, not_or,
    Nat.not_lt, Bool.not_eq_false] at passed
  obtain ⟨bounded, given, read, named, disclosed, value, parsed, valid, same⟩ := passed
  rw [same] at read named disclosed
  refine ⟨bounded, read, ?_, ?_, ?_, value, parsed, valid⟩
  · unfold checkSchemaField at named
    split at named
    · rename_i said field
      rw [field, not_not.mp ((reject_if_ok _ _ _).mp named)]
    · cases named
  · rw [disclosesBlock, Bool.and_eq_true] at disclosed
    exact Option.isNone_iff_eq_none.mp disclosed.1
  · rw [disclosesBlock, Bool.and_eq_true] at disclosed
    have shown := disclosed.2
    split at shown
    · rename_i payload field
      exact ⟨payload, field⟩
    · cases shown

theorem status_ok (evidence : CredentialEvidence) (credential : Acdc)
    (passed : CredentialVerifier.status credential evidence.registry evidence.credentialState evidence.issuerState = .ok ()) :
    IssuedUnder evidence credential := by
  simp only [CredentialVerifier.status, bind_ok, present_ok] at passed
  obtain ⟨registry, hasRegistry, state, hasState, issuer, hasIssuer, rest⟩ := passed
  split at rest
  · rename_i said named
    simp only [bind_ok, reject_if_ok, exists_done, not_not, not_or] at rest
    obtain ⟨reference, issued, kept, ⟨home, subject⟩, live⟩ := rest
    refine ⟨registry, state, issuer, hasRegistry, hasState, hasIssuer, by rw [named, reference], issued, kept, home, subject, ?_⟩
    unfold CredentialState.status at live ⊢
    split at live
    · rename_i first
      rw [if_pos first]
    · exact absurd rfl live
  · cases rest

theorem check_rules_ok (credential : Acdc) (passed : checkRules codec credential = .ok ()) : RulesEmpty codec credential := by
  unfold checkRules at passed
  split at passed
  · rename_i absent
    exact .inl absent
  · cases passed
  · rename_i payload given
    simp only [bind_ok, present_ok, reject_if_ok] at passed
    obtain ⟨value, parsed, empty⟩ := passed
    refine .inr ⟨payload, given, ?_⟩
    cases value with
    | object fields =>
        simp only [Json.asObject, Option.any_some, Bool.not_eq_false, List.isEmpty_iff] at empty
        rw [parsed, empty]
    | _ => simp [Json.asObject] at empty

theorem find_node_ok (target : String) (evidence : CredentialEvidence) (found : findNode chain target = .ok evidence) :
    Supplies chain target evidence := by
  unfold findNode at found
  unfold Supplies
  split at found
  · cases found
  · rename_i node only
    have inside : node ∈ chain.filter fun candidate => candidate.said = target := by
      rw [only]
      exact List.mem_singleton_self node
    have named := of_decide_eq_true (List.mem_filter.mp inside).2
    rw [only, ← Except.ok.inj found, ← named]
  · cases found

@[simp] theorem as_object_some (value : Json) (fields : List (String × Json)) :
    value.asObject = some fields ↔ value = .object fields := by
  cases value <;> simp [Json.asObject]

@[simp] theorem as_str_some (value : Json) (text : String) : value.asStr = some text ↔ value = .string text := by
  cases value <;> simp [Json.asStr]

theorem bind_as_str_some (value : Option Json) (text : String) :
    value.bind Json.asStr = some text ↔ value = some (.string text) := by
  cases value <;> simp

theorem edge_map_ok (edges : AcdcField) (fields : List (String × Json)) (mapped : edgeMap codec edges = .ok fields) :
    ∃ payload, edges = .block payload ∧ codec.fromStr payload = some (.object fields) := by
  cases edges with
  | said said => cases mapped
  | block payload =>
      simp only [edgeMap, bind_ok, present_ok, exists_done, pure_ok, as_object_some] at mapped
      obtain ⟨value, parsed, members, object, _, same⟩ := mapped
      rw [object, same] at parsed
      exact ⟨payload, rfl, parsed⟩

def EdgeOperator.text : EdgeOperator → String
  | .i2i => "I2I"
  | .ni2i => "NI2I"

theorem read_operator_ok (value : Option Json) (operator : Option EdgeOperator) (read : readOperator value = .ok operator) :
    value = operator.map fun given => .string given.text := by
  unfold readOperator at read
  split at read
  · rw [← Except.ok.inj read]
    rfl
  · rename_i operation
    split at read
    · rename_i same
      rw [← Except.ok.inj read, same]
      rfl
    · split at read
      · rename_i same
        rw [← Except.ok.inj read, same]
        rfl
      · cases read
  · cases read

theorem read_link_ok (edge : Json) (link : Link) (read : readLink edge = .ok link) :
    EdgeFormed edge link.target ∧ edge.get "o" = link.operator.map fun given => .string given.text := by
  simp only [readLink, bind_ok, present_ok, reject_if_ok, exists_done, pure_ok, as_object_some, bind_as_str_some, not_or,
    Bool.not_eq_true, List.any_eq_false, decide_eq_true_eq, not_and, not_not] at read
  obtain ⟨fields, object, ⟨_, only⟩, target, named, _, operator, operated, same⟩ := read
  have kept := read_operator_ok (edge.get "o") operator operated
  rw [← same]
  refine ⟨⟨⟨fields, object, ?_⟩, named, ?_⟩, kept⟩
  · intro field inside
    by_cases first : field.1 = "n"
    · exact .inl first
    · exact .inr (only field inside first)
  · cases operator with
    | none => exact .inl kept
    | some given =>
        cases given with
        | i2i => exact .inr (.inl kept)
        | ni2i => exact .inr (.inr kept)

theorem attribute_issuee_ok (cited : Acdc) (issuee : Option String) (given : attributeIssuee codec cited = .ok issuee)
    (text : String) : Issuee codec cited text ↔ issuee = some text := by
  unfold attributeIssuee at given
  split at given
  · rename_i payload block
    simp only [bind_ok, present_ok, pure_ok] at given
    obtain ⟨data, parsed, same⟩ := given
    rw [← same, bind_as_str_some]
    apply Iff.intro
    · rintro ⟨other, value, attributes, read, named⟩
      rw [block] at attributes
      rw [← AcdcField.block.inj (Option.some.inj attributes), parsed] at read
      rw [Option.some.inj read]
      exact named
    · intro named
      exact ⟨payload, data, block, parsed, named⟩
  · rename_i open'
    rw [← Except.ok.inj given]
    apply Iff.intro
    · rintro ⟨payload, _, attributes, _⟩
      exact absurd attributes (open' payload)
    · intro absent
      cases absent

theorem check_issuee_ok (credential cited : Acdc) (edge : Json) (operator : Option EdgeOperator) (issuee : Option String)
    (operated : edge.get "o" = operator.map fun given => .string given.text)
    (given : attributeIssuee codec cited = .ok issuee) (passed : checkIssuee credential operator issuee = .ok ()) :
    HolderBound codec credential edge cited := by
  have issued : needsI2i operator issuee → ∃ issuer, credential.issuer.toQb64 = some issuer ∧ issuee = some issuer := by
    intro needed
    unfold checkIssuee at passed
    rw [if_pos needed] at passed
    simp only [bind_ok, present_ok, reject_if_ok, not_not] at passed
    exact passed
  apply HolderBound.mk
  · intro stated
    have i2i : operator = some .i2i := by
      rw [Operated, operated] at stated
      cases operator with
      | none => cases stated
      | some other =>
          cases other with
          | i2i => rfl
          | ni2i => exact absurd (Json.string.inj (Option.some.inj stated)) (by decide)
    obtain ⟨issuer, named, same⟩ := issued (.inl i2i)
    exact ⟨issuer, named, (attribute_issuee_ok codec cited issuee given issuer).mpr same⟩
  · intro default holder held
    have some' := (attribute_issuee_ok codec cited issuee given holder).mp held
    have none' : operator = none := by
      rw [operated] at default
      exact Option.map_eq_none_iff.mp default
    obtain ⟨issuer, named, same⟩ := issued (.inr ⟨none', by rw [some']; rfl⟩)
    rw [some'] at same
    rw [named, Option.some.inj same]

@[simp] theorem failing_ok {α : Type} (given : Except CredentialVerificationError α) (value : α) :
    failing given = .ok value ↔ given = .ok value := map_error_ok given _ value

def Visits (visit : CredentialEvidence → Option String → Walking Acdc) (path : List String) (evidence : CredentialEvidence)
    (claimed : Option String) (credential : Acdc) : Prop :=
  ∃ walk final, walk.path = path ∧ exec (visit evidence claimed) walk = (.ok credential, final)

def Tidy (visit : CredentialEvidence → Option String → Walking Acdc) : Prop :=
  ∀ evidence claimed walk credential final, exec (visit evidence claimed) walk = (.ok credential, final) →
    walk.visited ≤ limits.maxNodes → final.path = walk.path ∧ final.visited ≤ limits.maxNodes

section Edges

variable (visit : CredentialEvidence → Option String → Walking Acdc) (credential : Acdc)

theorem exec_follow_edge_ok (edge : Json) (walk final : VerificationWalk) :
    exec (followEdge codec chain visit credential edge) walk = (.ok (), final) ↔
      ∃ link evidence parsed issuee, readLink edge = .ok link ∧ link.target ∉ walk.path ∧
        findNode chain link.target = .ok evidence ∧ exec (visit evidence (some link.target)) walk = (.ok parsed, final) ∧
        attributeIssuee codec parsed = .ok issuee ∧ checkIssuee credential link.operator issuee = .ok () := by
  simp only [followEdge, exec_check_bind_ok, exec_get_bind, failing_ok, reject_if_ok, exists_done]
  apply Iff.intro
  · rintro ⟨link, read, absent, evidence, found, later⟩
    rw [exec_bind_ok] at later
    obtain ⟨parsed, middle, visited, rest⟩ := later
    rw [exec_check_bind_ok] at rest
    obtain ⟨issuee, given, passed⟩ := rest
    rw [exec_check] at passed
    rw [(Prod.mk.inj passed).2] at visited
    exact ⟨link, evidence, parsed, issuee, read, absent, found, visited, (failing_ok _ issuee).mp given,
      (Prod.mk.inj passed).1⟩
  · rintro ⟨link, evidence, parsed, issuee, read, absent, found, visited, given, passed⟩
    refine ⟨link, read, absent, evidence, found, (exec_bind_ok _ _ _ _ _).mpr ⟨parsed, final, visited, ?_⟩⟩
    rw [exec_check_bind_ok]
    exact ⟨issuee, (failing_ok _ issuee).mpr given, by rw [exec_check, passed]⟩

theorem follow_edge_ok (edge : Json) (walk final : VerificationWalk)
    (done : exec (followEdge codec chain visit credential edge) walk = (.ok (), final)) :
    ∃ target evidence parsed, EdgeFormed edge target ∧ target ∉ walk.path ∧ Supplies chain target evidence ∧
      exec (visit evidence (some target)) walk = (.ok parsed, final) ∧ HolderBound codec credential edge parsed := by
  obtain ⟨link, evidence, parsed, issuee, read, absent, found, visited, given, passed⟩ :=
    (exec_follow_edge_ok codec chain visit credential edge walk final).mp done
  obtain ⟨formed, operated⟩ := read_link_ok edge link read
  exact ⟨link.target, evidence, parsed, formed, absent, find_node_ok chain _ _ found, visited,
    check_issuee_ok codec credential parsed edge link.operator issuee operated given passed⟩

def Followed (path : List String) (edge : Json) : Prop :=
  ∃ target evidence parsed, EdgeFormed edge target ∧ target ∉ path ∧ Supplies chain target evidence ∧
    Visits visit path evidence (some target) parsed ∧ HolderBound codec credential edge parsed

theorem follow_edges_ok (tidy : Tidy limits visit) (fields : List (String × Json)) (walk final : VerificationWalk)
    (within : walk.visited ≤ limits.maxNodes)
    (done : exec (followEdges codec chain visit credential fields) walk = (.ok (), final)) :
    final.path = walk.path ∧ final.visited ≤ limits.maxNodes ∧
      ∀ label edge, (label, edge) ∈ fields → label ≠ "d" → label ≠ "o" →
        Followed codec chain visit credential walk.path edge := by
  induction fields generalizing walk with
  | nil =>
      cases done
      exact ⟨rfl, within, fun _ _ inside => absurd inside List.not_mem_nil⟩
  | cons field rest ih =>
      obtain ⟨label, edge⟩ := field
      unfold followEdges at done
      split at done
      · rename_i skipped
        obtain ⟨path, bound, each⟩ := ih walk within done
        refine ⟨path, bound, ?_⟩
        intro name other inside plain open'
        rcases List.mem_cons.mp inside with same | later
        · rw [(Prod.mk.inj same).1] at plain open'
          exact absurd skipped (not_or.mpr ⟨plain, open'⟩)
        · exact each name other later plain open'
      · rw [exec_bind_ok] at done
        obtain ⟨_, middle, first, later⟩ := done
        obtain ⟨target, evidence, parsed, formed, absent, supplied, visited, bound⟩ :=
          follow_edge_ok codec chain visit credential edge walk middle first
        obtain ⟨path, held⟩ := tidy evidence _ walk parsed middle visited within
        obtain ⟨restPath, restBound, each⟩ := ih middle held later
        rw [path] at restPath each
        refine ⟨restPath, restBound, ?_⟩
        intro name other inside plain open'
        rcases List.mem_cons.mp inside with same | later
        · rw [(Prod.mk.inj same).2]
          exact ⟨target, evidence, parsed, formed, absent, supplied, ⟨walk, middle, rfl, visited⟩, bound⟩
        · exact each name other later plain open'

theorem walk_edges_ok (tidy : Tidy limits visit) (walk final : VerificationWalk) (within : walk.visited ≤ limits.maxNodes)
    (done : exec (walkEdges codec chain visit credential) walk = (.ok (), final)) :
    final.path = walk.path ∧ final.visited ≤ limits.maxNodes ∧
      (credential.edges = none ∨ ∃ fields, EdgeBlock codec credential fields) ∧
      ∀ label edge, Cites codec credential label edge → Followed codec chain visit credential walk.path edge := by
  unfold walkEdges at done
  split at done
  · rename_i absent
    cases done
    refine ⟨rfl, within, .inl absent, ?_⟩
    rintro label edge ⟨fields, ⟨payload, given, _⟩, _⟩
    rw [absent] at given
    cases given
  · rename_i edges given
    simp only [exec_check_bind_ok, failing_ok] at done
    obtain ⟨fields, mapped, followed⟩ := done
    obtain ⟨payload, block, parsed⟩ := edge_map_ok codec edges fields mapped
    rw [block] at given
    obtain ⟨path, bound, each⟩ := follow_edges_ok codec chain limits visit credential tidy fields walk final within followed
    refine ⟨path, bound, .inr ⟨fields, payload, given, parsed⟩, ?_⟩
    rintro label edge ⟨others, ⟨other, carried, read⟩, inside, plain, open'⟩
    rw [given] at carried
    rw [← AcdcField.block.inj (Option.some.inj carried), parsed] at read
    rw [← Json.object.inj (Option.some.inj read)] at inside
    exact each label edge inside plain open'

end Edges

structure NodeVisited (room : Nat) (evidence : CredentialEvidence) (claimed : Option String) (walk final : VerificationWalk)
    (credential : Acdc) (said : String) : Prop where
  counted : walk.visited < limits.maxNodes
  validated : Validated codec limits evidence credential
  named : credential.said.toQb64 = some said
  claims : ∀ name, claimed = some name → name = said
  fresh : said ∉ walk.path
  rules : RulesEmpty codec credential
  issued : IssuedUnder evidence credential
  edges : ∃ below, exec (walkEdges codec chain (node codec chain limits room) credential)
    ⟨walk.path ++ [said], walk.visited + 1⟩ = (.ok (), below) ∧ final = { below with path := below.path.dropLast }

theorem exec_node_ok (room : Nat) (evidence : CredentialEvidence) (claimed : Option String) (walk final : VerificationWalk)
    (credential : Acdc) :
    exec (node codec chain limits (room + 1) evidence claimed) walk = (.ok credential, final) ↔
      (walk.visited < limits.maxNodes ∧ evidence.raw.length ≤ limits.maxDocumentBytes) ∧
        ∃ schema said below, evidence.schema = some schema ∧
          schema.validateCredential codec evidence.raw limits.json = .ok credential ∧ credential.said.toQb64 = some said ∧
          ¬claimed.any (· ≠ said) = true ∧ said ∉ walk.path ∧ checkRules codec credential = .ok () ∧
          CredentialVerifier.status credential evidence.registry evidence.credentialState evidence.issuerState = .ok () ∧
          exec (walkEdges codec chain (node codec chain limits room) credential) ⟨walk.path ++ [said], walk.visited + 1⟩ =
            (.ok (), below) ∧
          final = { below with path := below.path.dropLast } := by
  simp only [node, exec_get_bind, exec_check_bind_ok, exec_modify_bind, exec_attempt_bind, exec_pure, reject_if_ok,
    exists_done, present_ok, map_error_ok, failing_ok, not_or, Nat.not_le, Nat.not_lt]
  apply Iff.intro
  · rintro ⟨bounded, schema, given, parsed, validated, said, named, claims, fresh, rules, status, followed, same⟩
    have answer := Except.ok.inj (Prod.mk.inj same).1
    have state := (Prod.mk.inj same).2
    rw [answer] at validated named rules status followed state
    exact ⟨bounded, schema, said, _, given, validated, named, claims, fresh, rules, status, Prod.ext followed rfl, state.symm⟩
  · rintro ⟨bounded, schema, said, below, given, validated, named, claims, fresh, rules, status, followed, same⟩
    refine ⟨bounded, schema, given, credential, validated, said, named, claims, fresh, rules, status, ?_⟩
    rw [followed, same]
    exact ⟨rfl, rfl⟩

theorem node_ok (room : Nat) (evidence : CredentialEvidence) (claimed : Option String) (walk final : VerificationWalk)
    (credential : Acdc) (done : exec (node codec chain limits room evidence claimed) walk = (.ok credential, final)) :
    ∃ below said, room = below + 1 ∧ NodeVisited codec chain limits below evidence claimed walk final credential said := by
  cases room with
  | zero => cases done
  | succ below =>
      obtain ⟨⟨counted, _⟩, schema, said, after, given, validated, named, claims, fresh, rules, status, followed, same⟩ :=
        (exec_node_ok codec chain limits below evidence claimed walk final credential).mp done
      have conforms := validate_credential_ok codec limits schema evidence credential validated
      refine ⟨below, said, rfl, counted, ⟨schema, given, conforms⟩, named, ?_, fresh, check_rules_ok codec credential rules,
        status_ok evidence credential status, after, followed, same⟩
      intro name claim
      rw [claim] at claims
      simpa using claims

theorem node_tidy (room : Nat) : Tidy limits (node codec chain limits room) := by
  induction room with
  | zero =>
      intro evidence claimed walk credential final done _
      cases done
  | succ room ih =>
      intro evidence claimed walk credential final done _
      obtain ⟨below, said, same, visited⟩ := node_ok codec chain limits _ evidence claimed walk final credential done
      obtain ⟨after, followed, shape⟩ := visited.edges
      rw [← Nat.succ.inj same] at followed
      obtain ⟨path, bound, _⟩ :=
        walk_edges_ok codec chain limits _ credential ih ⟨walk.path ++ [said], walk.visited + 1⟩ after visited.counted followed
      rw [shape]
      exact ⟨by rw [path]; exact List.dropLast_concat, bound⟩

theorem validated_unique (evidence : CredentialEvidence) (credential other : Acdc)
    (first : Validated codec limits evidence credential) (second : Validated codec limits evidence other) : credential = other := by
  obtain ⟨_, _, conforms⟩ := first
  obtain ⟨_, _, repeated⟩ := second
  exact Option.some.inj (conforms.read.symm.trans repeated.read)

theorem supplies_unique (target : String) (evidence other : CredentialEvidence) (first : Supplies chain target evidence)
    (second : Supplies chain target other) : evidence = other := by
  unfold Supplies at first second
  rw [first] at second
  exact congrArg ChainCredential.evidence (List.singleton_inj.mp second)

structure NodeWalked (room : Nat) (evidence : CredentialEvidence) (claimed : Option String) (path : List String)
    (credential : Acdc) (said : String) : Prop where
  named : credential.said.toQb64 = some said
  claims : ∀ name, claimed = some name → name = said
  validated : Validated codec limits evidence credential
  reached : ∀ names last final, Route codec chain limits evidence names last final →
    names.length < room ∧ (path ++ said :: names).Nodup ∧ NodeSound codec chain limits last final

-- The recursion is on the room, as in the walk; the path of a node below is the
-- path of the node with its own name pushed.
theorem node_walked (room : Nat) (evidence : CredentialEvidence) (claimed : Option String) (walk final : VerificationWalk)
    (credential : Acdc) (done : exec (node codec chain limits room evidence claimed) walk = (.ok credential, final))
    (simple : walk.path.Nodup) :
    ∃ said, NodeWalked codec chain limits room evidence claimed walk.path credential said := by
  induction room generalizing evidence claimed walk final credential with
  | zero => cases done
  | succ room ih =>
      obtain ⟨below, said, same, visited⟩ := node_ok codec chain limits _ evidence claimed walk final credential done
      obtain ⟨after, followed, _⟩ := visited.edges
      rw [← Nat.succ.inj same] at followed
      obtain ⟨_, _, inline, each⟩ := walk_edges_ok codec chain limits _ credential (node_tidy codec chain limits room)
        ⟨walk.path ++ [said], walk.visited + 1⟩ after visited.counted followed
      have pushed : (walk.path ++ [said]).Nodup :=
        List.nodup_append.mpr ⟨simple, List.nodup_singleton said, by
          intro name inside other single equal
          rw [equal, List.mem_singleton.mp single] at inside
          exact visited.fresh inside⟩
      refine ⟨said, visited.named, visited.claims, visited.validated, ?_⟩
      intro names last reached route
      cases route with
      | here _ _ validated =>
          rw [← validated_unique codec limits evidence credential reached visited.validated validated]
          refine ⟨Nat.succ_pos room, pushed, visited.validated, visited.rules, visited.issued, inline, ?_⟩
          intro label edge cited
          obtain ⟨target, next, parsed, formed, _, supplied, ⟨start, stop, path, entered⟩, bound⟩ := each label edge cited
          obtain ⟨name, walked⟩ := ih next _ start stop parsed entered (by rw [path]; exact pushed)
          have own : parsed.said.toQb64 = some target := by
            rw [walked.claims target rfl]
            exact walked.named
          exact ⟨target, next, parsed, formed, supplied, walked.validated, own, bound⟩
      | along _ citing label edge target next rest _ _ validated cited named supplied later =>
          rw [← validated_unique codec limits evidence credential citing visited.validated validated] at cited
          obtain ⟨target', next', parsed, formed, _, supplied', ⟨start, stop, path, entered⟩, _⟩ := each label edge cited
          have again := Option.some.inj (formed.named.symm.trans named)
          rw [Json.string.inj again] at supplied' entered
          rw [← supplies_unique chain _ next next' supplied supplied'] at entered
          obtain ⟨name, walked⟩ := ih next _ start stop parsed entered (by rw [path]; exact pushed)
          obtain ⟨short, distinct, sound⟩ := walked.reached rest last reached later
          rw [path, ← walked.claims target rfl, List.append_assoc] at distinct
          exact ⟨Nat.succ_lt_succ short, distinct, sound⟩

-- The graph below a root: every credential in it is sound, and every way to it
-- is short and never passes a name twice, the root's own included.
structure ChainSound (root : CredentialEvidence) (said : String) : Prop where
  sound : ∀ names last final, Route codec chain limits root names last final → NodeSound codec chain limits last final
  short : ∀ names last final, Route codec chain limits root names last final → names.length ≤ limits.maxChainDepth
  acyclic : ∀ names last final, Route codec chain limits root names last final → (said :: names).Nodup

theorem credential_verify_sound (root : CredentialEvidence) (credential : Acdc) (walk : VerificationWalk)
    (verified : CredentialVerifier.verify codec chain limits root = (.ok credential, walk)) :
    walk.visited ≤ limits.maxNodes ∧ walk.path = [] ∧ Validated codec limits root credential ∧
      ∃ said, credential.said.toQb64 = some said ∧ ChainSound codec chain limits root said := by
  unfold CredentialVerifier.verify at verified
  split at verified
  · cases verified
  · obtain ⟨path, bound⟩ := node_tidy codec chain limits _ root none ⟨[], 0⟩ credential walk verified (Nat.zero_le _)
    obtain ⟨said, walked⟩ := node_walked codec chain limits _ root none ⟨[], 0⟩ walk credential verified List.nodup_nil
    refine ⟨bound, path, walked.validated, said, walked.named, ?_, ?_, ?_⟩
    · intro names last final route
      exact (walked.reached names last final route).2.2
    · intro names last final route
      exact Nat.le_of_lt_succ (walked.reached names last final route).1
    · intro names last final route
      exact (walked.reached names last final route).2.1

end Walk

namespace CredentialSample

-- The credentials of the repository's corpus: one issued to the holder, and one
-- that the holder issues and chains to it.
def issuer : String := "ECltvnQDY1L-6_eyUXErNh5GGao2Sv3zKgsqwUhs9mDj"

def holder : String := "EKqVgt8ZR9qm-cGEzooIC0-35PtXqpdmZYtTNdcfPYbU"

def schemaSaid : String := "EHNZsYqwgzPOzfKSCMwQqV967K7t43WVRvPr_5j2GtIM"

def cited : String := "EFxZtT2UkuCelBV-lChNeNCpKtcEU67Lf55400ULbF55"

def citing : String := "EDfXR2oB2GTI2sMnSXr1VF2SOpB6YL697hv-csYvw2aw"

def issuerRegistry : String := "EIvQktQeeP5fRFeYjNW_n9QIaM5ZYXVmLRrG_iZrr-g_"

def holderRegistry : String := "EOlqLySkybjq8GIFLm1GiUkXesnwtJWWVLxuOj9CfqWM"

def attributesSaid : String := "ECyEzZu6sVljbmQIdaz3PrsJ_dfPvIkevopZjuCzL4eY"

def attributes : String :=
  "\x7b\"d\":\"" ++ attributesSaid ++ "\",\"i\":\"" ++ holder ++
    "\",\"dt\":\"2026-10-01T00:00:00.000000+00:00\",\"title\":\"Engineer\"\x7d"

def edges : String := "\x7b\"d\":\"\",\"qualification\":\x7b\"n\":\"" ++ cited ++ "\",\"o\":\"I2I\"\x7d\x7d"

def document (version said issuer registry behind : String) : Bytes :=
  asBytes ("\x7b\"v\":\"" ++ version ++ "\",\"d\":\"" ++ said ++ "\",\"i\":\"" ++ issuer ++ "\",\"ri\":\"" ++ registry ++
    "\",\"s\":\"" ++ schemaSaid ++ "\",\"a\":" ++ attributes ++ behind ++ "\x7d")

def citedRaw : Bytes := document "ACDC10JSON00018d_" cited issuer issuerRegistry ""

def citingRaw : Bytes := document "ACDC10JSON0001e9_" citing holder holderRegistry (",\"e\":" ++ edges)

def attributesJson : Json :=
  .object [("d", .string attributesSaid), ("i", .string holder), ("dt", .string "2026-10-01T00:00:00.000000+00:00"),
    ("title", .string "Engineer")]

def edgeJson : Json := .object [("n", .string cited), ("o", .string "I2I")]

def edgesJson : Json := .object [("d", .string ""), ("qualification", edgeJson)]

def documentJson (version said issuer registry : String) (behind : List (String × Json)) : Json :=
  .object ([("v", .string version), ("d", .string said), ("i", .string issuer), ("ri", .string registry),
    ("s", .string schemaSaid), ("a", attributesJson)] ++ behind)

-- The BLAKE3 digests of the two credentials and of their attributes.
def digestBytes (data : Bytes) : Bytes :=
  if data.length = 397 then
    [92, 89, 181, 61, 148, 146, 224, 158, 148, 21, 126, 148, 40, 77, 120, 208, 169, 42, 215, 4, 83, 174, 203, 127, 158, 120, 211, 69,
      11, 108, 94, 121]
  else if data.length = 489 then
    [55, 215, 71, 106, 1, 216, 100, 200, 218, 195, 39, 73, 122, 245, 84, 93, 146, 58, 144, 122, 96, 190, 189, 238, 27, 254, 114, 198,
      47, 195, 102, 176]
  else
    [44, 132, 205, 155, 186, 177, 89, 99, 110, 100, 8, 117, 172, 247, 62, 187, 9, 253, 215, 207, 188, 137, 30, 190, 138, 89, 142, 224,
      179, 47, 135, 152]

theorem padded_length (seed : Array8 32) : (seed.val ++ List.replicate 32 0).length = 64 := by
  rw [List.length_append, seed.property, List.length_replicate]

-- Only the digests are asked for.
def library : KeyLibrary where
  argon2id _ _ _ _ := none
  verifyingKey seed := seed
  signBytes seed _ := ⟨seed.val ++ List.replicate 32 0, padded_length seed⟩
  hash _ data := digestBytes data

def texts : List (String × Json) := [(attributes, attributesJson), (edges, edgesJson)]

def citedJson : Json := documentJson "ACDC10JSON00018d_" cited issuer issuerRegistry []

def citingJson : Json := documentJson "ACDC10JSON0001e9_" citing holder holderRegistry [("e", edgesJson)]

def documents : List (Bytes × Json) := [(citedRaw, citedJson), (citingRaw, citingJson)]

def codec : CredentialCodec where
  fromStr text := texts.lookup text
  fromSlice raw := documents.lookup raw
  deserialize raw limits := (Codec.deserializeAcdc library raw (.ofLimits limits)).toOption

def saidOf (text : String) : Said := (Codec.saidFromWire "d" text).toOption.getD ⟨Sample.digest 0⟩

def verkeyOf (text : String) : VerifyingKey := (Codec.verifyingKeyFromWire "k" text).toOption.getD ⟨Sample.verkey 0⟩

def digestOf (text : String) : Digest := (Codec.digestFromWire "n" text).toOption.getD ⟨Sample.digest 0⟩

-- The state of a log that begins as the corpus has it.
def stateOf (pfx key next : String) : KeyState :=
  KeyState.seed
    { Sample.inception with
      pfx := .selfAddressing (saidOf pfx)
      said := saidOf pfx
      keys := [verkeyOf key]
      nextKeys := [digestOf next] }
    .transferable

def registryOf (said issuer : String) : RegistryState :=
  RegistryState.seed ⟨saidOf said, .selfAddressing (saidOf issuer), [.noBackers], ⟨0⟩, []⟩

def schema : VerifiedSchema where
  said := saidOf schemaSaid
  validates value :=
    (["v", "d", "i", "ri", "s"].all fun name => ((value.get name).bind Json.asStr).isSome) &&
      ["d", "i", "dt", "title"].all fun name => (((value.get "a").bind fun block => block.get name).bind Json.asStr).isSome

def citedEvidence : CredentialEvidence where
  raw := citedRaw
  schema := some schema
  registry := some (registryOf issuerRegistry issuer)
  credentialState :=
    some ⟨saidOf issuerRegistry, saidOf cited, Number.new 0, saidOf "EPYCX-3UkpgS1PXKKA93iekjmqPGxHlOYHNhoZZEyxE7"⟩
  issuerState :=
    some (stateOf issuer "DOss8Tv3rjpfYUFoofsJJy05dx7EuFI3J4FeRmyvjuFj" "EPaDvCnY7bZP6FDH-2oD8AtnTl3CraM70DDqj2gsVFQz")

def citingEvidence : CredentialEvidence where
  raw := citingRaw
  schema := some schema
  registry := some (registryOf holderRegistry holder)
  credentialState :=
    some ⟨saidOf holderRegistry, saidOf citing, Number.new 0, saidOf "EKNV_CUiWkc60wGCVvOQrlKNPDlQ6x_70RPB25bSjHvo"⟩
  issuerState :=
    some (stateOf holder "DKbSRV6jpXcaup_LA3kkEUyS-fMlBJ9rQmnnOdkEi7hp" "EPu2Yhahurn6bH0wwoUg6GHxxTGyjnuTwVPnOqJpAFMX")

def chain : List ChainCredential := [⟨cited, citedEvidence⟩]

def limits : CredentialVerificationLimits := ⟨⟨4096, 64⟩, 4096, 8, 4⟩

def citedCredential : Acdc where
  said := saidOf cited
  nonce := none
  issuer := .selfAddressing (saidOf issuer)
  registry := some (.said (saidOf issuerRegistry))
  schema := .said (saidOf schemaSaid)
  attributes := some (.block attributes)
  aggregateAttributes := none
  edges := none
  rules := none

def citingCredential : Acdc :=
  { citedCredential with
    said := saidOf citing
    issuer := .selfAddressing (saidOf holder)
    registry := some (.said (saidOf holderRegistry))
    edges := some (.block edges) }

def citedParsed : Codec.ParsedAcdc where
  said := cited
  nonce := none
  issuer := issuer
  registry := some (.said issuerRegistry)
  schema := .said schemaSaid
  attributes := some (.block (asBytes attributes))
  aggregateAttributes := none
  edges := none
  rules := none

def citingParsed : Codec.ParsedAcdc :=
  { citedParsed with
    said := citing
    issuer := holder
    registry := some (.said holderRegistry)
    edges := some (.block (asBytes edges)) }

def saidSlots : List (String × DigestCode) := [("d", .blake3_256)]

theorem said_slots_fit : saidSlots.length ≤ Codec.sadCodesMax := by decide

theorem said_slots_unreserved : ∀ slot ∈ saidSlots, slot.1 ≠ Codec.versionLabel := by decide

def saidCodes : Codec.SadCodes := ⟨saidSlots, said_slots_fit, said_slots_unreserved⟩

-- Evidence that the reader takes, stage by stage, and the standing of its credential.
structure Presented where
  evidence : CredentialEvidence
  value : Json
  parsed : Codec.ParsedAcdc
  credential : Acdc
  said : String
  given : evidence.schema = some schema
  bounded : evidence.raw.length ≤ limits.maxDocumentBytes
  sliced : documents.lookup evidence.raw = some value
  body : Codec.checkJsonBody evidence.raw = .ok ()
  scanned : Codec.ParsedAcdc.parse evidence.raw (.ofLimits limits.json) = .ok parsed
  coded : Codec.decode (Codec.inferDigestCode parsed.said) = .ok .blake3_256
  carried : (saidCodes.verify library evidence.raw).toOption.isSome = true
  nested : parsed.verifyNestedBlocks library = .ok ()
  built : Codec.buildAcdc parsed = .ok credential
  conforms : checkSchemaField schema credential.schema = .ok () ∧ disclosesBlock credential = true ∧ schema.validates value = true
  named : credential.said.toQb64 = some said
  unruled : credential.rules = none
  issued : CredentialVerifier.status credential evidence.registry evidence.credentialState evidence.issuerState = .ok ()

theorem presented_read (shown : Presented) : codec.deserialize shown.evidence.raw limits.json = some shown.credential := by
  have verified : ∃ sad, saidCodes.verify library shown.evidence.raw = .ok sad := by
    have carried := shown.carried
    cases found : saidCodes.verify library shown.evidence.raw with
    | error error =>
        rw [found] at carried
        cases carried
    | ok sad => exact ⟨sad, rfl⟩
  obtain ⟨sad, verified⟩ := verified
  have lifted : Codec.liftAcdc library shown.evidence.raw shown.parsed = .ok shown.credential := by
    simp only [Codec.liftAcdc, bind_ok, exists_done]
    exact ⟨.blake3_256, shown.coded, saidCodes, rfl, sad, verified, shown.nested, shown.built⟩
  have read : Codec.deserializeAcdc library shown.evidence.raw (.ofLimits limits.json) = .ok shown.credential := by
    simp only [Codec.deserializeAcdc, bind_ok, exists_done]
    exact ⟨shown.body, shown.parsed, shown.scanned, lifted⟩
  show (Codec.deserializeAcdc library shown.evidence.raw (.ofLimits limits.json)).toOption = some shown.credential
  rw [read]
  rfl

theorem presented_validated (shown : Presented) :
    schema.validateCredential codec shown.evidence.raw limits.json = .ok shown.credential := by
  have long : shown.evidence.raw.length ≤ 1048576 := Nat.le_trans shown.bounded (by decide)
  obtain ⟨field, disclosed, valid⟩ := shown.conforms
  simp only [VerifiedSchema.validateCredential, bind_ok, present_ok, reject_if_ok, exists_done, pure_ok, not_or,
    Nat.not_lt, Bool.not_eq_false]
  exact ⟨⟨long, by decide⟩, shown.credential, presented_read shown, field, disclosed, shown.value, shown.sliced, valid, rfl⟩

theorem presented_visited (shown : Presented) (nodes : List ChainCredential) (room : Nat) (claimed : Option String)
    (path : List String) (count final : Nat) (counted : count < 8) (claims : ¬claimed.any (· ≠ shown.said) = true)
    (fresh : shown.said ∉ path)
    (followed : exec (walkEdges codec nodes (node codec nodes limits room) shown.credential) ⟨path ++ [shown.said], count + 1⟩ =
      (.ok (), ⟨path ++ [shown.said], final⟩)) :
    exec (node codec nodes limits (room + 1) shown.evidence claimed) ⟨path, count⟩ = (.ok shown.credential, ⟨path, final⟩) := by
  have rules : checkRules codec shown.credential = .ok () := by
    rw [checkRules, shown.unruled]
  refine (exec_node_ok codec nodes limits room shown.evidence claimed _ _ _).mpr ⟨⟨counted, shown.bounded⟩, schema, shown.said,
    ⟨path ++ [shown.said], final⟩, shown.given, presented_validated shown, shown.named, claims, fresh, rules, shown.issued, followed, ?_⟩
  rw [List.dropLast_concat]

def citedPresented : Presented where
  evidence := citedEvidence
  value := citedJson
  parsed := citedParsed
  credential := citedCredential
  said := cited
  given := rfl
  bounded := by decide +kernel
  sliced := by
    show documents.lookup citedRaw = some citedJson
    rw [documents, List.lookup_cons, beq_self_eq_true]
  body := by decide +kernel
  scanned := by decide +kernel
  coded := by decide +kernel
  carried := by decide +kernel
  nested := by decide +kernel
  built := by decide +kernel
  conforms := by decide +kernel
  named := by decide +kernel
  unruled := rfl
  issued := by decide +kernel

def citingPresented : Presented where
  evidence := citingEvidence
  value := citingJson
  parsed := citingParsed
  credential := citingCredential
  said := citing
  given := rfl
  bounded := by decide +kernel
  sliced := by
    have other : (citingRaw == citedRaw) = false := by decide +kernel
    show documents.lookup citingRaw = some citingJson
    rw [documents, List.lookup_cons, other, List.lookup_cons, beq_self_eq_true]
  body := by decide +kernel
  scanned := by decide +kernel
  coded := by decide +kernel
  carried := by decide +kernel
  nested := by
    -- Both credentials have the same attributes.
    simp only [Codec.ParsedAcdc.verifyNestedBlocks, Codec.ParsedAcdc.spans, for_m_ok, List.forall_mem_cons]
    have same := citedPresented.nested
    simp only [Codec.ParsedAcdc.verifyNestedBlocks, Codec.ParsedAcdc.spans, for_m_ok, List.forall_mem_cons] at same
    exact ⟨rfl, rfl, same.2.2.1, by decide +kernel, rfl, nofun⟩
  built := by decide +kernel
  conforms := by decide +kernel
  named := by decide +kernel
  unruled := rfl
  issued := by decide +kernel

theorem from_str (text : String) : codec.fromStr text = texts.lookup text := rfl

theorem edges_read : codec.fromStr edges = some edgesJson := by
  have other : (edges == attributes) = false := by decide +kernel
  rw [from_str, texts, List.lookup_cons, other, List.lookup_cons, beq_self_eq_true]

theorem attributes_read : codec.fromStr attributes = some attributesJson := by
  rw [from_str, texts, List.lookup_cons, beq_self_eq_true]

theorem edge_cited : Cites codec citingCredential "qualification" edgeJson :=
  ⟨[("d", .string ""), ("qualification", edgeJson)], ⟨edges, rfl, edges_read⟩,
    List.mem_cons_of_mem _ (List.mem_singleton_self _), by decide, by decide⟩

theorem cited_supplied : Supplies chain cited citedEvidence := by
  simp [Supplies, chain]

theorem cited_visited (nodes : List ChainCredential) (room : Nat) (claimed : Option String) (path : List String) (count : Nat)
    (counted : count < 8) (claims : ¬claimed.any (· ≠ cited) = true) (fresh : cited ∉ path) :
    exec (node codec nodes limits (room + 1) citedEvidence claimed) ⟨path, count⟩ = (.ok citedCredential, ⟨path, count + 1⟩) :=
  presented_visited citedPresented nodes room claimed path count (count + 1) counted claims fresh rfl

theorem cited_verified : CredentialVerifier.verify codec [] limits citedEvidence = (.ok citedCredential, ⟨[], 1⟩) := by
  rw [CredentialVerifier.verify, if_neg (by decide)]
  exact cited_visited [] 4 none [] 0 (by decide) (by decide) List.not_mem_nil

theorem issuee_held : Issuee codec citedCredential holder := ⟨attributes, attributesJson, rfl, attributes_read, rfl⟩

theorem edge_followed (room : Nat) :
    exec (followEdge codec chain (node codec chain limits (room + 1)) citingCredential edgeJson) ⟨[citing], 1⟩ =
      (.ok (), ⟨[citing], 2⟩) := by
  have read : readLink edgeJson = .ok ⟨cited, some .i2i⟩ := by decide +kernel
  have fresh : cited ∉ [citing] := by decide +kernel
  have found : findNode chain cited = .ok citedEvidence := by simp [findNode, chain]
  have visited := cited_visited chain room (some cited) [citing] 1 (by decide) (by decide) fresh
  have issuee : attributeIssuee codec citedCredential = .ok (some holder) := by
    show (present (codec.fromStr attributes) CredentialVerificationError.wrongIssuee >>= _) = _
    rw [attributes_read]
    rfl
  have passed : checkIssuee citingCredential (some .i2i) (some holder) = .ok () := by decide +kernel
  exact (exec_follow_edge_ok codec chain _ citingCredential edgeJson _ _).mpr
    ⟨_, citedEvidence, citedCredential, some holder, read, fresh, found, visited, issuee, passed⟩

theorem edges_followed (room : Nat) :
    exec (walkEdges codec chain (node codec chain limits (room + 1)) citingCredential) ⟨[citing], 1⟩ = (.ok (), ⟨[citing], 2⟩) := by
  have mapped : edgeMap codec (.block edges) = .ok [("d", .string ""), ("qualification", edgeJson)] := by
    rw [edgeMap, edges_read]
    rfl
  show exec (check (failing (edgeMap codec (.block edges))) >>= fun fields =>
    followEdges codec chain (node codec chain limits (room + 1)) citingCredential fields) ⟨[citing], 1⟩ = _
  rw [exec_check_bind_ok]
  refine ⟨_, (failing_ok _ _).mpr mapped, ?_⟩
  simp only [followEdges, true_or, if_true]
  rw [if_neg (by decide), exec_bind_ok]
  exact ⟨(), _, edge_followed room, rfl⟩

theorem citing_verified : CredentialVerifier.verify codec chain limits citingEvidence = (.ok citingCredential, ⟨[], 2⟩) := by
  rw [CredentialVerifier.verify, if_neg (by decide)]
  exact presented_visited citingPresented chain 4 none [] 0 2 (by decide) (by decide) List.not_mem_nil (edges_followed 3)

end CredentialSample

open CredentialSample in
theorem credential_verify_sound_chained :
    ChainSound codec chain limits citingEvidence citing ∧
      Route codec chain limits citingEvidence [cited] citedEvidence citedCredential ∧
      NodeSound codec chain limits citedEvidence citedCredential ∧
      Cites codec citingCredential "qualification" edgeJson ∧ Operated edgeJson "I2I" ∧ Issuee codec citedCredential holder ∧
      EdgeSound codec chain limits citingCredential edgeJson cited citedEvidence citedCredential := by
  obtain ⟨_, _, validated, said, named, sound⟩ :=
    credential_verify_sound codec chain limits citingEvidence citingCredential ⟨[], 2⟩ citing_verified
  have own : citingCredential.said.toQb64 = some citing := citingPresented.named
  rw [Option.some.inj (named.symm.trans own)] at sound
  have root := sound.sound [] citingEvidence citingCredential (.here _ _ validated)
  obtain ⟨target, next, credential, edge⟩ := root.edges "qualification" edgeJson edge_cited
  have same : target = cited := Json.string.inj (Option.some.inj (edge.formed.named.symm.trans rfl))
  rw [same] at edge
  rw [supplies_unique chain cited next citedEvidence edge.supplied cited_supplied] at edge
  obtain ⟨_, _, conforms⟩ := edge.validated
  rw [Option.some.inj (conforms.read.symm.trans (validate_credential_ok codec limits schema citedEvidence _ (presented_validated citedPresented)).read)] at edge
  have route : Route codec chain limits citingEvidence [cited] citedEvidence citedCredential :=
    .along _ _ "qualification" edgeJson cited _ _ _ _ validated edge_cited edge.formed.named edge.supplied
      (.here _ _ edge.validated)
  exact ⟨sound, route, sound.sound _ _ _ route, edge_cited, rfl, issuee_held, edge⟩

-- The root is handed to the verifier and need not stand in the chain.
theorem root_outside_chain :
    ¬ ∀ (codec : CredentialCodec) (chain : List ChainCredential) (limits : CredentialVerificationLimits)
      (root : CredentialEvidence) (credential : Acdc) (walk : VerificationWalk),
      CredentialVerifier.verify codec chain limits root = (.ok credential, walk) → ∃ target, Supplies chain target root := by
  intro supplied
  obtain ⟨target, only⟩ := supplied CredentialSample.codec [] CredentialSample.limits CredentialSample.citedEvidence
    CredentialSample.citedCredential ⟨[], 1⟩ CredentialSample.cited_verified
  cases only

end Cesr.Keri
