import Cesr.Keri.CredentialWalk
import Cesr.Keri.Ipex

set_option autoImplicit false

namespace Cesr.Keri

open Checks Calls

variable (crypto : Crypto) (codec : IpexCodec)

structure IpexCall where
  msg : ExnMessage
  evidence : IpexEvidence
  limits : IpexLimits

def IpexCall.step (call : IpexCall) : Mutator IpexConversation IpexFailure Unit :=
  IpexConversation.ingestMut crypto codec call.msg call.evidence call.limits

def ipexRun (start : IpexConversation) (calls : List IpexCall) : IpexConversation :=
  run (IpexCall.step crypto codec) start calls

def ipexAccepted (start : IpexConversation) (calls : List IpexCall) : List IpexCall :=
  accepted (IpexCall.step crypto codec) start calls

def exchanged (first : ExnMessage) (log : List IpexCall) : List ExnMessage := first :: log.map IpexCall.msg

theorem exchanged_append (first : ExnMessage) (log : List IpexCall) (call : IpexCall) :
    exchanged first (log ++ [call]) = exchanged first log ++ [call.msg] := by
  simp [exchanged]

def responses : List IpexRoute := [.apply, .offer, .agree, .grant, .admission]

-- The routes of a conversation: a way along the responses, or one cut short by a spurn.
def IpexRoutes (routes : List IpexRoute) : Prop :=
  routes <+: responses ∨ ∃ opening, opening ≠ [] ∧ opening <+: responses.dropLast ∧ routes = opening ++ [.spurn]

def Linked (earlier later : ExnMessage) : Prop := earlier.exn.said.isSome = true ∧ later.exn.prior = earlier.exn.said

def Alternates (applicant issuer earlier later : Identifier) : Prop :=
  (earlier = applicant ∧ later = issuer) ∨ (earlier = issuer ∧ later = applicant)

structure SignedExn (supplied : Option KeyState) (msg : ExnMessage) : Prop where
  state : ∃ state, supplied = some state ∧ state.pfx = msg.exn.issuer ∧
    state.threshold.Holds (signers crypto state.keys msg.body msg.sigs)

structure CredentialBound (conversation : IpexConversation) (credential : Acdc) : Prop where
  issuer : credential.issuer = conversation.issuer
  schema : credential.schema = .said conversation.schema
  issuee : ∃ payload attrs name, credential.attributes = some (.block payload) ∧ codec.fromStr payload = some attrs ∧
    conversation.applicant.toQb64 = some name ∧ (attrs.get "i").bind Json.asStr = some name

structure OfferCarries (conversation : IpexConversation) (call : IpexCall) (offer : IpexOffer) (said : Said) : Prop where
  parsed : IpexMessage.parse codec call.msg.exn call.limits.json = .ok (.offer offer)
  named : offer.acdc.said = said
  credential : ∃ raw schema credential, call.msg.exn.embed "acdc" = some raw ∧ call.evidence.schema = some schema ∧
    schema.validateCredential codec.toCredentialCodec (asBytes raw) call.limits.json = .ok credential ∧
      credential.said = said ∧ CredentialBound codec conversation credential
  proved : ∃ raw, call.msg.exn.embed "acdc" = some raw ∧
    verifyPathedAcdc crypto codec call.msg (asBytes raw) call.evidence.issuerState conversation.issuer = .ok ()

structure GrantCarries (conversation : IpexConversation) (call : IpexCall) (grant : IpexGrant) (said : Said) : Prop where
  parsed : IpexMessage.parse codec call.msg.exn call.limits.json = .ok (.grant grant)
  named : grant.acdc.said = said
  recipient : grant.recipient = conversation.applicant
  credential : ∃ raw credential, call.msg.exn.embed "acdc" = some raw ∧
    (CredentialVerifier.verify codec.toCredentialCodec call.evidence.chain call.limits.credential
      ⟨asBytes raw, call.evidence.schema, call.evidence.registry, call.evidence.credentialState,
        call.evidence.issuerState⟩).1 = .ok credential ∧
      credential.said = said ∧ CredentialBound codec conversation credential ∧
      bindGrantAnchor codec grant credential call.evidence.credentialState call.evidence.anchorState call.limits.json = .ok ()
  proved : ∃ raw, call.msg.exn.embed "acdc" = some raw ∧
    verifyPathedAcdc crypto codec call.msg (asBytes raw) call.evidence.issuerState conversation.issuer = .ok ()

theorem parse_route (exn : Exn) (limits : JsonLimits) (typed : IpexMessage)
    (parsed : IpexMessage.parse codec exn limits = .ok typed) : IpexRoute.fromRoute exn.route = some typed.route := by
  simp only [IpexMessage.parse, bind_ok, present_ok] at parsed
  obtain ⟨route, named, attrs, _, lifted⟩ := parsed
  rw [named]
  cases route with
  | apply =>
      simp only [parsePayload, bind_ok, pure_ok] at lifted
      obtain ⟨_, _, same⟩ := lifted
      rw [← same]
      rfl
  | offer =>
      simp only [parsePayload, bind_ok, pure_ok] at lifted
      obtain ⟨_, _, _, _, same⟩ := lifted
      rw [← same]
      rfl
  | grant =>
      simp only [parsePayload, bind_ok, pure_ok] at lifted
      obtain ⟨_, _, _, _, _, _, same⟩ := lifted
      rw [← same]
      rfl
  | agree | admission | spurn =>
      simp only [parsePayload, bind_ok, pure_ok] at lifted
      obtain ⟨_, _, same⟩ := lifted
      rw [← same]
      rfl

@[simp] theorem deciding_ok {α : Type} (decided : Except IpexDecisionError α) (value : α) :
    deciding decided = .ok value ↔ decided = .ok value := map_error_ok decided _ value

theorem authenticate_ok (msg : ExnMessage) (supplied : Option KeyState) :
    authenticate crypto msg supplied = .ok () ↔ SignedExn crypto supplied msg := by
  simp only [authenticate, KeyState.verifyExn, bind_ok, exists_done, present_ok, map_error_ok, reject_if_ok, not_not,
    authority_verify_ok, pure_ok, and_true]
  apply Iff.intro
  · intro found
    obtain ⟨state, given, _, sender, holds, _⟩ := found
    exact ⟨state, given, sender, holds⟩
  · intro found
    obtain ⟨state, given, sender, holds⟩ := found
    exact ⟨state, given, _, sender, holds, rfl⟩

theorem attributes_payload_ok (credential : Acdc) (payload : String) :
    attributesPayload credential = .ok payload ↔ credential.attributes = some (.block payload) := by
  unfold attributesPayload
  split
  · rename_i given held
    rw [held]
    simp
  · rename_i other
    apply Iff.intro
    · intro impossible
      cases impossible
    · intro held
      exact absurd held (other payload)

theorem bind_credential_ok (conversation : IpexConversation) (credential : Acdc) :
    bindCredential codec credential conversation.issuer conversation.applicant conversation.schema = .ok () ↔
      CredentialBound codec conversation credential := by
  simp only [bindCredential, bind_ok, exists_done, reject_if_ok, not_not, deciding_ok, attributes_payload_ok, present_ok]
  apply Iff.intro
  · intro found
    obtain ⟨issuer, schema, payload, held, attrs, read, name, encoded, issuee⟩ := found
    exact ⟨issuer, schema, payload, attrs, name, held, read, encoded, issuee⟩
  · intro bound
    obtain ⟨payload, attrs, name, held, read, encoded, issuee⟩ := bound.issuee
    exact ⟨bound.issuer, bound.schema, payload, held, attrs, read, name, encoded, issuee⟩

theorem accept_offer_ok (conversation : IpexConversation) (call : IpexCall) (offer : IpexOffer) (said : Said)
    (parsed : IpexMessage.parse codec call.msg.exn call.limits.json = .ok (.offer offer))
    (taken : conversation.acceptOffer crypto codec call.msg call.evidence call.limits offer = .ok said) :
    OfferCarries crypto codec conversation call offer said := by
  simp only [IpexConversation.acceptOffer, bind_ok, exists_done, present_ok, map_error_ok, reject_if_ok, not_not,
    deciding_ok, bind_credential_ok, pure_ok] at taken
  obtain ⟨raw, held, schema, given, credential, validated, bound, same, proved, named⟩ := taken
  exact ⟨parsed, same.symm.trans named, ⟨raw, schema, credential, held, given, validated, named, bound⟩, raw, held, proved⟩

theorem accept_grant_ok (conversation : IpexConversation) (call : IpexCall) (grant : IpexGrant)
    (parsed : IpexMessage.parse codec call.msg.exn call.limits.json = .ok (.grant grant))
    (taken : conversation.acceptGrant crypto codec call.msg call.evidence call.limits grant = .ok ()) :
    ∃ said, conversation.offeredCredential = some said ∧ GrantCarries crypto codec conversation call grant said := by
  simp only [IpexConversation.acceptGrant, bind_ok, exists_done, present_ok, map_error_ok, reject_if_ok, not_not,
    deciding_ok, bind_credential_ok] at taken
  obtain ⟨recipient, raw, held, offered, proved, credential, verified, bound, same, anchored⟩ := taken
  exact ⟨grant.acdc.said, offered.symm, parsed, rfl, recipient,
    ⟨raw, credential, held, verified, same, bound, anchored⟩, raw, held, proved⟩

inductive BodyAccepted (conversation : IpexConversation) (call : IpexCall) : IpexMessage → Option Said → Prop where
  | offer (offer : IpexOffer) (said : Said) (carries : OfferCarries crypto codec conversation call offer said) :
      BodyAccepted conversation call (.offer offer) (some said)
  | grant (grant : IpexGrant) (said : Said) (offered : conversation.offeredCredential = some said)
      (carries : GrantCarries crypto codec conversation call grant said) : BodyAccepted conversation call (.grant grant) none
  | bare (typed : IpexMessage) (kind : typed.route = .agree ∨ typed.route = .admission ∨ typed.route = .spurn)
      (unpathed : call.msg.pathed = []) : BodyAccepted conversation call typed none

theorem accept_body_ok (conversation : IpexConversation) (call : IpexCall) (typed : IpexMessage) (offered : Option Said)
    (parsed : IpexMessage.parse codec call.msg.exn call.limits.json = .ok typed)
    (taken : conversation.acceptBody crypto codec call.msg call.evidence call.limits typed = .ok offered) :
    BodyAccepted crypto codec conversation call typed offered := by
  cases typed with
  | offer offer =>
      simp only [IpexConversation.acceptBody, bind_ok, pure_ok] at taken
      obtain ⟨said, carried, same⟩ := taken
      rw [← same]
      exact .offer offer said (accept_offer_ok crypto codec conversation call offer said parsed carried)
  | grant grant =>
      simp only [IpexConversation.acceptBody, bind_ok, exists_done, pure_ok] at taken
      obtain ⟨carried, same⟩ := taken
      obtain ⟨said, remembered, carries⟩ := accept_grant_ok crypto codec conversation call grant parsed carried
      rw [← same]
      exact .grant grant said remembered carries
  | agree _ | admission _ | spurn _ =>
      simp only [IpexConversation.acceptBody, bind_ok, exists_done, reject_if_ok, not_not, pure_ok] at taken
      rw [← taken.2]
      exact .bare _ (by simp [IpexMessage.route]) taken.1
  | apply _ => cases taken

structure IpexAdvance (state : IpexConversation) (call : IpexCall) (next : IpexConversation) (typed : IpexMessage)
    (said : Said) (offered : Option Said) : Prop where
  live : state.isTerminal = false
  named : call.msg.exn.said = some said
  prior : call.msg.exn.prior = some state.latest
  signed : SignedExn crypto call.evidence.senderState call.msg
  sender : call.msg.exn.issuer = state.expectedSender
  parsed : IpexMessage.parse codec call.msg.exn call.limits.json = .ok typed
  allowed : allowedResponse state.route typed.route = true
  body : BodyAccepted crypto codec state call typed offered
  final : next = { state with
    latest := said
    route := typed.route
    lastSender := call.msg.exn.issuer
    offeredCredential := offered.or state.offeredCredential }

theorem ipex_advance (state next : IpexConversation) (call : IpexCall)
    (taken : consume (call.step crypto codec) state = .ok next) :
    ∃ typed said offered, IpexAdvance crypto codec state call next typed said offered := by
  simp only [IpexCall.step, IpexConversation.ingestMut, consume_get_bind, consume_check_bind, exists_done, reject_if_ok,
    present_ok, map_error_ok, deciding_ok, authenticate_ok, not_not, Bool.not_eq_true, Bool.not_eq_false,
    consume_modify] at taken
  obtain ⟨live, said, named, _, prior, signed, sender, typed, parsed, allowed, offered, carried, final⟩ := taken
  exact ⟨typed, said, offered, live, named, prior, signed, sender, parsed, allowed,
    accept_body_ok crypto codec state call typed offered parsed carried, final.symm⟩

theorem ipex_step_atomic (call : IpexCall) : Atomic (call.step crypto codec) := by
  refine atomic_bind _ _ read_only_get fun state => ?_
  refine atomic_bind _ _ (read_only_check _) fun _ => ?_
  refine atomic_bind _ _ (read_only_check _) fun _ => ?_
  refine atomic_bind _ _ (read_only_check _) fun _ => ?_
  refine atomic_bind _ _ (read_only_check _) fun _ => ?_
  refine atomic_bind _ _ (read_only_check _) fun _ => ?_
  refine atomic_bind _ _ (read_only_check _) fun _ => ?_
  refine atomic_bind _ _ (read_only_check _) fun _ => ?_
  refine atomic_bind _ _ (read_only_check _) fun _ => ?_
  refine atomic_bind _ _ (read_only_check _) fun _ => ?_
  exact atomic_modify _

theorem ipex_routes_nodup (routes : List IpexRoute) (shaped : IpexRoutes routes) : routes.Nodup := by
  cases shaped with
  | inl way => exact way.sublist.nodup (by decide)
  | inr cut =>
      obtain ⟨opening, _, way, same⟩ := cut
      have whole : (responses.dropLast ++ [IpexRoute.spurn]).Nodup := by decide
      rw [same]
      exact (way.sublist.append_right [IpexRoute.spurn]).nodup whole

theorem way_last (routes : List IpexRoute) (way : routes <+: responses) (last : IpexRoute) (ends : routes.getLast? = some last) :
    routes = responses.take (responses.idxOf last + 1) := by
  have taken := List.prefix_iff_eq_take.mp way
  have short : routes.length ≤ 5 := way.length_le
  generalize routes.length = count at taken short
  subst taken
  interval_cases count <;> simp_all [responses] <;> subst ends <;> rfl

theorem ipex_routes_grow (routes : List IpexRoute) (last next : IpexRoute) (shaped : IpexRoutes routes)
    (ends : routes.getLast? = some last) (allowed : allowedResponse last next = true) : IpexRoutes (routes ++ [next]) := by
  cases shaped with
  | inl way =>
      rw [way_last routes way last ends]
      cases last <;> cases next <;> first
        | exact absurd allowed (by decide)
        | exact .inl (by decide)
        | exact .inr ⟨_, by decide, by decide, rfl⟩
  | inr cut =>
      obtain ⟨opening, _, _, same⟩ := cut
      rw [same, List.getLast?_concat] at ends
      rw [← Option.some.inj ends] at allowed
      cases allowed

structure IpexHistory (first : ExnMessage) (start state : IpexConversation) (log : List IpexCall) : Prop where
  bound : state.applicant = start.applicant ∧ state.issuer = start.issuer ∧ state.schema = start.schema ∧
    state.root = start.root
  latest : ∃ last, (exchanged first log).getLast? = some last ∧ last.exn.said = some state.latest ∧
    last.exn.issuer = state.lastSender ∧ IpexRoute.fromRoute last.exn.route = some state.route
  speaker : state.lastSender = start.applicant ∨ state.lastSender = start.issuer
  linked : (exchanged first log).IsChain Linked
  alternating : ((exchanged first log).map fun msg => msg.exn.issuer).IsChain (Alternates start.applicant start.issuer)
  routes : ∃ routes, (exchanged first log).map (fun msg => IpexRoute.fromRoute msg.exn.route) = routes.map some ∧
    IpexRoutes routes
  signed : ∀ call ∈ log, SignedExn crypto call.evidence.senderState call.msg
  offered : ∀ said, state.offeredCredential = some said →
    ∃ call ∈ log, ∃ offer, OfferCarries crypto codec start call offer said
  granted : ∀ call ∈ log, IpexRoute.fromRoute call.msg.exn.route = some .grant →
    ∃ grant said, GrantCarries crypto codec start call grant said ∧
      ∃ earlier ∈ log, ∃ offer, OfferCarries crypto codec start earlier offer said

theorem credential_bound_congr (state start : IpexConversation) (credential : Acdc) (applicant : state.applicant = start.applicant)
    (issuer : state.issuer = start.issuer) (schema : state.schema = start.schema)
    (held : CredentialBound codec state credential) : CredentialBound codec start credential := by
  refine ⟨?_, ?_, ?_⟩
  · rw [← issuer]
    exact held.issuer
  · rw [← schema]
    exact held.schema
  · rw [← applicant]
    exact held.issuee

theorem offer_carries_congr (state start : IpexConversation) (call : IpexCall) (offer : IpexOffer) (said : Said)
    (applicant : state.applicant = start.applicant) (issuer : state.issuer = start.issuer) (schema : state.schema = start.schema)
    (carries : OfferCarries crypto codec state call offer said) : OfferCarries crypto codec start call offer said := by
  obtain ⟨raw, verified, credential, held, given, validated, named, tied⟩ := carries.credential
  refine ⟨carries.parsed, carries.named, ⟨raw, verified, credential, held, given, validated, named, ?_⟩, ?_⟩
  · exact credential_bound_congr codec state start credential applicant issuer schema tied
  · rw [← issuer]
    exact carries.proved

theorem grant_carries_congr (state start : IpexConversation) (call : IpexCall) (grant : IpexGrant) (said : Said)
    (applicant : state.applicant = start.applicant) (issuer : state.issuer = start.issuer) (schema : state.schema = start.schema)
    (carries : GrantCarries crypto codec state call grant said) : GrantCarries crypto codec start call grant said := by
  obtain ⟨raw, credential, held, verified, named, tied, anchored⟩ := carries.credential
  refine ⟨carries.parsed, carries.named, carries.recipient.trans applicant,
    ⟨raw, credential, held, verified, named, ?_, anchored⟩, ?_⟩
  · exact credential_bound_congr codec state start credential applicant issuer schema tied
  · rw [← issuer]
    exact carries.proved

theorem expected_alternates (start state : IpexConversation) (bound : state.applicant = start.applicant ∧ state.issuer = start.issuer)
    (speaker : state.lastSender = start.applicant ∨ state.lastSender = start.issuer) :
    Alternates start.applicant start.issuer state.lastSender state.expectedSender := by
  unfold IpexConversation.expectedSender
  split
  · rename_i same
    exact .inl ⟨same.trans bound.1, bound.2⟩
  · rename_i other
    rw [bound.1] at other
    exact .inr ⟨speaker.resolve_left other, bound.1⟩

theorem ipex_history_grow (first : ExnMessage) (start state : IpexConversation) (log : List IpexCall) (call : IpexCall)
    (history : IpexHistory crypto codec first start state log) (taken : Accepts (call.step crypto codec) state) :
    IpexHistory crypto codec first start (after (call.step crypto codec) state) (log ++ [call]) := by
  obtain ⟨typed, said, offered, advance⟩ := ipex_advance crypto codec state _ call (consume_accepted _ _ taken)
  obtain ⟨last, ends, named, sender, route⟩ := history.latest
  obtain ⟨applicant, issuer, schema, root⟩ := history.bound
  have kind := parse_route codec call.msg.exn call.limits.json typed advance.parsed
  have turn : Alternates start.applicant start.issuer last.exn.issuer call.msg.exn.issuer := by
    rw [sender, advance.sender]
    exact expected_alternates start state ⟨applicant, issuer⟩ history.speaker
  rw [advance.final]
  refine ⟨⟨applicant, issuer, schema, root⟩, ⟨call.msg, ?_, advance.named, rfl, kind⟩, ?_, ?_, ?_, ?_, ?_, ?_, ?_⟩
  · rw [exchanged_append, List.getLast?_concat]
  · exact turn.elim (fun both => .inr both.2) (fun both => .inl both.2)
  · rw [exchanged_append, List.isChain_append]
    refine ⟨history.linked, List.isChain_singleton _, ?_⟩
    intro earlier isLast later isNext
    rw [ends] at isLast
    cases isLast
    cases isNext
    refine ⟨by rw [named]; rfl, by rw [named, advance.prior]⟩
  · rw [exchanged_append, List.map_append, List.isChain_append]
    refine ⟨history.alternating, List.isChain_singleton _, ?_⟩
    intro earlier isLast later isNext
    rw [List.getLast?_map, ends] at isLast
    cases isLast
    cases isNext
    exact turn
  · obtain ⟨routes, mapped, shaped⟩ := history.routes
    refine ⟨routes ++ [typed.route], ?_, ipex_routes_grow routes state.route typed.route shaped ?_ advance.allowed⟩
    · rw [exchanged_append, List.map_append, List.map_append, mapped, List.map_singleton, kind, List.map_singleton]
    · have lastRoute := congrArg List.getLast? mapped
      rw [List.getLast?_map, List.getLast?_map, ends, Option.map_some, route] at lastRoute
      cases found : routes.getLast? with
      | none =>
          rw [found] at lastRoute
          cases lastRoute
      | some other =>
          rw [found] at lastRoute
          exact (Option.some.inj lastRoute).symm
  · intro other inside
    cases List.mem_append.mp inside with
    | inl before => exact history.signed other before
    | inr new =>
        rw [List.mem_singleton.mp new]
        exact advance.signed
  · intro remembered held
    cases advance.body with
    | offer offer said carries =>
        cases held
        exact ⟨call, List.mem_append_right log List.mem_cons_self, offer,
          offer_carries_congr crypto codec state start call offer remembered applicant issuer schema carries⟩
    | grant _ _ _ _ | bare _ _ =>
        obtain ⟨earlier, inside, offer, carries⟩ := history.offered remembered held
        exact ⟨earlier, List.mem_append_left _ inside, offer, carries⟩
  · intro other inside isGrant
    cases List.mem_append.mp inside with
    | inl before =>
        obtain ⟨grant, said, carries, earlier, held, offer, carried⟩ := history.granted other before isGrant
        exact ⟨grant, said, carries, earlier, List.mem_append_left _ held, offer, carried⟩
    | inr new =>
        rw [List.mem_singleton.mp new] at isGrant ⊢
        rw [kind] at isGrant
        cases advance.body with
        | offer _ _ _ => cases isGrant
        | grant grant said remembered carries =>
            obtain ⟨earlier, held, offer, carried⟩ := history.offered said remembered
            exact ⟨grant, said, grant_carries_congr crypto codec state start call grant said applicant issuer schema carries,
              earlier, List.mem_append_left _ held, offer, carried⟩
        | bare _ kinds _ =>
            rw [Option.some.inj isGrant] at kinds
            simp at kinds

structure IpexOpening (first : ExnMessage) (supplied : Option KeyState) (limits : JsonLimits) (start : IpexConversation) :
    Prop where
  applied : ∃ apply, IpexMessage.parse codec first.exn limits = .ok (.apply apply) ∧ start.issuer = apply.recipient ∧
    start.schema = apply.schema
  unlinked : first.exn.prior = none
  signed : SignedExn crypto supplied first
  named : first.exn.said = some start.root
  sender : first.exn.issuer = start.applicant
  parties : start.applicant ≠ start.issuer

theorem ipex_begin_ok (first : ExnMessage) (supplied : Option KeyState) (limits : JsonLimits) (start : IpexConversation)
    (begun : IpexConversation.begin crypto codec first supplied limits = .ok start) :
    IpexOpening crypto codec first supplied limits start ∧ IpexHistory crypto codec first start start [] := by
  simp only [IpexConversation.begin, bind_ok, exists_done, map_error_ok, reject_if_ok, not_not, authenticate_ok, present_ok,
    pure_ok] at begun
  obtain ⟨typed, parsed, apply, opening, unlinked, _, signed, parties, said, named, same⟩ := begun
  have kind := parse_route codec first.exn limits typed parsed
  cases typed with
  | apply given =>
      cases opening
      subst same
      refine ⟨⟨⟨apply, parsed, rfl, rfl⟩, Option.not_isSome_iff_eq_none.mp unlinked, signed, named, rfl, parties⟩, ?_⟩
      refine ⟨⟨rfl, rfl, rfl, rfl⟩, ⟨first, rfl, named, rfl, kind⟩, .inl rfl, List.isChain_singleton _,
        List.isChain_singleton _, ⟨[.apply], ?_, .inl (by decide)⟩, ?_, ?_, ?_⟩
      · exact congrArg (fun route => [route]) kind
      · intro call inside
        cases inside
      · intro said held
        cases held
      · intro call inside
        cases inside
  | _ => cases opening

theorem terminal_rejects (state : IpexConversation) (terminal : state.isTerminal = true) (call : IpexCall) :
    ¬ Accepts (call.step crypto codec) state := by
  intro taken
  obtain ⟨_, _, _, advance⟩ := ipex_advance crypto codec state _ call (consume_accepted _ _ taken)
  rw [advance.live] at terminal
  cases terminal

theorem terminal_run (state : IpexConversation) (terminal : state.isTerminal = true) (calls : List IpexCall) :
    ipexRun crypto codec state calls = state ∧ ipexAccepted crypto codec state calls = [] := by
  induction calls with
  | nil => exact ⟨rfl, rfl⟩
  | cons call rest ih =>
      have refused := terminal_rejects crypto codec state terminal call
      have same := ipex_step_atomic crypto codec call state refused
      rw [ipexRun, ipexAccepted, run, accepted, if_neg refused, same]
      exact ih

theorem ipex_conversation_safe (first : ExnMessage) (supplied : Option KeyState) (limits : JsonLimits)
    (start : IpexConversation) (begun : IpexConversation.begin crypto codec first supplied limits = .ok start)
    (calls : List IpexCall) :
    IpexOpening crypto codec first supplied limits start ∧
      IpexHistory crypto codec first start (ipexRun crypto codec start calls) (ipexAccepted crypto codec start calls) ∧
      ((ipexRun crypto codec start calls).isTerminal = true → ∀ more,
        ipexRun crypto codec (ipexRun crypto codec start calls) more = ipexRun crypto codec start calls ∧
          ipexAccepted crypto codec (ipexRun crypto codec start calls) more = []) ∧
      (exchanged first (ipexAccepted crypto codec start calls)).Nodup ∧
      ((∀ left ∈ exchanged first (ipexAccepted crypto codec start calls),
          ∀ right ∈ exchanged first (ipexAccepted crypto codec start calls), left.exn.said = right.exn.said → left = right) →
        ((exchanged first (ipexAccepted crypto codec start calls)).map fun msg => msg.exn.said).Nodup) ∧
      ∀ call : IpexCall, ¬ Accepts (call.step crypto codec) (ipexRun crypto codec start calls) →
        after (call.step crypto codec) (ipexRun crypto codec start calls) = ipexRun crypto codec start calls := by
  obtain ⟨opening, initial⟩ := ipex_begin_ok crypto codec first supplied limits start begun
  have history : IpexHistory crypto codec first start (ipexRun crypto codec start calls) (ipexAccepted crypto codec start calls) :=
    run_history (IpexCall.step crypto codec) (ipex_step_atomic crypto codec) (IpexHistory crypto codec first start)
      (ipex_history_grow crypto codec first start) start [] initial calls
  have distinct : (exchanged first (ipexAccepted crypto codec start calls)).Nodup := by
    obtain ⟨routes, mapped, shaped⟩ := history.routes
    have nodup := (ipex_routes_nodup routes shaped).map (Option.some_injective IpexRoute)
    rw [← mapped] at nodup
    exact nodup.of_map _
  refine ⟨opening, history, ?_, distinct, ?_, fun call => ipex_step_atomic crypto codec call _⟩
  · intro terminal more
    exact terminal_run crypto codec _ terminal more
  · intro separate
    exact distinct.map_on separate

-- One whole conversation, from the application to the admission of the granted credential.
namespace Sample

def holder : Identifier := .basic ⟨verkey 9⟩

def holderState : KeyState := { start with pfx := holder, keys := [⟨verkey 9⟩] }

def grantedCredential : Acdc where
  said := ⟨digest 112⟩
  nonce := none
  issuer := .basic ⟨verkey 1⟩
  registry := some (.said registryStart.id)
  schema := .said ⟨digest 113⟩
  attributes := some (.block "attributes")
  aggregateAttributes := none
  edges := none
  rules := none

def issuance : Issue := ⟨⟨digest 121⟩, ⟨digest 112⟩, registryStart.id⟩

def issuanceAnchor : KeriEvent :=
  .interaction ⟨.basic ⟨verkey 1⟩, Number.new 1, ⟨digest 115⟩, ⟨digest 100⟩,
    [.event (.selfAddressing ⟨digest 112⟩) (Number.new 0) ⟨digest 121⟩]⟩

def ipexCodec : IpexCodec where
  fromStr _ := some (.object [("d", .string ""), ("i", .string (holder.toQb64.getD ""))])
  fromSlice _ := some (.object [])
  deserialize _ _ := some grantedCredential
  applyPayload _ _ := some ("", ⟨digest 113⟩, "", .basic ⟨verkey 1⟩)
  grantPayload _ _ := some ("", holder)
  messageOnly _ _ := some ""
  telEvent _ _ := some (.issue issuance)
  keriEvent _ _ := some issuanceAnchor
  controllerSignatures _ := some [sign 1 (asBytes "acdc")]

def exn (sender : Identifier) (seed : UInt8) (prior : Option UInt8) (route : IpexRoute) (entries : List (String × String)) :
    Exn where
  exnSaid := .verified ⟨digest seed⟩
  issuer := sender
  prior := prior.map fun earlier => ⟨digest earlier⟩
  route := route.route
  attributes := .block ""
  embeds := .map ⟨digest 116⟩ entries

def proof : List PathedAttachment := [⟨"4AACA-e-acdc", []⟩]

def applied : ExnMessage := ⟨exn holder 130 none .apply [], [30], [sign 9 [30]], []⟩

def ipexEvidence (sender : KeyState) : IpexEvidence where
  senderState := some sender
  schema := some ⟨⟨digest 113⟩, fun _ => true⟩
  registry := some registryStart
  credentialState := some ⟨registryStart.id, ⟨digest 112⟩, Number.new 0, ⟨digest 121⟩⟩
  issuerState := some start
  anchorState := some { start with sn := Number.new 1, latestSaid := ⟨digest 115⟩ }
  chain := []

def ipexLimits : IpexLimits := ⟨⟨32, 8⟩, ⟨⟨32, 8⟩, 4096, 4, 2⟩⟩

def ipexCalls : List IpexCall :=
  [⟨⟨exn start.pfx 131 (some 130) .offer [("acdc", "acdc")], [31], [sign 1 [31]], proof⟩, ipexEvidence start, ipexLimits⟩,
    ⟨⟨exn holder 132 (some 131) .agree [], [32], [sign 9 [32]], []⟩, ipexEvidence holderState, ipexLimits⟩,
    ⟨⟨exn start.pfx 133 (some 132) .grant [("acdc", "acdc"), ("iss", "iss"), ("anc", "anc")], [33], [sign 1 [33]], proof⟩,
      ipexEvidence start, ipexLimits⟩,
    ⟨⟨exn holder 134 (some 133) .admission [], [34], [sign 9 [34]], []⟩, ipexEvidence holderState, ipexLimits⟩]

def applying : IpexConversation :=
  ⟨⟨digest 130⟩, ⟨digest 130⟩, .apply, holder, .basic ⟨verkey 1⟩, ⟨digest 113⟩, none, holder⟩

end Sample

theorem ipex_conversation_safe_sample :
    IpexHistory Sample.scheme Sample.ipexCodec Sample.applied Sample.applying
        (ipexRun Sample.scheme Sample.ipexCodec Sample.applying Sample.ipexCalls)
        (ipexAccepted Sample.scheme Sample.ipexCodec Sample.applying Sample.ipexCalls) ∧
      (ipexRun Sample.scheme Sample.ipexCodec Sample.applying Sample.ipexCalls).route = .admission := by
  have safe := ipex_conversation_safe Sample.scheme Sample.ipexCodec Sample.applied (some Sample.holderState) ⟨32, 8⟩
    Sample.applying (by rfl) Sample.ipexCalls
  exact ⟨safe.2.1, by decide +kernel⟩

end Cesr.Keri
