import Cesr.Events.MemberSet
import Cesr.Events.Threshold

set_option autoImplicit false

namespace Cesr

open Checks

-- A seal whose field set is none of the typed ones keeps its text.
inductive Seal where
  | digest (d : Said)
  | root (rd : Said)
  | source (s : Number) (d : Said)
  | event (i : Identifier) (s : Number) (d : Said)
  | last (i : Identifier)
  | back (bi : BasicPrefix) (d : Said)
  | kind (t : Matter VerserCode) (d : Said)
  | opaqueSeal (raw : String)
deriving DecidableEq, Repr

inductive InceptionIdentityError where
  | basicKeyCount (actual : Nat)
  | basicThreshold
  | basicKeyMismatch
  | nonTransferableNextKeys
  | nonTransferableWitnesses
  | nonTransferableAnchors
deriving DecidableEq, Repr

structure InceptionEvent where
  pfx : Identifier
  sn : Number
  said : Said
  keys : List VerifyingKey
  threshold : SigningThreshold
  nextKeys : List Digest
  nextThreshold : SigningThreshold
  witnesses : List BasicPrefix
  witnessThreshold : Toad
  config : List ConfigTrait
  anchors : List Seal
deriving DecidableEq

structure RotationEvent where
  pfx : Identifier
  sn : Number
  said : Said
  priorEventSaid : Said
  keys : List VerifyingKey
  threshold : SigningThreshold
  nextKeys : List Digest
  nextThreshold : SigningThreshold
  witnessAdditions : List BasicPrefix
  witnessRemovals : List BasicPrefix
  witnessThreshold : Toad
  anchors : List Seal
deriving DecidableEq

structure InteractionEvent where
  pfx : Identifier
  sn : Number
  said : Said
  priorEventSaid : Said
  anchors : List Seal
deriving DecidableEq

structure DelegatedInceptionEvent where
  inception : InceptionEvent
  delegator : Identifier
deriving DecidableEq

structure DelegatedRotationEvent where
  rotation : RotationEvent
deriving DecidableEq

inductive KeriEvent where
  | inception (event : InceptionEvent)
  | rotation (event : RotationEvent)
  | interaction (event : InteractionEvent)
  | delegatedInception (event : DelegatedInceptionEvent)
  | delegatedRotation (event : DelegatedRotationEvent)
deriving DecidableEq

-- A basic prefix is bound to its one key; a key that cannot rotate commits to
-- nothing and names nobody.
def InceptionEvent.checkIdentity (event : InceptionEvent) : Except InceptionIdentityError Unit :=
  match event.pfx with
  | .selfAddressing _ => .ok ()
  | .basic pfx =>
      match event.keys with
      | [key] =>
          if event.threshold ≠ .simple 1 then .error .basicThreshold
          else if pfx.matter ≠ key.matter then .error .basicKeyMismatch
          else if pfx.matter.code.isNonTransferable then
            if event.nextKeys ≠ [] then .error .nonTransferableNextKeys
            else if event.witnesses ≠ [] then .error .nonTransferableWitnesses
            else if event.anchors ≠ [] then .error .nonTransferableAnchors
            else .ok ()
          else .ok ()
      | keys => .error (.basicKeyCount keys.length)

namespace KeriEvent

def messageType : KeriEvent → MessageType
  | .inception _ => .icp
  | .rotation _ => .rot
  | .interaction _ => .ixn
  | .delegatedInception _ => .dip
  | .delegatedRotation _ => .drt

def sn : KeriEvent → Number
  | .inception event => event.sn
  | .rotation event => event.sn
  | .interaction event => event.sn
  | .delegatedInception event => event.inception.sn
  | .delegatedRotation event => event.rotation.sn

def said : KeriEvent → Said
  | .inception event => event.said
  | .rotation event => event.said
  | .interaction event => event.said
  | .delegatedInception event => event.inception.said
  | .delegatedRotation event => event.rotation.said

def pfx : KeriEvent → Identifier
  | .inception event => event.pfx
  | .rotation event => event.pfx
  | .interaction event => event.pfx
  | .delegatedInception event => event.inception.pfx
  | .delegatedRotation event => event.rotation.pfx

def anchors : KeriEvent → List Seal
  | .inception event => event.anchors
  | .rotation event => event.anchors
  | .interaction event => event.anchors
  | .delegatedInception event => event.inception.anchors
  | .delegatedRotation event => event.rotation.anchors

def eventSeals (event : KeriEvent) : List (Identifier × U128 × Said) :=
  event.anchors.filterMap fun anchor =>
    match anchor with
    | .event i s d => some (i, s.value, d)
    | _ => none

-- The position counts event seals only, whatever other seals stand between.
def anchorPosition (event delegated : KeriEvent) : Option Nat :=
  event.eventSeals.findIdx? fun anchor =>
    anchor.1 = delegated.pfx ∧ anchor.2.1 = delegated.sn.value ∧ anchor.2.2 = delegated.said

def AnchorsSeal (event delegated : KeriEvent) : Prop :=
  ∃ s, Seal.event delegated.pfx s delegated.said ∈ event.anchors ∧ s.value = delegated.sn.value

theorem mem_event_seals (event : KeriEvent) (i : Identifier) (s : U128) (d : Said) :
    (i, s, d) ∈ event.eventSeals ↔ ∃ number, Seal.event i number d ∈ event.anchors ∧ number.value = s := by
  unfold eventSeals
  rw [List.mem_filterMap]
  apply Iff.intro
  · rintro ⟨anchor, inside, shown⟩
    cases anchor <;> simp only [Option.some.injEq, Prod.mk.injEq, reduceCtorEq] at shown
    obtain ⟨rfl, rfl, rfl⟩ := shown
    exact ⟨_, inside, rfl⟩
  · rintro ⟨number, inside, rfl⟩
    exact ⟨_, inside, rfl⟩

theorem anchor_position_some (event delegated : KeriEvent) :
    (∃ position, event.anchorPosition delegated = some position) ↔ event.AnchorsSeal delegated := by
  rw [← Option.isSome_iff_exists, anchorPosition, List.findIdx?_isSome, List.any_eq_true]
  apply Iff.intro
  · rintro ⟨⟨i, s, d⟩, inside, same⟩
    obtain ⟨rfl, rfl, rfl⟩ : i = delegated.pfx ∧ s = delegated.sn.value ∧ d = delegated.said := by
      simpa using same
    exact (mem_event_seals event _ _ _).mp inside
  · rintro ⟨number, inside, same⟩
    exact ⟨_, (mem_event_seals event _ _ _).mpr ⟨number, inside, same⟩, by simp⟩

end KeriEvent

end Cesr
