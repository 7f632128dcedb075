import Cesr.Core.Verify
import Cesr.Events.Acdc
import Cesr.Events.Tel

set_option autoImplicit false

namespace Cesr

inductive ExnSaid where
  | pending (code : DigestCode)
  | verified (said : Said)
deriving DecidableEq, Repr

inductive ExnAttributes where
  | said (said : Said)
  | block (payload : String)
deriving DecidableEq, Repr

inductive ExnEmbeds where
  | absent
  | empty
  | map (said : Said) (entries : List (String × String))
deriving DecidableEq, Repr

structure Exn where
  exnSaid : ExnSaid
  issuer : Identifier
  prior : Option Said
  route : String
  attributes : ExnAttributes
  embeds : ExnEmbeds
deriving DecidableEq, Repr

namespace Exn

def said (exn : Exn) : Option Said :=
  match exn.exnSaid with
  | .pending _ => none
  | .verified said => some said

def embed (exn : Exn) (label : String) : Option String :=
  match exn.embeds with
  | .map _ entries => entries.lookup label
  | _ => none

end Exn

structure PathedAttachment where
  pathQb64 : String
  material : Bytes
deriving DecidableEq, Repr

-- The body is the byte span that the signatures sign.
structure ExnMessage where
  exn : Exn
  body : Bytes
  sigs : List Siger
  pathed : List PathedAttachment
deriving DecidableEq

inductive IpexRoute where
  | apply
  | offer
  | agree
  | grant
  | admission
  | spurn
deriving DecidableEq, Repr

namespace IpexRoute

def route : IpexRoute → String
  | .apply => "/ipex/apply"
  | .offer => "/ipex/offer"
  | .agree => "/ipex/agree"
  | .grant => "/ipex/grant"
  | .admission => "/ipex/admit"
  | .spurn => "/ipex/spurn"

def fromRoute (route : String) : Option IpexRoute :=
  [("/ipex/apply", .apply), ("/ipex/offer", .offer), ("/ipex/agree", .agree), ("/ipex/grant", .grant),
    ("/ipex/admit", .admission), ("/ipex/spurn", .spurn)].lookup route

end IpexRoute

structure IpexApply where
  message : String
  schema : Said
  attrs : String
  recipient : Identifier
  prior : Option Said
deriving DecidableEq, Repr

structure IpexOffer where
  message : String
  acdc : Acdc
  prior : Option Said
deriving DecidableEq, Repr

structure IpexAgree where
  message : String
  prior : Option Said
deriving DecidableEq, Repr

structure IpexGrant where
  message : String
  recipient : Identifier
  acdc : Acdc
  iss : Option TelEvent
  anc : Option String
  prior : Option Said
deriving DecidableEq

structure IpexAdmit where
  message : String
  prior : Option Said
deriving DecidableEq, Repr

structure IpexSpurn where
  message : String
  prior : Option Said
deriving DecidableEq, Repr

inductive IpexMessage where
  | apply (apply : IpexApply)
  | offer (offer : IpexOffer)
  | agree (agree : IpexAgree)
  | grant (grant : IpexGrant)
  | admission (admission : IpexAdmit)
  | spurn (spurn : IpexSpurn)
deriving DecidableEq

def IpexMessage.route : IpexMessage → IpexRoute
  | .apply _ => .apply
  | .offer _ => .offer
  | .agree _ => .agree
  | .grant _ => .grant
  | .admission _ => .admission
  | .spurn _ => .spurn

end Cesr
