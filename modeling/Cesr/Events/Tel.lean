import Cesr.Events.Event

set_option autoImplicit false

namespace Cesr

structure RegistryInception where
  said : Said
  issuer : Identifier
  config : List ConfigTrait
  backerThreshold : Toad
  backers : List BasicPrefix
deriving DecidableEq

structure RegistryRotation where
  said : Said
  registry : Said
  prior : Said
  sn : Number
  backerThreshold : Toad
  backerCuts : List BasicPrefix
  backerAdditions : List BasicPrefix
deriving DecidableEq

structure Issue where
  said : Said
  credentialSaid : Said
  registrySaid : Said
deriving DecidableEq

structure Revoke where
  said : Said
  credentialSaid : Said
  registrySaid : Said
  prior : Said
deriving DecidableEq

structure BackedIssue where
  said : Said
  credentialSaid : Said
  registrySaid : Said
  anchor : Seal
deriving DecidableEq

structure BackedRevoke where
  said : Said
  credentialSaid : Said
  prior : Said
  anchor : Seal
deriving DecidableEq

inductive TelEvent where
  | registryInception (event : RegistryInception)
  | registryRotation (event : RegistryRotation)
  | issue (event : Issue)
  | revoke (event : Revoke)
  | backedIssue (event : BackedIssue)
  | backedRevoke (event : BackedRevoke)
deriving DecidableEq

-- Only a registry rotation carries its sequence number; the event type fixes
-- it everywhere else.
def RegistryInception.sn (_ : RegistryInception) : Number := Number.new 0

def Issue.sn (_ : Issue) : Number := Number.new 0

def Revoke.sn (_ : Revoke) : Number := Number.new 1

def BackedIssue.sn (_ : BackedIssue) : Number := Number.new 0

def BackedRevoke.sn (_ : BackedRevoke) : Number := Number.new 1

namespace TelEvent

def sn : TelEvent → Number
  | .registryInception event => event.sn
  | .registryRotation event => event.sn
  | .issue event => event.sn
  | .revoke event => event.sn
  | .backedIssue event => event.sn
  | .backedRevoke event => event.sn

def said : TelEvent → Said
  | .registryInception event => event.said
  | .registryRotation event => event.said
  | .issue event => event.said
  | .revoke event => event.said
  | .backedIssue event => event.said
  | .backedRevoke event => event.said

end TelEvent

end Cesr
