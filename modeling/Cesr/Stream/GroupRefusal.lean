import Cesr.Lib.Refusal
import Cesr.Stream.GroupRun

set_option autoImplicit false

namespace Cesr.Stream

open Checks Calls Resume Refusal

section Nested

variable (version : CesrVersion) (maxGroupElements maxSignatures : Nat)

end Nested

section Elements

variable (kind : GroupKind) (maxGroupElements maxSignatures : Nat)

end Elements

section Groups

variable (kind : GroupKind) (maxBytes maxGroupElements maxSignatures : Nat)

end Groups

end Cesr.Stream
