import Cesr.Lib.Resume

set_option autoImplicit false

namespace Refusal

open Calls Checks Resume

variable {α σ ε β γ : Type} {short : ε → Prop}

section Runs

end Runs

end Refusal
