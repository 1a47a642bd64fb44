import Rsx.Pattern.Reader
import Rsx.Pattern.Regex

set_option autoImplicit false

namespace Rsx.Pattern

def tooLargeMessage : String :=
  "Compiled regex exceeds size limit of " ++ toString Regex.sizeLimit ++ " bytes."

def compile (pattern : String) : Except String Regex :=
  match (do
    let e ← read pattern
    let (r, _) ← Regex.ofExpr .start e
    return r : Except Fault Regex) with
  | .error fault => .error (fault.message pattern)
  | .ok r => if r.isTooLarge then .error tooLargeMessage else .ok r

end Rsx.Pattern
