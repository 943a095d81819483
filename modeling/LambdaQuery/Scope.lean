import LambdaQuery.Bindings
import LambdaQuery.Value

/-!
# Captured variables

An expression is rendered in a list of frames of captured variables, the nearest frame first.

## Main definitions

* `LambdaQuery.Frame` — the variables captured in one place.
* `LambdaQuery.Scopes.lookup` — the value of a name in the nearest frame that has it.
-/

set_option autoImplicit false

namespace LambdaQuery

/-- The variables captured in one place, in order of first capture. -/
abbrev Frame := Bindings Value

/-- Frames of captured variables, the nearest first. -/
abbrev Scopes := List Frame

/-- The value of a name in the nearest frame that has it. -/
def Scopes.lookup (scopes : Scopes) (name : String) : Option Value :=
  scopes.findSome? (·.get? name)

end LambdaQuery
