/-!
# Identifiers

Names in an expression are made of ASCII letters, digits, `_` and `$`, and do not begin with a
digit.  Four of them are words of the language.

## Main definitions

* `LambdaQuery.Identifier.isStart`, `LambdaQuery.Identifier.isPart` — the characters of a name.
* `LambdaQuery.Identifier.isIdentifier` — the text is a name.
-/

set_option autoImplicit false

namespace LambdaQuery.Identifier

/-- A name may begin with the character. -/
def isStart (c : Char) : Bool := c.isAlpha || c == '_' || c == '$'

/-- A name may go on with the character. -/
def isPart (c : Char) : Bool := c.isAlphanum || c == '_' || c == '$'

/-- The text is a name. -/
def isIdentifier : List Char → Bool
  | [] => false
  | c :: rest => isStart c && rest.all isPart

end LambdaQuery.Identifier
