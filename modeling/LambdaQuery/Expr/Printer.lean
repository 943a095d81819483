import LambdaQuery.Expr.Basic
import LambdaQuery.Identifier
import LambdaQuery.Operator

/-!
# Source text of expressions

An expression is written back in the notation it is read from.  Parentheses of the source are
groups and are always written; other parentheses are written only where the expression would be
read as a different one without them.

## Main definitions

* `LambdaQuery.Expr.source` — the text of an expression, as a list of characters.
* `LambdaQuery.Expr.print` — the text of an expression.
-/

set_option autoImplicit false

namespace LambdaQuery.Expr

/-- The expression needs parentheses as the operand of an operator. -/
def isOpenOperand : Expr → Bool
  | .binary .. | .conditional .. | .lambda .. | .assign .. => true
  | _ => false

/-- The expression needs parentheses before a member access, an index or a call. -/
def isOpenReceiver : Expr → Bool
  | .unary .. => true
  | e => e.isOpenOperand

/-- The expression needs parentheses as the test of a choice. -/
def isOpenTest : Expr → Bool
  | .conditional .. | .lambda .. => true
  | _ => false

/-- The expression needs parentheses to the left of an operator of the given precedence. -/
def isOpenLeft (precedence : Nat) : Expr → Bool
  | .binary op _ _ => Operator.precedence op < precedence
  | e => e.isOpenOperand

/-- The expression needs parentheses to the right of an operator of the given precedence: chains
group to the left. -/
def isOpenRight (precedence : Nat) : Expr → Bool
  | .binary op _ _ => Operator.precedence op ≤ precedence
  | e => e.isOpenOperand

/-- The text, in parentheses if it needs them. -/
def enclosed (needed : Bool) (text : List Char) : List Char :=
  if needed then '(' :: text ++ [')'] else text

/-- The texts with a comma and a space between them. -/
def commaList (texts : List (List Char)) : List Char := List.intercalate [',', ' '] texts

/-- The name of a member of an object: quoted if it is no identifier. -/
def memberName (name : String) : List Char :=
  if Identifier.isIdentifier name.toList then name.toList else Value.quoted name

/-- The parameters of a function: a single one stands without parentheses. -/
def parameterList : List String → List Char
  | [p] => p.toList
  | ps => '(' :: commaList (ps.map String.toList) ++ [')']

mutual

/-- The text of an expression. -/
def source : Expr → List Char
  | .literal v => v.source
  | .variable x => x.toList
  | .unary op e => op.toList ++ enclosed e.isOpenOperand e.source
  | .binary op a b =>
    enclosed (a.isOpenLeft (Operator.precedence op)) a.source ++ ' ' :: op.toList ++
      ' ' :: enclosed (b.isOpenRight (Operator.precedence op)) b.source
  | .group es => '(' :: commaList (sources es) ++ [')']
  | .assign x e => memberName x ++ ':' :: ' ' :: e.source
  | .object [] => ['\x7b', '\x7d']
  | .object ms => '\x7b' :: ' ' :: commaList (memberSources ms) ++ [' ', '\x7d']
  | .array es => '[' :: commaList (sources es) ++ [']']
  | .member e x => enclosed e.isOpenReceiver e.source ++ '.' :: x.toList
  | .index e k => enclosed e.isOpenReceiver e.source ++ '[' :: k.source ++ [']']
  | .lambda ps e => parameterList ps ++ ' ' :: '=' :: '>' :: ' ' :: e.source
  | .call e es => enclosed e.isOpenReceiver e.source ++ '(' :: commaList (sources es) ++ [')']
  | .conditional a b c =>
    enclosed a.isOpenTest a.source ++ ' ' :: '?' :: ' ' :: b.source ++ ' ' :: ':' :: ' ' :: c.source

/-- The texts of expressions. -/
def sources : List Expr → List (List Char)
  | [] => []
  | e :: es => e.source :: sources es

/-- The texts of the members of an object. -/
def memberSources : List (String × Expr) → List (List Char)
  | [] => []
  | (x, e) :: ms => (memberName x ++ ':' :: ' ' :: e.source) :: memberSources ms

end

/-- The text of an expression. -/
def print (e : Expr) : String := String.ofList e.source

end LambdaQuery.Expr
