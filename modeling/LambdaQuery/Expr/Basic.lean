import LambdaQuery.Value

/-!
# Expressions

The tree of an expression.  Parentheses in the source are kept as groups.

## Main definitions

* `LambdaQuery.Expr` — an expression.
* `LambdaQuery.Expr.sameAs` — equality of expressions, numbers compared as numbers.
-/

set_option autoImplicit false

namespace LambdaQuery

/-- An expression. -/
inductive Expr where
  /-- A literal value. -/
  | literal (value : Value)
  /-- A variable. -/
  | variable (name : String)
  /-- An operator before its operand. -/
  | unary (op : String) (target : Expr)
  /-- An operator between its operands. -/
  | binary (op : String) (left right : Expr)
  /-- Expressions in parentheses. -/
  | group (items : List Expr)
  /-- A named expression that stands by itself. -/
  | assign (name : String) (right : Expr)
  /-- Named expressions in braces. -/
  | object (members : List (String × Expr))
  /-- Expressions in square brackets. -/
  | array (items : List Expr)
  /-- A member of the owner's value. -/
  | member (owner : Expr) (name : String)
  /-- An element of the owner's value. -/
  | index (owner key : Expr)
  /-- A function of its parameters. -/
  | lambda (params : List String) (body : Expr)
  /-- A call. -/
  | call (callee : Expr) (args : List Expr)
  /-- A choice between two expressions. -/
  | conditional (test yes no : Expr)

namespace Expr

mutual

/-- The expressions are equal; floating-point numbers are compared as numbers. -/
def sameAs : Expr → Expr → Bool
  | .literal v, .literal w => v.sameAs w
  | .variable x, .variable y => x == y
  | .unary o a, .unary p b => o == p && a.sameAs b
  | .binary o a b, .binary p c d => o == p && a.sameAs c && b.sameAs d
  | .group as, .group bs => allSame as bs
  | .assign x a, .assign y b => x == y && a.sameAs b
  | .object ms, .object ns => membersSame ms ns
  | .array as, .array bs => allSame as bs
  | .member a x, .member b y => a.sameAs b && x == y
  | .index a k, .index b l => a.sameAs b && k.sameAs l
  | .lambda ps a, .lambda qs b => ps == qs && a.sameAs b
  | .call a as, .call b bs => a.sameAs b && allSame as bs
  | .conditional a b c, .conditional d e f => a.sameAs d && b.sameAs e && c.sameAs f
  | _, _ => false

/-- The lists hold the same expressions. -/
def allSame : List Expr → List Expr → Bool
  | [], [] => true
  | a :: as, b :: bs => a.sameAs b && allSame as bs
  | _, _ => false

/-- The lists hold the same names with the same expressions. -/
def membersSame : List (String × Expr) → List (String × Expr) → Bool
  | [], [] => true
  | (x, a) :: ms, (y, b) :: ns => x == y && a.sameAs b && membersSame ms ns
  | _, _ => false

end

end Expr

end LambdaQuery
