/-!
# Operators of expressions

The operators between two operands form six levels.  Operators of one level group to the left,
and operators of a later level bind more tightly than those of an earlier one.

## Main definitions

* `LambdaQuery.Operator.levels` — the operators between operands, loosest level first.
* `LambdaQuery.Operator.precedence` — how tightly an operator binds.
* `LambdaQuery.Operator.signs` — the operators before an operand.
-/

set_option autoImplicit false

namespace LambdaQuery.Operator

/-- The operators between two operands, the loosest level first.  Within a level an operator
stands before every operator that begins it. -/
def levels : List (List String) :=
  [["||"], ["&&"], ["===", "!==", "==", "!="], ["<=", ">=", "<", ">"], ["+", "-"], ["*", "/", "%"]]

/-- The operators before an operand. -/
def signs : List String := ["!", "-", "+"]

/-- How tightly an operator binds: the number of its level, and zero for a text that is no
operator. -/
def precedence (op : String) : Nat :=
  match levels.findIdx? (·.contains op) with
  | some level => level + 1
  | none => 0

end LambdaQuery.Operator
