/-!
# Words of the query protocol

Operators and methods of an expression have their own words in the query options of OData, the
protocol that queries are sent by.  What has no word there is passed on as it is.

## Main definitions

* `LambdaQuery.Vocabulary.infixWord`, `LambdaQuery.Vocabulary.signWord` — the word of an operator.
* `LambdaQuery.Vocabulary.functionName` — the function that a method becomes.
-/

set_option autoImplicit false

namespace LambdaQuery.Vocabulary

/-- The words of the operators between two operands. -/
def infixWords : List (String × String) :=
  [("==", "eq"), ("===", "eq"), ("!=", "ne"), ("!==", "ne"), (">", "gt"), (">=", "ge"),
   ("<", "lt"), ("<=", "le"), ("+", "add"), ("-", "sub"), ("*", "mul"), ("/", "div"),
   ("%", "mod"), ("&&", "and"), ("||", "or")]

/-- The words of the operators before an operand. -/
def signWords : List (String × String) := [("!", "not")]

/-- The functions that methods become; the owner is passed as the first argument. -/
def functionNames : List (String × String) :=
  [("endsWith", "endswith"), ("startsWith", "startswith"), ("indexOf", "indexof"),
   ("replace", "replace"), ("substr", "substring"), ("toLowerCase", "tolower"),
   ("toUpperCase", "toupper"), ("trim", "trim"), ("concat", "concat"), ("getDate", "day"),
   ("getHours", "hour"), ("getMinutes", "minute"), ("getMonth", "month"),
   ("getSeconds", "second"), ("getFullYear", "year")]

/-- The owner whose functions are called without it. -/
def mathOwner : String := "Math"

/-- The functions of `mathOwner`. -/
def mathFunctions : List String := ["round", "floor", "ceiling"]

/-- The methods of a collection that take a function of its elements. -/
def collectionMethods : List String := ["any", "all"]

/-- The word of an operator between two operands. -/
def infixWord (op : String) : String := (infixWords.lookup op).getD op

/-- The word of an operator before an operand. -/
def signWord (op : String) : String := (signWords.lookup op).getD op

/-- The function that a method becomes. -/
def functionName (method : String) : String := (functionNames.lookup method).getD method

end LambdaQuery.Vocabulary
