import LambdaQuery.Expr.Basic
import LambdaQuery.Options.Basic
import LambdaQuery.Scope

/-!
# Operations of a query

A query is a list of operations, each of a kind and with arguments.

## Main definitions

* `LambdaQuery.Kind` — the kind of an operation, and its name.
* `LambdaQuery.Argument` — an argument of an operation.
* `LambdaQuery.Part` — an operation.
-/

set_option autoImplicit false

namespace LambdaQuery

/-- The kind of an operation. -/
inductive Kind where
  /-- Keeps the elements that satisfy a condition. -/
  | filter
  /-- Projects the elements. -/
  | select
  /-- Leaves out the first elements. -/
  | skip
  /-- Takes the first elements. -/
  | take
  /-- Orders the elements. -/
  | orderBy
  /-- Orders the elements from the greatest down. -/
  | orderByDescending
  /-- Orders elements that are equal so far. -/
  | thenBy
  /-- Orders elements that are equal so far from the greatest down. -/
  | thenByDescending
  /-- Asks for the number of elements. -/
  | inlineCount
  /-- Sets options. -/
  | applyOptions
  /-- Marks the end of the query. -/
  | materialize
  /-- Any other operation. -/
  | other (name : String)
deriving DecidableEq

namespace Kind

/-- The name of the kind. -/
def name : Kind → String
  | .filter => "where"
  | .select => "select"
  | .skip => "skip"
  | .take => "take"
  | .orderBy => "orderBy"
  | .orderByDescending => "orderByDescending"
  | .thenBy => "thenBy"
  | .thenByDescending => "thenByDescending"
  | .inlineCount => "inlineCount"
  | .applyOptions => "applyOptions"
  | .materialize => "materialize"
  | .other name => name

/-- The kinds that have a name of their own. -/
def known : List Kind :=
  [.filter, .select, .skip, .take, .orderBy, .orderByDescending, .thenBy, .thenByDescending,
   .inlineCount, .applyOptions, .materialize]

/-- The kind with the given name. -/
def ofName (name : String) : Kind := (known.find? (·.name == name)).getD (.other name)

/-- The operation orders the elements. -/
def isOrdering : Kind → Bool
  | .orderBy | .orderByDescending | .thenBy | .thenByDescending => true
  | _ => false

/-- The operation orders the elements from the greatest down. -/
def isDescending : Kind → Bool
  | .orderByDescending | .thenByDescending => true
  | _ => false

/-- The kind is not one of the known ones. -/
def isOther : Kind → Bool
  | .other _ => true
  | _ => false

end Kind

/-- An argument of an operation. -/
inductive Argument where
  /-- An expression and the variables captured where it was written. -/
  | expression (e : Expr) (scopes : Scopes)
  /-- A value. -/
  | literal (v : Value)
  /-- An options object. -/
  | options (o : Options)

/-- The options object of an argument. -/
def Argument.options? : Argument → Option Options
  | .options o => some o
  | _ => none

/-- An operation. -/
structure Part where
  /-- The kind of the operation. -/
  kind : Kind
  /-- The arguments of the operation. -/
  args : List Argument

namespace Part

/-- An operation on an expression. -/
def ofExpr (kind : Kind) (e : Expr) (scopes : Scopes) : Part := ⟨kind, [.expression e scopes]⟩

/-- An operation with a value. -/
def ofValue (kind : Kind) (v : Value) : Part := ⟨kind, [.literal v]⟩

/-- The operation that sets options. -/
def ofOptions (o : Options) : Part := ⟨.applyOptions, [.options o]⟩

/-- The mark at the end of a query. -/
def materialize : Part := ⟨.materialize, []⟩

end Part

end LambdaQuery
