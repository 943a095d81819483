import LambdaQuery.Clause
import LambdaQuery.Query.Part

/-!
# Compiled queries

The operations of a query become query parameters.  Neighbouring ordering operations become one
parameter together, and every other operation becomes one of its own.  Operations that set options
and the mark at the end become none, wherever they stand; the options decide for the whole query
how member names are written.

## Main definitions

* `LambdaQuery.Compiled` — the parameters and options of a query.
* `LambdaQuery.Part.parameter` — the parameter of one operation.
* `LambdaQuery.compileParts` — the parameters of a list of operations.
-/

set_option autoImplicit false

namespace LambdaQuery

/-- The parameters and options of a query. -/
structure Compiled where
  /-- The parameters, in order. -/
  params : List Parameter
  /-- The options objects, in order. -/
  options : List Options
deriving DecidableEq

namespace Compiled

/-- The value of the first parameter with the given key. -/
def get? (c : Compiled) (key : String) : Option String :=
  (c.params.find? (·.key == key)).map (·.value)

/-- The options objects as one. -/
def mergedOptions (c : Compiled) : Options := Options.merge c.options

end Compiled

namespace Argument

/-- The text of an argument; an options object has none. -/
def text? (pascalize : Bool) : Argument → Option (Except CompileError String)
  | .expression e scopes => some (e.clause scopes pascalize)
  | .literal v => some (.ok (String.ofList v.literal))
  | .options _ => none

end Argument

namespace Part

/-- The texts of the arguments, with commas between them. -/
def argumentText (pascalize : Bool) (p : Part) : Except CompileError String := do
  let texts ← (p.args.filterMap (·.text? pascalize)).mapM id
  return String.intercalate ", " texts

/-- The clause of an ordering operation. -/
def orderingClause (pascalize : Bool) (p : Part) : Except CompileError String := do
  let text ← p.argumentText pascalize
  return if p.kind.isDescending then text ++ " desc" else text

/-- What is asked of the number of elements: nothing if it is switched off. -/
def inlineCountText : List Argument → String
  | .literal (.bool false) :: _ => ""
  | _ => "allpages"

/-- The parameter of an operation other than an ordering one. -/
def parameter (pascalize : Bool) (p : Part) : Except CompileError Parameter :=
  match p.kind with
  | .filter => return ⟨"$filter", ← p.argumentText pascalize⟩
  | .select => return ⟨"$select", ← p.argumentText pascalize⟩
  | .skip => return ⟨"$skip", ← p.argumentText pascalize⟩
  | .take => return ⟨"$take", ← p.argumentText pascalize⟩
  | .inlineCount => return ⟨"$inlinecount", inlineCountText p.args⟩
  | kind => throw (.unsupportedOperation kind.name)

/-- The operation says something about options or about the end of the query only. -/
def isSilent (p : Part) : Bool := p.kind == .applyOptions || p.kind == .materialize

end Part

/-- The parameter of neighbouring ordering operations; none if there are none. -/
def orderingParameter (pascalize : Bool) : List Part → Except CompileError (List Parameter)
  | [] => return []
  | run => do
    let clauses ← run.mapM (·.orderingClause pascalize)
    return [⟨"$orderby", String.intercalate ", " clauses⟩]

/-- The parameters of a list of operations; `pending` are the ordering operations just before
it. -/
def parametersAfter (pascalize : Bool) (pending : List Part) :
    List Part → Except CompileError (List Parameter)
  | [] => orderingParameter pascalize pending
  | p :: ps =>
    if p.isSilent then parametersAfter pascalize pending ps
    else if p.kind.isOrdering then parametersAfter pascalize (pending ++ [p]) ps
    else do
      let ordering ← orderingParameter pascalize pending
      let parameter ← p.parameter pascalize
      let others ← parametersAfter pascalize [] ps
      return ordering ++ parameter :: others

/-- The options objects that operations set, in order. -/
def optionsOf (parts : List Part) : List Options :=
  (parts.filter (·.kind == .applyOptions)).flatMap fun p => p.args.filterMap (·.options?)

/-- Whether member names are written with a capital: the last options object that says so
decides. -/
def pascalizeOf (options : List Options) : Bool :=
  (options.reverse.findSome? (·.pascalize)).getD false

/-- The parameters and options of a list of operations. -/
def compileParts (parts : List Part) : Except CompileError Compiled := do
  let options := optionsOf parts
  let params ← parametersAfter (pascalizeOf options) [] parts
  return ⟨params, options⟩

end LambdaQuery
