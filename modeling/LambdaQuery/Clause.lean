import LambdaQuery.Source
import LambdaQuery.Expr.Printer
import LambdaQuery.Scope
import LambdaQuery.Text.Capital
import LambdaQuery.Vocabulary

/-!
# Clauses of a query

An expression is rendered as a clause of an OData query option.  The outermost function of a clause
is the clause itself: it is rendered as its body, and its parameters as nothing.  Every other
function is the argument of a collection method and keeps its parameters.  A captured variable is
rendered as a literal.

## Main definitions

* `LambdaQuery.Clause.Context` — what rendering depends on besides the expression.
* `LambdaQuery.Clause.Rendering` — a step of rendering, which knows whether the outermost function
  is still to come.
* `LambdaQuery.Expr.render` — the rendering of an expression.
* `LambdaQuery.Expr.clause` — the clause of an expression.
* `LambdaQuery.compileSource` — the clause of a source text.

## Design

The parts of an expression are rendered from left to right, except that the arguments of a method
call come before its owner.  The order decides which function is the outermost one and which error
is reported.
-/

set_option autoImplicit false

namespace LambdaQuery

/-- Why something has no counterpart in the query protocol. -/
inductive CompileError where
  /-- The operation is unknown to the protocol. -/
  | unsupportedOperation (name : String)
  /-- Something is called that is neither a name nor a method. -/
  | invalidCallTarget (callee : String)
deriving DecidableEq

/-- The wording of the error. -/
def CompileError.message : CompileError → String
  | .unsupportedOperation name => name ++ " is not supported."
  | .invalidCallTarget callee => "Invalid function call " ++ callee

namespace Clause

/-- What rendering depends on besides the expression. -/
structure Context where
  /-- The captured variables. -/
  scopes : Scopes
  /-- Member names are written with a capital. -/
  pascalize : Bool

/-- A step of rendering.  The state says whether the outermost function is still to come. -/
abbrev Rendering (α : Type) := StateT Bool (Except CompileError) α

/-- A variable: nothing for a parameter of the outermost function, a literal for a captured
variable, and its name otherwise. -/
def variableText (ctx : Context) (bound : List String) (name : String) : List Char :=
  if name ∈ bound then []
  else
    match ctx.scopes.lookup name with
    | some v => v.literal
    | none => name.toList

/-- The name of a member. -/
def memberText (ctx : Context) (name : String) : List Char :=
  if ctx.pascalize then Text.capitalize name.toList else name.toList

/-- A path step from an owner, which is left out if it is empty. -/
def pathText (owner step : List Char) : List Char :=
  if owner.isEmpty then step else owner ++ '/' :: step

/-- A member of an owner. -/
def accessText (ctx : Context) (owner : List Char) (name : String) : List Char :=
  if name = "length" then "length(".toList ++ owner ++ [')']
  else pathText owner (memberText ctx name)

/-- A call of a function. -/
def callText (function : List Char) (args : List (List Char)) : List Char :=
  function ++ '(' :: Expr.commaList args ++ [')']

/-- The owner as an argument, which is left out if it is empty. -/
def ownerArgument (owner : List Char) : List (List Char) := if owner.isEmpty then [] else [owner]

/-- A call of a method. -/
def methodText (owner : List Char) (name : String) (args : List (List Char)) : List Char :=
  if owner = Vocabulary.mathOwner.toList ∧ name ∈ Vocabulary.mathFunctions then
    callText name.toList args
  else if name = "includes" then callText "substringof".toList (args ++ ownerArgument owner)
  else if name ∈ Vocabulary.collectionMethods then pathText owner (callText name.toList args)
  else callText (Vocabulary.functionName name).toList (ownerArgument owner ++ args)

/-- A function that is not the outermost one. -/
def functionText (params : List String) (body : List Char) : List Char :=
  Expr.commaList (params.map String.toList) ++ ':' :: ' ' :: body

end Clause

namespace Expr

open Clause

mutual

/-- The rendering of an expression; `bound` are the parameters of the outermost function. -/
def render (ctx : Context) (bound : List String) : Expr → Rendering (List Char)
  | .literal v => return v.literal
  | .variable x => return variableText ctx bound x
  | .unary op e => do
    let t ← e.render ctx bound
    return (Vocabulary.signWord op).toList ++ t
  | .binary op a b => do
    let s ← a.render ctx bound
    let t ← b.render ctx bound
    return s ++ ' ' :: (Vocabulary.infixWord op).toList ++ ' ' :: t
  | .group es => do
    let ts ← renderAll ctx bound es
    return '(' :: commaList ts ++ [')']
  | .assign _ e => e.render ctx bound
  | .object ms => do
    let ts ← renderMembers ctx bound ms
    return commaList ts
  | .array es => do
    let ts ← renderAll ctx bound es
    return '[' :: commaList ts ++ [']']
  | .member e x => do
    let owner ← e.render ctx bound
    return accessText ctx owner x
  | .index e k => do
    let owner ← e.render ctx bound
    let key ← k.render ctx bound
    return owner ++ '[' :: key ++ [']']
  | .lambda ps e => do
    if ← get then
      set false
      e.render ctx (bound ++ ps)
    else
      let body ← e.render ctx (bound.filter (· ∉ ps))
      return functionText ps body
  | .call (.member e x) args => do
    let ts ← renderAll ctx bound args
    let owner ← e.render ctx bound
    return methodText owner x ts
  | .call (.variable x) args => do
    let ts ← renderAll ctx bound args
    return callText x.toList ts
  | .call callee _ => throw (.invalidCallTarget callee.print)
  | .conditional a b c => do
    let test ← a.render ctx bound
    let yes ← b.render ctx bound
    let no ← c.render ctx bound
    return test ++ ' ' :: '?' :: ' ' :: yes ++ ' ' :: ':' :: ' ' :: no

/-- The renderings of expressions, from left to right. -/
def renderAll (ctx : Context) (bound : List String) : List Expr → Rendering (List (List Char))
  | [] => return []
  | e :: es => do
    let t ← e.render ctx bound
    let ts ← renderAll ctx bound es
    return t :: ts

/-- The renderings of the members of an object, from left to right. -/
def renderMembers (ctx : Context) (bound : List String) :
    List (String × Expr) → Rendering (List (List Char))
  | [] => return []
  | (x, e) :: ms => do
    let t ← e.render ctx bound
    let ts ← renderMembers ctx bound ms
    return (x.toList ++ " as ".toList ++ t) :: ts

end

/-- The clause of an expression in which the names in `bound` are parameters already. -/
def clauseWithin (ctx : Context) (bound : List String) (e : Expr) : Except CompileError String :=
  ((e.render ctx bound).run true).map fun r => String.ofList r.1

/-- The clause of an expression. -/
def clause (scopes : Scopes) (pascalize : Bool) (e : Expr) : Except CompileError String :=
  e.clauseWithin ⟨scopes, pascalize⟩ []

end Expr

/-- Why a source text has no clause. -/
inductive SourceError where
  /-- It is no expression. -/
  | parse (e : ParseError)
  /-- The expression has no clause. -/
  | compile (e : CompileError)
deriving DecidableEq

/-- The wording of the error. -/
def SourceError.message : SourceError → String
  | .parse e => "Parse error: " ++ e.message
  | .compile e => "Compile error: " ++ e.message

/-- The clause of a source text. -/
def compileSource (source : String) (scopes : Scopes) (pascalize : Bool) :
    Except SourceError String :=
  match parse source with
  | .error e => .error (.parse e)
  | .ok e => (e.clause scopes pascalize).mapError .compile

end LambdaQuery
