import LambdaQuery.Query.Compiled

/-!
# Building a query

A query is built step by step.  A step adds an operation, or captures a variable for the
expressions that are added after it.

## Main definitions

* `LambdaQuery.Query` — the operations so far and the variables captured so far.
* `LambdaQuery.Query.Step` — a step.
* `LambdaQuery.Query.step` — the query after a step.
-/

set_option autoImplicit false

namespace LambdaQuery

/-- A query that is being built. -/
structure Query where
  /-- The operations so far. -/
  parts : List Part := []
  /-- The variables captured so far. -/
  captured : Frame := .empty

namespace Query

/-- A query without operations. -/
def empty : Query := {}

/-- Captures a variable for the expressions that are added from now on. -/
def capture (q : Query) (name : String) (v : Value) : Query :=
  { q with captured := q.captured.set name v }

/-- Adds an operation. -/
def push (q : Query) (p : Part) : Query := { q with parts := q.parts ++ [p] }

/-- The scopes of an expression that is added now. -/
def scopes (q : Query) : Scopes := if q.captured.isEmpty then [] else [q.captured]

/-- Adds an operation on an expression. -/
def withExpr (q : Query) (kind : Kind) (e : Expr) : Query := q.push (.ofExpr kind e q.scopes)

/-- Adds an operation on an expression that is given as a source text. -/
def withSource (q : Query) (kind : Kind) (source : String) : Except ParseError Query :=
  (parse source).map (q.withExpr kind)

/-- Leaves out the first elements. -/
def skip (q : Query) (count : Int64) : Query := q.push (.ofValue .skip (.int count))

/-- Takes the first elements. -/
def take (q : Query) (count : Int64) : Query := q.push (.ofValue .take (.int count))

/-- Asks for the number of elements, or not. -/
def inlineCount (q : Query) (enabled : Bool) : Query :=
  q.push (.ofValue .inlineCount (.bool enabled))

/-- Sets options. -/
def withOptions (q : Query) (o : Options) : Query := q.push (.ofOptions o)

/-- A query on the collection at `url`. -/
def ofCollection (url : String) : Query := empty.withOptions (Options.empty.withUrl url)

/-- The parameters and options of the query. -/
def parameters (q : Query) : Except CompileError Compiled := compileParts q.parts

/-- A step of building a query. -/
inductive Step where
  /-- Captures a variable. -/
  | capture (name : String) (v : Value)
  /-- Adds an operation on an expression that is given as a source text. -/
  | source (kind : Kind) (text : String)
  /-- Leaves out the first elements. -/
  | skip (count : Int64)
  /-- Takes the first elements. -/
  | take (count : Int64)
  /-- Asks for the number of elements, or not. -/
  | inlineCount (enabled : Bool)
  /-- Sets options. -/
  | options (o : Options)
  /-- Adds an operation on an expression. -/
  | expression (kind : Kind) (e : Expr)
  /-- Adds an operation. -/
  | push (p : Part)

/-- The query after a step. -/
def step (q : Query) : Step → Except ParseError Query
  | .capture name v => .ok (q.capture name v)
  | .source kind text => q.withSource kind text
  | .skip count => .ok (q.skip count)
  | .take count => .ok (q.take count)
  | .inlineCount enabled => .ok (q.inlineCount enabled)
  | .options o => .ok (q.withOptions o)
  | .expression kind e => .ok (q.withExpr kind e)
  | .push p => .ok (q.push p)

end Query

end LambdaQuery
