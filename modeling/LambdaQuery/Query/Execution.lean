import LambdaQuery.Json.Basic
import LambdaQuery.Query.Builder

/-!
# Executing a query

A query is compiled and handed to a transport, which answers with a JSON value.  If it cannot be
compiled, the transport is not called.  A service may wrap the result in an object; the result is
then its member `value`.

## Main definitions

* `LambdaQuery.Transport` — what sends a compiled query.
* `LambdaQuery.Execution` — the calls of a transport and the result.
* `LambdaQuery.Json.unwrapEnvelope` — the result inside the answer of a service.
* `LambdaQuery.Query.perform` — the execution of a query by a transport that acts in a monad.
* `LambdaQuery.Query.execute`, `LambdaQuery.Query.executeList` — the execution of a query, with a
  record of the calls.
-/

set_option autoImplicit false

namespace LambdaQuery

/-- What sends a compiled query and returns the answer, or an error of its own. -/
abbrev Transport (ε : Type) := Compiled → Except ε Json

/-- Why a query has no result. -/
inductive ExecuteError (ε : Type) where
  /-- It cannot be compiled. -/
  | compile (e : CompileError)
  /-- The transport failed. -/
  | transport (e : ε)
  /-- The result has not the expected form. -/
  | decode
deriving DecidableEq

/-- The wording of the error, given the wording of the transport's errors. -/
def ExecuteError.message {ε : Type} (wording : ε → String) : ExecuteError ε → String
  | .compile e => "Compile error: " ++ e.message
  | .transport e => "Transport error: " ++ wording e
  | .decode => "Failed to decode response"

/-- The calls of a transport and the result of an execution. -/
structure Execution (ε α : Type) where
  /-- The compiled queries that the transport was called with, in order. -/
  calls : List Compiled
  /-- The result. -/
  result : Except (ExecuteError ε) α

namespace Json

/-- The result inside the answer of a service: the member `value` of an object if there is one
that is not `null`, and otherwise the answer itself. -/
def unwrapEnvelope (body : Json) : Json :=
  match body.member? "value" with
  | none => body
  | some .null => body
  | some v => v

/-- The value as a whole number of 64 bits with sign. -/
def int64? : Json → Option Int64
  | .number (.whole n) =>
    if -Int.pow 2 63 ≤ n ∧ n < Int.pow 2 63 then some (Int64.ofInt n) else none
  | _ => none

/-- The value as a text. -/
def text? : Json → Option String
  | .string s => some s
  | _ => none

/-- The value as a truth value. -/
def bool? : Json → Option Bool
  | .bool b => some b
  | _ => none

/-- The value as a list of elements of one form. -/
def list? {α : Type} (element? : Json → Option α) : Json → Option (List α)
  | .array items => items.mapM element?
  | _ => none

end Json

namespace Query

variable {ε : Type}

/-- Compiles the operations, calls the transport and takes the result out of its answer.  The
transport acts in a monad of its own, which may hold a connection or a log. -/
def performParts {m : Type → Type} [Monad m] (send : Compiled → m (Except ε Json))
    (parts : List Part) : m (Except (ExecuteError ε) Json) :=
  match compileParts parts with
  | .error e => return .error (.compile e)
  | .ok compiled => do
    let answer ← send compiled
    return (answer.map Json.unwrapEnvelope).mapError .transport

/-- Executes a query by a transport that acts in a monad. -/
def perform {m : Type → Type} [Monad m] (send : Compiled → m (Except ε Json)) (q : Query) :
    m (Except (ExecuteError ε) Json) :=
  performParts send (q.parts ++ [.materialize])

/-- Calls a transport and writes down what it was called with. -/
def recorded (transport : Transport ε) (query : Compiled) :
    StateM (List Compiled) (Except ε Json) := do
  modify (· ++ [query])
  return transport query

/-- Executes a query. -/
def execute (transport : Transport ε) (q : Query) : Execution ε Json :=
  let (result, calls) := (q.perform (recorded transport)).run []
  ⟨calls, result⟩

/-- Executes a query whose result is a list of elements of one form. -/
def executeList {α : Type} (element? : Json → Option α) (transport : Transport ε) (q : Query) :
    Execution ε (List α) :=
  let ⟨calls, result⟩ := q.execute transport
  ⟨calls, do
    let payload ← result
    match payload.list? element? with
    | some items => return items
    | none => throw .decode⟩

end Query

end LambdaQuery
