import LambdaQuery.Command.Invocation
import LambdaQuery.Http.Exchange
import LambdaQuery.Json.Printer
import LambdaQuery.Options.Json

/-!
# Running a command line

A command line is run in three steps: its options, variables and operations make a query, the
query is compiled, and its parameters are printed or sent.  The first failure ends the run.

## Main definitions

* `LambdaQuery.Command.parseLiteral` — the value of a literal argument.
* `LambdaQuery.Command.queryOf` — the query of a command line.
* `LambdaQuery.Command.Output` — what a run leaves behind.
* `LambdaQuery.Command.run` — the run of a command line.
-/

set_option autoImplicit false

namespace LambdaQuery.Command

/-- Why a run failed: a message, and what caused it. -/
structure Report where
  /-- The message. -/
  message : String
  /-- The cause. -/
  cause : Option String := none
deriving DecidableEq

/-- The text with every line set in. -/
def indentLines (s : List Char) : List Char :=
  "    ".toList ++ s.flatMap fun c => if c = '\n' then "\n    ".toList else [c]

/-- The text of a report. -/
def Report.text (r : Report) : String :=
  "Error: " ++ r.message ++
    (match r.cause with
      | none => ""
      | some cause => "\n\nCaused by:\n" ++ String.ofList (indentLines cause.toList)) ++ "\n"

/-! ## The query of a command line -/

/-- The value of a literal argument.  What is no literal is a text, except what is negated and no
number. -/
def parseLiteral (text : String) : Except Report Value :=
  match parse text with
  | .ok (.literal v) => .ok v
  | .ok (.unary "-" (.literal (.int n))) => .ok (.int (-n))
  | .ok (.unary "-" (.literal (.float x))) => .ok (.float x.neg)
  | .ok (.unary "-" _) => .error { message := "'" ++ text ++ "' is not a literal" }
  | _ => .ok (.string text)

/-- The texts before and after the first occurrence of a character, without the white space around
them. -/
def cutAt? (c : Char) (s : String) : Option (String × String) :=
  match s.toList.dropWhile (· != c) with
  | [] => none
  | _ :: behind =>
    some (String.ofList (Text.trim (s.toList.takeWhile (· != c))),
      String.ofList (Text.trim behind))

/-- Captures a variable that is given as `name=literal`. -/
def captureVar (q : Query) (var : String) : Except Report Query :=
  match cutAt? '=' var with
  | none => .error { message := "--var '" ++ var ++ "' must be written name=literal" }
  | some (name, literal) => (parseLiteral literal).map (q.capture name)

/-- The argument of an operation of the kind is a literal. -/
def takesLiteral : Kind → Bool
  | .skip | .take | .inlineCount => true
  | _ => false

/-- Adds an operation that is given as `kind:argument`. -/
def addOperation (q : Query) (operation : String) : Except Report Query :=
  match cutAt? ':' operation with
  | none => .error { message := "operation '" ++ operation ++ "' must be written kind:argument" }
  | some (kindName, argument) =>
    let kind := Kind.ofName kindName
    if takesLiteral kind then
      (parseLiteral argument).map fun v => q.push (.ofValue kind v)
    else
      (q.withSource kind argument).mapError fun e =>
        { message := "invalid lambda in '" ++ operation ++ "'", cause := some e.message }

/-- Sets the options that are given as JSON. -/
def addOptions (q : Query) : Option String → Except Report Query
  | none => .ok q
  | some json =>
    match Options.read? json with
    | some o => .ok (q.withOptions o)
    | none =>
      .error { message := "invalid --options", cause := some "the text is no options object" }

/-- The query of a command line. -/
def queryOf (i : Invocation) : Except Report Query := do
  let q := (Query.ofCollection i.collection).withOptions (Options.empty.withPascalize i.pascalize)
  let q ← addOptions q i.options
  let q ← i.vars.foldlM captureVar q
  i.operations.foldlM addOperation q

/-! ## Running -/

/-- What a run leaves behind. -/
structure Output where
  /-- The exit code. -/
  exit : UInt32
  /-- The text on the standard output. -/
  stdout : String := ""
  /-- The text on the standard error. -/
  stderr : String := ""
  /-- The requests that arrived. -/
  requests : List Http.Request := []

/-- The output of a failed run. -/
def Output.ofReport (r : Report) (requests : List Http.Request) : Output :=
  { exit := 1, stderr := r.text, requests := requests }

/-- The lines that a dry run prints. -/
def parameterLines (params : List Parameter) : String :=
  String.join (params.map fun p => p.key ++ "=" ++ p.value ++ "\n")

/-- Prints the parameters of a query. -/
def dryRun (q : Query) : Output :=
  match q.parameters with
  | .ok compiled => { exit := 0, stdout := parameterLines compiled.params }
  | .error e => .ofReport { message := e.message } []

/-- The report of a failed execution. -/
def reportOf (e : ExecuteError Http.Failure) : Report where
  message := e.message Http.Failure.message
  cause :=
    match e with
    | .compile e => some e.message
    | .transport e => some e.message
    | .decode => none

/-- Sends a query and prints the result. -/
def send (delivery : Http.Delivery) (base : String) (q : Query) : Output :=
  let execution := q.execute (Http.transport delivery base)
  let requests := execution.calls.flatMap fun c => (Http.exchange delivery base c).sent
  match execution.result with
  | .ok body => { exit := 0, stdout := body.indented ++ "\n", requests := requests }
  | .error e => .ofReport (reportOf e) requests

/-- The output for a command line that is not understood. -/
def Output.ofUsageError : UsageError → Output
  | .help => { exit := 0, stdout := UsageError.help.message ++ "\n" }
  | e => { exit := 2, stderr := "error: " ++ e.message ++ "\n" }

/-- The run of a command line, given what the network does with a request. -/
def run (delivery : Http.Delivery) (arguments : List String) : Output :=
  match Invocation.ofArguments arguments with
  | .error e => .ofUsageError e
  | .ok i =>
    match queryOf i with
    | .error r => .ofReport r []
    | .ok q => if i.dryRun then dryRun q else send delivery i.base q

end LambdaQuery.Command
