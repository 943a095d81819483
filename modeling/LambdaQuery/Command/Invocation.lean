/-!
# Arguments of the command line

The command line names a collection and the operations of a query on it, and has options, which
may stand anywhere before a `--`.

## Main definitions

* `LambdaQuery.Command.Invocation` — what a command line asks for.
* `LambdaQuery.Command.UsageError` — why a command line is not understood.
* `LambdaQuery.Command.Invocation.ofArguments` — the meaning of a command line.
-/

set_option autoImplicit false

namespace LambdaQuery.Command

/-- What a command line asks for. -/
structure Invocation where
  /-- The collection. -/
  collection : String
  /-- The operations, each as a kind and an argument. -/
  operations : List String
  /-- The address of the service. -/
  base : String
  /-- The variables to capture, each as a name and a literal. -/
  vars : List String
  /-- Member names are written with a capital. -/
  pascalize : Bool
  /-- An options object as JSON. -/
  options : Option String
  /-- The parameters are printed and nothing is sent. -/
  dryRun : Bool
deriving DecidableEq

/-- Why a command line is not understood. -/
inductive UsageError where
  /-- Help is asked for. -/
  | help
  /-- There is no such option. -/
  | unknownOption (argument : String)
  /-- The option needs a value. -/
  | missingValue (option : String)
  /-- The option takes no value. -/
  | unexpectedValue (option : String)
  /-- The option is given twice. -/
  | repeatedOption (option : String)
  /-- No collection is named. -/
  | missingCollection
deriving DecidableEq

/-- The wording of the error. -/
def UsageError.message : UsageError → String
  | .help =>
    "arguments: COLLECTION [KIND:ARGUMENT ...] [--base URL] [--var NAME=LITERAL] " ++
      "[--pascalize] [--options JSON] [--dry-run]"
  | .unknownOption a => "unexpected argument '" ++ a ++ "' found"
  | .missingValue o => "a value is required for '" ++ o ++ "' but none was supplied"
  | .unexpectedValue o => "unexpected value for '" ++ o ++ "' found"
  | .repeatedOption o => "the argument '" ++ o ++ "' cannot be used multiple times"
  | .missingCollection => "the collection is required"

/-- The address of the service if none is given. -/
def defaultBase : String := "http://localhost:8080/odata"

/-- A command line of which a part has been read. -/
structure Draft where
  /-- The arguments that are no options. -/
  positional : List String := []
  /-- The address of the service. -/
  base : Option String := none
  /-- The variables to capture. -/
  vars : List String := []
  /-- Member names are written with a capital. -/
  pascalize : Bool := false
  /-- An options object as JSON. -/
  options : Option String := none
  /-- Nothing is sent. -/
  dryRun : Bool := false
  /-- The option whose value comes next. -/
  awaiting : Option String := none
  /-- A `--` has been read. -/
  optionsEnded : Bool := false

/-- The argument has the form of an option.  A single `-` has not. -/
def looksLikeOption (argument : String) : Bool :=
  match argument.toList with
  | '-' :: _ :: _ => true
  | _ => false

/-- The name of an option and the value attached to it behind an equals sign. -/
def splitOption (argument : String) : String × Option String :=
  let name := String.ofList (argument.toList.takeWhile (· != '='))
  match argument.toList.dropWhile (· != '=') with
  | [] => (name, none)
  | _ :: value => (name, some (String.ofList value))

/-- The argument asks for help. -/
def asksForHelp (argument : String) : Bool :=
  argument == "--help" || "-h".toList.isPrefixOf argument.toList

/-- The options that have a value. -/
def valueOptions : List String := ["--base", "--options", "--var"]

/-- The options that have none. -/
def switches : List String := ["--pascalize", "--dry-run"]

namespace Draft

/-- Adds an argument that is no option. -/
def addPositional (d : Draft) (argument : String) : Draft :=
  { d with positional := d.positional ++ [argument] }

/-- Sets an option that has no value. -/
def setSwitch (d : Draft) (name : String) : Except UsageError Draft :=
  if name = "--pascalize" then
    if d.pascalize then .error (.repeatedOption name) else .ok { d with pascalize := true }
  else if d.dryRun then .error (.repeatedOption name)
  else .ok { d with dryRun := true }

/-- Sets an option that has a value; only a variable may be given more than once. -/
def setValue (d : Draft) (name value : String) : Except UsageError Draft :=
  if name = "--base" then
    if d.base.isSome then .error (.repeatedOption name) else .ok { d with base := some value }
  else if name = "--options" then
    if d.options.isSome then .error (.repeatedOption name)
    else .ok { d with options := some value }
  else .ok { d with vars := d.vars ++ [value] }

/-- Reads an argument that has the form of an option. -/
def readOption (d : Draft) (argument : String) : Except UsageError Draft :=
  let (name, attached) := splitOption argument
  if name ∈ switches then
    if attached.isSome then .error (.unexpectedValue name) else d.setSwitch name
  else if name ∈ valueOptions then
    match attached with
    | some value => d.setValue name value
    | none => .ok { d with awaiting := some name }
  else .error (if asksForHelp argument then .help else .unknownOption argument)

/-- Reads an argument.  Behind a `--` none has the form of an option, and no value of an option
has. -/
def read (d : Draft) (argument : String) : Except UsageError Draft :=
  if d.optionsEnded then .ok (d.addPositional argument)
  else
    match d.awaiting with
    | some name =>
      if looksLikeOption argument then .error (.missingValue name)
      else { d with awaiting := none }.setValue name argument
    | none =>
      if argument = "--" then .ok { d with optionsEnded := true }
      else if looksLikeOption argument then d.readOption argument
      else .ok (d.addPositional argument)

/-- What the arguments ask for once all are read. -/
def finish (d : Draft) : Except UsageError Invocation :=
  match d.awaiting, d.positional with
  | some name, _ => .error (.missingValue name)
  | none, [] => .error .missingCollection
  | none, collection :: operations =>
    .ok ⟨collection, operations, d.base.getD defaultBase, d.vars, d.pascalize, d.options, d.dryRun⟩

end Draft

/-- The meaning of a command line. -/
def Invocation.ofArguments (arguments : List String) : Except UsageError Invocation := do
  let d ← arguments.foldlM Draft.read {}
  d.finish

end LambdaQuery.Command
