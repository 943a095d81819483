import LambdaQuery.Bindings

/-!
# Options of a request

An options object says where and how a query is sent and how member names are written.  All of it
is optional, so several objects can be laid over each other: a later setting replaces an earlier
one, headers are set one by one, and parameters are collected.

## Main definitions

* `LambdaQuery.Parameter` — a query parameter.
* `LambdaQuery.Options` — an options object.
* `LambdaQuery.Options.overlay`, `LambdaQuery.Options.merge` — several objects as one.
-/

set_option autoImplicit false

namespace LambdaQuery

/-- A query parameter. -/
structure Parameter where
  /-- The name of the parameter. -/
  key : String
  /-- The value of the parameter. -/
  value : String
deriving DecidableEq

/-- An options object. -/
structure Options where
  /-- Where the collection is, relative to the service. -/
  url : Option String := none
  /-- The request method. -/
  method : Option String := none
  /-- The request headers. -/
  headers : Bindings String := .empty
  /-- Parameters that are sent before those of the query. -/
  params : List Parameter := []
  /-- The time limit of the request in milliseconds. -/
  timeoutMs : Option UInt64 := none
  /-- Whether member names are written with a capital. -/
  pascalize : Option Bool := none
deriving DecidableEq

namespace Options

/-- An options object that sets nothing. -/
def empty : Options := {}

/-- Sets the place of the collection. -/
def withUrl (o : Options) (url : String) : Options := { o with url := some url }

/-- Sets the method. -/
def withMethod (o : Options) (method : String) : Options := { o with method := some method }

/-- Sets a header. -/
def withHeader (o : Options) (name value : String) : Options :=
  { o with headers := o.headers.set name value }

/-- Adds a parameter. -/
def withParam (o : Options) (key value : String) : Options :=
  { o with params := o.params ++ [⟨key, value⟩] }

/-- Sets the time limit. -/
def withTimeoutMs (o : Options) (ms : UInt64) : Options := { o with timeoutMs := some ms }

/-- Sets how member names are written. -/
def withPascalize (o : Options) (pascalize : Bool) : Options :=
  { o with pascalize := some pascalize }

/-- The object `later` laid over the object `o`. -/
def overlay (o later : Options) : Options where
  url := later.url <|> o.url
  method := later.method <|> o.method
  headers := o.headers.update later.headers.entries
  params := o.params ++ later.params
  timeoutMs := later.timeoutMs <|> o.timeoutMs
  pascalize := later.pascalize <|> o.pascalize

/-- Options objects laid over each other, the first one at the bottom. -/
def merge (os : List Options) : Options := os.foldl overlay empty

end Options

end LambdaQuery
