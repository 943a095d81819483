import LambdaQuery.Http.Url
import LambdaQuery.Query.Compiled

/-!
# Requests

The request of a compiled query: a method, an address and headers.  The method is checked first,
then the headers in their order, and the address last.

## Main definitions

* `LambdaQuery.Http.Request` — a request.
* `LambdaQuery.Http.Failure` — why a query has no answer.
* `LambdaQuery.Http.request` — the request of a compiled query.
-/

set_option autoImplicit false

namespace LambdaQuery.Http

/-- Why a request was not sent or its answer not read. -/
inductive RequestFailure where
  /-- The address is not an absolute one of the hypertext protocol that a request can be sent
  to. -/
  | address
  /-- No connection could be made. -/
  | connection
  /-- The time limit passed without an answer. -/
  | timeout
  /-- There is no time limit and no answer. -/
  | unanswered
  /-- The body of the answer is not JSON. -/
  | body
deriving DecidableEq

/-- Why a query has no answer. -/
inductive Failure where
  /-- The request was not sent or its answer not read. -/
  | request (cause : RequestFailure)
  /-- The service refused the request. -/
  | status (url : String) (status : Nat)
  /-- The method is not one. -/
  | invalidMethod (method : String)
  /-- The name or the value of a header is not one. -/
  | invalidHeader (name : String)
deriving DecidableEq

/-! ## Methods and headers -/

/-- The character may occur in the name of a method or a header. -/
def isTokenChar (c : Char) : Bool := c.isAlphanum || "!#$%&'*+-.^_`|~".toList.contains c

/-- The text is a token: at least one character, all of which may occur in a name. -/
def isToken (s : List Char) : Bool := !s.isEmpty && s.all isTokenChar

/-- The greatest length of the name of a header. -/
def headerNameLimit : Nat := 65535

/-- The text may be the name of a header: a token that is not too long. -/
def isHeaderName (s : List Char) : Bool := isToken s && decide (s.length ≤ headerNameLimit)

/-- The character may occur in the value of a header: no control character but the tab. -/
def isHeaderValueChar (c : Char) : Bool := c == '\t' || (0x20 ≤ c.toNat && c.toNat != 0x7F)

/-- The text in capital letters; only the letters of ASCII have them here. -/
def upperAscii (s : String) : String := String.ofList (s.toList.map Char.toUpper)

/-- The text in small letters; only the letters of ASCII have them here. -/
def lowerAscii (s : String) : String := String.ofList (s.toList.map Char.toLower)

/-- The method of a request, in capital letters; `GET` if none is set. -/
def methodOf : Option String → Except Failure String
  | none => .ok "GET"
  | some m =>
    if isToken (upperAscii m).toList then .ok (upperAscii m) else .error (.invalidMethod m)

/-- A header with its name in small letters. -/
def headerOf (header : String × String) : Except Failure (String × String) :=
  if isHeaderName header.1.toList ∧ header.2.toList.all isHeaderValueChar then
    .ok (lowerAscii header.1, header.2)
  else .error (.invalidHeader header.1)

/-- The headers of a request.  Names that differ in the case of their letters only are one name,
and the later value counts. -/
def headersOf (headers : Bindings String) : Except Failure (Bindings String) :=
  (headers.entries.mapM headerOf).map Bindings.ofList

/-! ## Requests -/

/-- A request. -/
structure Request where
  /-- The method. -/
  method : String
  /-- The address, with all parameters in its query. -/
  url : Url
  /-- The headers that the options set, with their names in small letters. -/
  headers : Bindings String
deriving DecidableEq

/-- The keys and values that a request sends: those of the options before those of the query. -/
def pairsOf (options : Options) (params : List Parameter) : List (String × String) :=
  (options.params ++ params).map fun p => (p.key, p.value)

/-- The request of a compiled query to a service. -/
def request (base : String) (query : Compiled) : Except Failure Request := do
  let options := query.mergedOptions
  let method ← methodOf options.method
  let headers ← headersOf options.headers
  match Url.parse? (urlFor base options.url).toList with
  | some url =>
    let url := url.withPairs (pairsOf options query.params)
    if url.isSendable then return ⟨method, url, headers⟩ else throw (.request .address)
  | none => throw (.request .address)

end LambdaQuery.Http
