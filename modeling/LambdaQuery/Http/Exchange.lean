import LambdaQuery.Http.Request
import LambdaQuery.Query.Execution

/-!
# Exchanges with a service

What becomes of a compiled query, given what the network does with its request.

## Main definitions

* `LambdaQuery.Http.Reply` — the answer of a service.
* `LambdaQuery.Http.Delivery` — what the network does with a request.
* `LambdaQuery.Http.Exchange` — the requests that were sent, and the result.
* `LambdaQuery.Http.exchange` — the exchange for a compiled query.
-/

set_option autoImplicit false

namespace LambdaQuery.Http

/-- The answer of a service. -/
structure Reply where
  /-- The status. -/
  status : Nat
  /-- The body. -/
  body : String
deriving DecidableEq

/-- What the network does with a request. -/
inductive Delivery where
  /-- No connection can be made. -/
  | unreachable
  /-- The request arrives and is never answered. -/
  | silent
  /-- The request arrives and is answered. -/
  | answered (reply : Reply)
deriving DecidableEq

/-- The requests that were sent, and the result. -/
structure Exchange where
  /-- The requests that arrived, in order. -/
  sent : List Request
  /-- The body of the answer. -/
  result : Except Failure Json

/-! ## Status -/

/-- The standard phrases of the statuses. -/
def reasonPhrases : List (Nat × String) :=
  [(100, "Continue"), (101, "Switching Protocols"), (102, "Processing"), (200, "OK"),
   (201, "Created"), (202, "Accepted"), (203, "Non Authoritative Information"),
   (204, "No Content"), (205, "Reset Content"), (206, "Partial Content"), (207, "Multi-Status"),
   (208, "Already Reported"), (226, "IM Used"), (300, "Multiple Choices"),
   (301, "Moved Permanently"), (302, "Found"), (303, "See Other"), (304, "Not Modified"),
   (305, "Use Proxy"), (307, "Temporary Redirect"), (308, "Permanent Redirect"),
   (400, "Bad Request"), (401, "Unauthorized"), (402, "Payment Required"), (403, "Forbidden"),
   (404, "Not Found"), (405, "Method Not Allowed"), (406, "Not Acceptable"),
   (407, "Proxy Authentication Required"), (408, "Request Timeout"), (409, "Conflict"),
   (410, "Gone"), (411, "Length Required"), (412, "Precondition Failed"),
   (413, "Payload Too Large"), (414, "URI Too Long"), (415, "Unsupported Media Type"),
   (416, "Range Not Satisfiable"), (417, "Expectation Failed"), (418, "I'm a teapot"),
   (421, "Misdirected Request"), (422, "Unprocessable Entity"), (423, "Locked"),
   (424, "Failed Dependency"), (425, "Too Early"), (426, "Upgrade Required"),
   (428, "Precondition Required"), (429, "Too Many Requests"),
   (431, "Request Header Fields Too Large"),
   (451, "Unavailable For Legal Reasons"), (500, "Internal Server Error"),
   (501, "Not Implemented"), (502, "Bad Gateway"), (503, "Service Unavailable"),
   (504, "Gateway Timeout"), (505, "HTTP Version Not Supported"),
   (506, "Variant Also Negotiates"), (507, "Insufficient Storage"), (508, "Loop Detected"),
   (510, "Not Extended"), (511, "Network Authentication Required")]

/-- A status with its phrase. -/
def statusText (status : Nat) : String :=
  toString status ++ " " ++ (reasonPhrases.lookup status).getD "<unknown status code>"

/-- The status says that the request succeeded. -/
def isSuccess (status : Nat) : Bool := 200 ≤ status && status < 300

/-- The wording of why a request failed. -/
def RequestFailure.message : RequestFailure → String
  | .address => "the address cannot be sent to"
  | .connection => "no connection"
  | .timeout => "the time limit has passed"
  | .unanswered => "no answer"
  | .body => "the answer is not JSON"

/-- The wording of a failure. -/
def Failure.message : Failure → String
  | .request cause => "Request failed: " ++ cause.message
  | .status url code => url ++ " returned " ++ statusText code
  | .invalidMethod method => "Invalid HTTP method: " ++ method
  | .invalidHeader name => "Invalid header: " ++ name

/-! ## Exchanges -/

/-- The body that arrives: none for a method or a status that has none. -/
def bodyOf (r : Request) (reply : Reply) : String :=
  if r.method = "HEAD" ∨ reply.status = 204 then "" else reply.body

/-- The result of an answered request; `url` is the address without parameters. -/
def resultOf (url : String) (r : Request) (reply : Reply) : Except Failure Json :=
  if isSuccess reply.status then
    match Json.read? (bodyOf r reply) with
    | some body => .ok body
    | none => .error (.request .body)
  else .error (.status url reply.status)

/-- What becomes of a compiled query that is sent to a service. -/
def exchange (delivery : Delivery) (base : String) (query : Compiled) : Exchange :=
  match request base query with
  | .error e => ⟨[], .error e⟩
  | .ok r =>
    match delivery with
    | .unreachable => ⟨[], .error (.request .connection)⟩
    | .silent =>
      let cause := if query.mergedOptions.timeoutMs.isSome then .timeout else .unanswered
      ⟨[r], .error (.request cause)⟩
    | .answered reply => ⟨[r], resultOf (urlFor base query.mergedOptions.url) r reply⟩

/-- The transport of a service, given what the network does. -/
def transport (delivery : Delivery) (base : String) : Transport Failure := fun query =>
  (exchange delivery base query).result

end LambdaQuery.Http
