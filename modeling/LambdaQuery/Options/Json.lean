import LambdaQuery.Json.Printer
import LambdaQuery.Options.Basic

/-!
# Options as JSON

An options object is written as a JSON object with the fields that are set, in a fixed order.  It
is read from an object in which a known field occurs at most once and unknown fields are skipped,
or from an array of the fields in their order.

## Main definitions

* `LambdaQuery.Options.toJson`, `LambdaQuery.Options.text` — an options object as JSON.
* `LambdaQuery.Options.ofRaw?`, `LambdaQuery.Options.read?` — the options object of a JSON text.
-/

set_option autoImplicit false

namespace LambdaQuery

namespace Parameter

/-- The parameter as JSON. -/
def toJson (p : Parameter) : Json := .object [("key", .string p.key), ("value", .string p.value)]

end Parameter

namespace Options

/-! ## Writing -/

/-- A field that is written only if it is set. -/
def optionalField {α : Type} (name : String) (toJson : α → Json) :
    Option α → List (String × Json)
  | none => []
  | some a => [(name, toJson a)]

/-- The options object as JSON. -/
def toJson (o : Options) : Json :=
  .object
    (optionalField "url" .string o.url ++
      optionalField "method" .string o.method ++
      (if o.headers.isEmpty then []
        else [("headers", .object (o.headers.entries.map (Prod.map id .string)))]) ++
      (if o.params.isEmpty then [] else [("params", .array (o.params.map Parameter.toJson))]) ++
      optionalField "timeoutMs" (fun n => .number (.whole n.toNat)) o.timeoutMs ++
      optionalField "pascalize" .bool o.pascalize)

/-- The compact JSON text of an options object. -/
def text (o : Options) : String := String.ofList o.toJson.compact

/-! ## Reading -/

open Json (Raw)

/-- A text. -/
def string? : Raw → Option String
  | .string s => s
  | _ => none

/-- A truth value. -/
def bool? : Raw → Option Bool
  | .bool b => some b
  | _ => none

/-- A whole number of 64 bits without sign, written without point and exponent. -/
def word? : Raw → Option UInt64
  | .number ⟨false, digits, [], none⟩ =>
    let n := Text.numberOfDigits digits
    if n < Nat.pow 2 64 then some (UInt64.ofNat n) else none
  | _ => none

/-- A setting that may be `null`, which leaves it unset. -/
def setting? {α : Type} (read? : Raw → Option α) : Raw → Option (Option α)
  | .null => some none
  | v => (read? v).map some

/-- A header: a text with a name. -/
def header? (member : Option String × Raw) : Option (String × String) := do
  let name ← member.1
  let value ← string? member.2
  return (name, value)

/-- Headers; of two with one name the later counts. -/
def headers? : Raw → Option (Bindings String)
  | .object members => (members.mapM header?).map Bindings.ofList
  | _ => none

/-- The only value of a field among the members of an object; an error if there are more. -/
def uniqueField? (name : String) (members : List (Option String × Raw)) : Option (Option Raw) :=
  match members.filter (·.1 == some name) with
  | [] => some none
  | [m] => some (some m.2)
  | _ => none

/-- The members have names that stand for a text. -/
def haveNames (members : List (Option String × Raw)) : Bool := members.all (·.1.isSome)

/-- A parameter: an object with its two fields, or an array of the two. -/
def parameter? : Raw → Option Parameter
  | .object members => do
    if haveNames members then
      let key ← uniqueField? "key" members
      let value ← uniqueField? "value" members
      return ⟨← string? (← key), ← string? (← value)⟩
    else none
  | .array [key, value] => return ⟨← string? key, ← string? value⟩
  | _ => none

/-- Parameters. -/
def parameters? : Raw → Option (List Parameter)
  | .array items => items.mapM parameter?
  | _ => none

/-- A field that takes its default where it is missing. -/
def fieldOr? {α : Type} (default : α) (read? : Raw → Option α) : Option Raw → Option α
  | none => some default
  | some v => read? v

/-- The options object with the given fields, in their order. -/
def ofFields? (url method headers params timeoutMs pascalize : Option Raw) : Option Options := do
  return {
    url := ← fieldOr? none (setting? string?) url
    method := ← fieldOr? none (setting? string?) method
    headers := ← fieldOr? .empty headers? headers
    params := ← fieldOr? [] parameters? params
    timeoutMs := ← fieldOr? none (setting? word?) timeoutMs
    pascalize := ← fieldOr? none (setting? bool?) pascalize }

/-- The options object of a JSON tree. -/
def ofRaw? : Raw → Option Options
  | .object members => do
    if haveNames members then
      ofFields? (← uniqueField? "url" members) (← uniqueField? "method" members)
        (← uniqueField? "headers" members) (← uniqueField? "params" members)
        (← uniqueField? "timeoutMs" members) (← uniqueField? "pascalize" members)
    else none
  | .array items =>
    if items.length ≤ 6 then
      ofFields? items[0]? items[1]? items[2]? items[3]? items[4]? items[5]?
    else none
  | _ => none

/-- The options object of a JSON text. -/
def read? (text : String) : Option Options := Json.Raw.read? text.toList >>= ofRaw?

end Options

end LambdaQuery
