import LambdaQuery.Binary64.Decimal
import LambdaQuery.Json.Raw

/-!
# JSON values

The meaning of a JSON text.  The members of an object have distinct names, and reading puts them
in ascending order of their names; of two members with one name the later one counts.  A number
without point and exponent is a whole number if it fits into 64 bits, and any other is a
floating-point number.

## Main definitions

* `LambdaQuery.Json` — a JSON value.
* `LambdaQuery.Json.Numeral.number?` — the meaning of a number.
* `LambdaQuery.Json.Raw.value?` — the meaning of a tree.
* `LambdaQuery.Json.read?` — the value of a text.

## Design

A decimal is read by scaling: the leading digits form a whole number below `2 ^ 64`, which is
multiplied or divided by a power of ten.  The product or quotient is rounded once more, so long
decimals may differ from the nearest number in the last bit.
-/

set_option autoImplicit false

namespace LambdaQuery

/-- A JSON number. -/
inductive Json.Number where
  /-- A whole number. -/
  | whole (n : Int)
  /-- A floating-point number. -/
  | float (x : Binary64)
deriving DecidableEq

/-- A JSON value. -/
inductive Json where
  /-- The absent value. -/
  | null
  /-- A truth value. -/
  | bool (b : Bool)
  /-- A number. -/
  | number (n : Json.Number)
  /-- A text. -/
  | string (s : String)
  /-- A list. -/
  | array (items : List Json)
  /-- Named values, in the order in which they are written. -/
  | object (members : List (String × Json))
deriving Inhabited

namespace Json

/-! ## Numbers -/

/-- The floating-point number nearest to a power of ten. -/
def powerOfTen (n : Nat) : Binary64 := Binary64.ofRatio (Nat.pow 10 n) 1

/-- The product of two finite numbers without sign. -/
def product (x y : Binary64) : Binary64 :=
  Binary64.ofRatio (x.magnitude * y.magnitude) (Nat.pow 2 (2 * Binary64.binaryPlaces))

/-- The quotient of two finite numbers without sign. -/
def quotient (x y : Binary64) : Binary64 := Binary64.ofRatio x.magnitude y.magnitude

/-- Divides by powers of ten up to `10 ^ 308`, as long as something is left to divide. -/
def scaleDown (x : Binary64) (n : Nat) : Binary64 :=
  if n ≤ 308 then quotient x (powerOfTen n)
  else if x.magnitude = 0 then x
  else scaleDown (quotient x (powerOfTen 308)) (n - 308)
termination_by n

/-- The number `significand * 10 ^ exponent`; none if it is too large. -/
def scale? (significand : Nat) (exponent : Int) : Option Binary64 :=
  let x := Binary64.ofRatio significand 1
  match exponent with
  | .ofNat n =>
    if n ≤ 308 then
      let y := product x (powerOfTen n)
      if y.isFinite then some y else none
    else if significand = 0 then some x
    else none
  | .negSucc n => some (scaleDown x (n + 1))

/-- Appends digits to a number as long as it stays below `2 ^ 64`, and counts them. -/
def appendDigits (n : Nat) : List Char → Nat × Nat
  | [] => (n, 0)
  | d :: ds =>
    let next := n * 10 + (d.toNat - '0'.toNat)
    if next < Nat.pow 2 64 then
      let (m, taken) := appendDigits next ds
      (m, taken + 1)
    else (n, 0)

/-- The exponent of a number, and none if it is beyond 31 bits. -/
def Numeral.exponentValue? (n : Numeral) : Option Int :=
  match n.exponent with
  | none => some 0
  | some (negative, ds) =>
    let e := Nat.ofDigitChars 10 ds 0
    if e < Nat.pow 2 31 then some (if negative then -(e : Int) else e) else none

/-- The exponent is negative. -/
def Numeral.hasNegativeExponent (n : Numeral) : Bool :=
  match n.exponent with
  | some (negative, _) => negative
  | none => false

/-- The distance from zero of a number read as a floating-point number. -/
def Numeral.float? (n : Numeral) : Option Binary64 :=
  let (leading, taken) := appendDigits 0 n.whole
  let (significand, decimalsTaken) := appendDigits leading n.decimals
  match n.exponentValue? with
  | some e => scale? significand ((n.whole.length - taken : Nat) - (decimalsTaken : Int) + e)
  | none =>
    if significand = 0 ∨ n.hasNegativeExponent then some (Binary64.ofRatio 0 1) else none

/-- The number as a whole number, if it is written and small enough for one.  A negative zero is
no whole number. -/
def Numeral.whole? (n : Numeral) : Option Int :=
  if n.decimals.isEmpty ∧ n.exponent.isNone then
    let m := Nat.ofDigitChars 10 n.whole 0
    if n.negative then
      if 0 < m ∧ m ≤ Nat.pow 2 63 then some (-(m : Int)) else none
    else if m < Nat.pow 2 64 then some m else none
  else none

/-- The meaning of a number; none if it is too large. -/
def Numeral.number? (n : Numeral) : Option Number :=
  match n.whole? with
  | some k => some (.whole k)
  | none => (n.float?).map fun x => .float (if n.negative then x.neg else x)

/-! ## Values -/

/-- Sets a member in a list in ascending order of names. -/
def insertMember (name : String) (v : Json) : List (String × Json) → List (String × Json)
  | [] => [(name, v)]
  | (n, w) :: rest =>
    if name < n then (name, v) :: (n, w) :: rest
    else if name = n then (name, v) :: rest
    else (n, w) :: insertMember name v rest

/-- The members in ascending order of names, the later of two with one name. -/
def sortMembers (members : List (String × Json)) : List (String × Json) :=
  members.foldl (fun sorted m => insertMember m.1 m.2 sorted) []

mutual

/-- The meaning of a tree; none if a string or a number in it has none. -/
def Raw.value? : Raw → Option Json
  | .null => some .null
  | .bool b => some (.bool b)
  | .number n => (n.number?).map .number
  | .string s => s.map .string
  | .array items => (values? items).map .array
  | .object members => (memberValues? members).map fun ms => .object (sortMembers ms)

/-- The meanings of trees. -/
def values? : List Raw → Option (List Json)
  | [] => some []
  | v :: vs => do
    let j ← v.value?
    let js ← values? vs
    return j :: js

/-- The meanings of members. -/
def memberValues? : List (Option String × Raw) → Option (List (String × Json))
  | [] => some []
  | (name, v) :: ms => do
    let name ← name
    let j ← v.value?
    let js ← memberValues? ms
    return (name, j) :: js

end

/-- The greatest depth of arrays and objects inside each other that is read. -/
def depthLimit : Nat := 127

/-- The value of a text. -/
def read? (text : String) : Option Json := do
  let raw ← Raw.read? text.toList
  if raw.depth ≤ depthLimit then raw.value? else none

/-- The member of an object. -/
def member? (name : String) : Json → Option Json
  | .object members => members.lookup name
  | _ => none

end Json

end LambdaQuery
