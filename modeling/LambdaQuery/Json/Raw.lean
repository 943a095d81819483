import LambdaQuery.Scan

/-!
# JSON as it is written

The tree of a JSON text before any meaning is given to it: numbers keep their digits, objects
keep all members in order, and a string that escapes half of a surrogate pair is kept as a string
that stands for no text.  A reader that skips a member need not give a meaning to it.

## Main definitions

* `LambdaQuery.Json.Raw` — a JSON text as a tree.
* `LambdaQuery.Json.Numeral` — a number as written.
* `LambdaQuery.Json.Raw.read?` — the tree of a text.

## Design

The grammar is strict: one value with white space around it, no comma before a closing bracket,
no control character inside a string.  The recursion is that of `LambdaQuery.Expr.scan`: every
production takes the scan of the values inside it, and the depth is bounded by the text.
-/

set_option autoImplicit false

namespace LambdaQuery.Json

open Scan (token after? many skipGap afterComma)

/-- A number as written. -/
structure Numeral where
  /-- A minus sign stands before it. -/
  negative : Bool
  /-- The digits before the point. -/
  whole : List Char
  /-- The digits behind the point; none if there is no point. -/
  decimals : List Char
  /-- Whether the exponent is negative, and its digits. -/
  exponent : Option (Bool × List Char)
deriving DecidableEq

/-- A JSON text as a tree. -/
inductive Raw where
  /-- The word `null`. -/
  | null
  /-- The words `true` and `false`. -/
  | bool (b : Bool)
  /-- A number. -/
  | number (n : Numeral)
  /-- A string, or nothing for one that stands for no text. -/
  | string (s : Option String)
  /-- Values in square brackets. -/
  | array (items : List Raw)
  /-- Named values in braces. -/
  | object (members : List (Option String × Raw))

/-! ## Numbers -/

/-- Digits with no needless zero before them. -/
def wholeDigits : Scan (List Char)
  | '0' :: s => some (['0'], s)
  | s => Scan.runOf Char.isDigit s

/-- A point and digits. -/
def decimalPart : Scan (List Char) := fun s => do Scan.runOf Char.isDigit (← after? ['.'] s)

/-- The sign of an exponent: whether it is negative. -/
def exponentSign : List Char → Bool × List Char
  | '-' :: s => (true, s)
  | '+' :: s => (false, s)
  | s => (false, s)

/-- An exponent. -/
def exponentPart : Scan (Bool × List Char) := fun s => do
  let s ← after? ['e'] s <|> after? ['E'] s
  let (negative, s) := exponentSign s
  let (ds, s) ← Scan.runOf Char.isDigit s
  return ((negative, ds), s)

/-- A number without its sign. -/
def unsignedNumeral (negative : Bool) : Scan Numeral := fun s => do
  let (whole, s) ← wholeDigits s
  let (decimals, s) := (decimalPart s).getD ([], s)
  match exponentPart s with
  | some (exponent, s) => return (⟨negative, whole, decimals, some exponent⟩, s)
  | none => return (⟨negative, whole, decimals, none⟩, s)

/-- A number. -/
def numeral : Scan Numeral
  | '-' :: s => unsignedNumeral true s
  | s => unsignedNumeral false s

/-! ## Strings -/

/-- The value of a hexadecimal digit. -/
def hexDigit? (c : Char) : Option Nat :=
  if c.isDigit then some (c.toNat - '0'.toNat)
  else if 'a' ≤ c ∧ c ≤ 'f' then some (c.toNat - 'a'.toNat + 10)
  else if 'A' ≤ c ∧ c ≤ 'F' then some (c.toNat - 'A'.toNat + 10)
  else none

/-- The value of four hexadecimal digits. -/
def hexCode? (a b c d : Char) : Option Nat := do
  let a ← hexDigit? a
  let b ← hexDigit? b
  let c ← hexDigit? c
  let d ← hexDigit? d
  return ((a * 16 + b) * 16 + c) * 16 + d

/-- The character that a backslash and `c` stand for. -/
def unescape? (c : Char) : Option Char :=
  if c = '"' ∨ c = '\\' ∨ c = '/' then some c
  else if c = 'b' then some '\x08'
  else if c = 'f' then some '\x0c'
  else if c = 'n' then some '\n'
  else if c = 'r' then some '\r'
  else if c = 't' then some '\t'
  else none

/-- The codes of a string up to its closing quote, and the text behind it. -/
def stringCodes : List Char → Option (List Nat × List Char)
  | [] => none
  | '"' :: s => some ([], s)
  | '\\' :: 'u' :: a :: b :: c :: d :: s => do
    let code ← hexCode? a b c d
    let (codes, rest) ← stringCodes s
    return (code :: codes, rest)
  | '\\' :: c :: s => do
    let e ← unescape? c
    let (codes, rest) ← stringCodes s
    return (e.toNat :: codes, rest)
  | c :: s => do
    if c.toNat < 0x20 ∨ c = '\\' then none
    else
      let (codes, rest) ← stringCodes s
      return (c.toNat :: codes, rest)

/-- The code is the first half of a surrogate pair. -/
def isHighSurrogate (code : Nat) : Bool := 0xD800 ≤ code && code < 0xDC00

/-- The code is the second half of a surrogate pair. -/
def isLowSurrogate (code : Nat) : Bool := 0xDC00 ≤ code && code < 0xE000

/-- The text of a list of codes; none if half of a surrogate pair stands alone. -/
def textOfCodes : List Nat → Option (List Char)
  | [] => some []
  | [c] =>
    if isHighSurrogate c || isLowSurrogate c then none else some [Char.ofNat c]
  | c :: d :: rest =>
    if isHighSurrogate c then
      if isLowSurrogate d then
        (textOfCodes rest).map (Char.ofNat (0x10000 + (c - 0xD800) * 0x400 + (d - 0xDC00)) :: ·)
      else none
    else if isLowSurrogate c then none
    else (textOfCodes (d :: rest)).map (Char.ofNat c :: ·)

/-- A string. -/
def stringLiteral : Scan (Option String) := fun s => do
  let s ← after? ['"'] s
  let (codes, s) ← stringCodes s
  return ((textOfCodes codes).map String.ofList, s)

/-! ## Values -/

section Productions

variable (sub : Scan Raw)

/-- Items between two brackets, separated by commas. -/
def listed {α : Type} (opening closing : Char) (item : Scan α) : Scan (List α) := fun s => do
  let s ← after? [opening] s
  match token [closing] s with
  | some s => return ([], s)
  | none =>
    let (first, s) ← item s
    let (others, s) := many (afterComma item) s
    let s ← token [closing] s
    return (first :: others, s)

/-- A name, a colon and a value. -/
def namedMember : Scan (Option String × Raw) := fun s => do
  let (name, s) ← stringLiteral (skipGap s)
  let s ← token [':'] s
  let (v, s) ← sub s
  return ((name, v), s)

/-- A value of any kind. -/
def anyValue : Scan Raw := fun s =>
  let s := skipGap s
  (after? "null".toList s).map (Raw.null, ·)
    <|> (after? "true".toList s).map (Raw.bool true, ·)
    <|> (after? "false".toList s).map (Raw.bool false, ·)
    <|> (numeral s).map (Prod.map .number id)
    <|> (stringLiteral s).map (Prod.map .string id)
    <|> (listed '[' ']' sub s).map (Prod.map .array id)
    <|> (listed '\x7b' '\x7d' (namedMember sub) s).map (Prod.map .object id)

end Productions

namespace Raw

/-- A value, nested no deeper than `budget` has characters. -/
def scanWithin : List Char → Scan Raw
  | [] => fun _ => none
  | _ :: budget => anyValue (scanWithin budget)

/-- Reads a value from the start of a text. -/
def scan : Scan Raw := fun s => scanWithin s s

/-- The tree of a text. -/
def read? (text : List Char) : Option Raw :=
  match scan text with
  | some (v, rest) => if (skipGap rest).isEmpty then some v else none
  | none => none

mutual

/-- The number of arrays and objects around the innermost value. -/
def depth : Raw → Nat
  | .array items => depths items + 1
  | .object members => memberDepths members + 1
  | _ => 0

/-- The greatest depth in a list. -/
def depths : List Raw → Nat
  | [] => 0
  | v :: vs => max v.depth (depths vs)

/-- The greatest depth among members. -/
def memberDepths : List (Option String × Raw) → Nat
  | [] => 0
  | (_, v) :: ms => max v.depth (memberDepths ms)

end

end Raw

end LambdaQuery.Json
