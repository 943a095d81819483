import LambdaQuery.Json.Basic

/-!
# Text of JSON values

Two layouts: compact, without any white space, and indented, with every element and member on a
line of its own.

## Main definitions

* `LambdaQuery.Json.compact` — the compact text.
* `LambdaQuery.Json.indented` — the indented text.
* `LambdaQuery.Json.floatText` — the text of a floating-point number.
-/

set_option autoImplicit false

namespace LambdaQuery.Json

/-- A hexadecimal digit, in lower case. -/
def hexDigit (n : Nat) : Char := Nat.digitChar n

/-- A character inside a string: quotes, backslashes and control characters are escaped. -/
def escapeChar (c : Char) : List Char :=
  if c = '"' then ['\\', '"']
  else if c = '\\' then ['\\', '\\']
  else if c = '\x08' then ['\\', 'b']
  else if c = '\x0c' then ['\\', 'f']
  else if c = '\n' then ['\\', 'n']
  else if c = '\r' then ['\\', 'r']
  else if c = '\t' then ['\\', 't']
  else if c.toNat < 0x20 then
    ['\\', 'u', '0', '0', hexDigit (c.toNat / 16), hexDigit (c.toNat % 16)]
  else [c]

/-- A string. -/
def quoted (s : String) : List Char := '"' :: s.toList.flatMap escapeChar ++ ['"']

/-- The text of a floating-point number: the fewest digits that read back, with an exponent
outside the range from `10 ^ -5` to `10 ^ 16`, and always with a point or an exponent. -/
def floatText (x : Binary64) : List Char :=
  let v := Binary64.shortest .toEven x
  let digits := Text.natural v
  let point : Int := (digits.length : Int) - Binary64.places
  if v = 0 then x.sign ++ ['0', '.', '0']
  else if -5 < point ∧ point ≤ 16 then
    x.sign ++ Binary64.positional v ++ (if v % Nat.pow 10 Binary64.places = 0 then ['.', '0'] else [])
  else
    let exponent := 'e' :: Text.integer (point - 1)
    match Binary64.dropTrailingZeros digits with
    | [] => []
    | [d] => x.sign ++ d :: exponent
    | d :: ds => x.sign ++ d :: '.' :: ds ++ exponent

/-- The text of a number; a number that is not finite has none and is written as `null`. -/
def Number.text : Number → List Char
  | .whole n => Text.integer n
  | .float x => if x.isFinite then floatText x else "null".toList

mutual

/-- The compact text. -/
def compact : Json → List Char
  | .null => "null".toList
  | .bool b => if b then "true".toList else "false".toList
  | .number n => n.text
  | .string s => quoted s
  | .array items => '[' :: List.intercalate [','] (compacts items) ++ [']']
  | .object members => '\x7b' :: List.intercalate [','] (memberCompacts members) ++ ['\x7d']

/-- The compact texts of values. -/
def compacts : List Json → List (List Char)
  | [] => []
  | j :: js => j.compact :: compacts js

/-- The compact texts of members. -/
def memberCompacts : List (String × Json) → List (List Char)
  | [] => []
  | (name, j) :: ms => (quoted name ++ ':' :: j.compact) :: memberCompacts ms

end

/-- The start of a line at the given depth. -/
def newLine (depth : Nat) : List Char := '\n' :: List.replicate (2 * depth) ' '

/-- Lines between two brackets; nothing between them if there are no lines. -/
def block (opening closing : Char) (depth : Nat) (lines : List (List Char)) : List Char :=
  if lines.isEmpty then [opening, closing]
  else
    opening :: List.intercalate [','] (lines.map (newLine (depth + 1) ++ ·)) ++ newLine depth
      ++ [closing]

mutual

/-- The indented text of a value that stands at the given depth. -/
def indentedAt (depth : Nat) : Json → List Char
  | .array items => block '[' ']' depth (indentedItems (depth + 1) items)
  | .object members => block '\x7b' '\x7d' depth (indentedMembers (depth + 1) members)
  | j => j.compact

/-- The indented texts of values. -/
def indentedItems (depth : Nat) : List Json → List (List Char)
  | [] => []
  | j :: js => j.indentedAt depth :: indentedItems depth js

/-- The indented texts of members. -/
def indentedMembers (depth : Nat) : List (String × Json) → List (List Char)
  | [] => []
  | (name, j) :: ms => (quoted name ++ ':' :: ' ' :: j.indentedAt depth) :: indentedMembers depth ms

end

/-- The indented text. -/
def indented (j : Json) : String := String.ofList (j.indentedAt 0)

end LambdaQuery.Json
