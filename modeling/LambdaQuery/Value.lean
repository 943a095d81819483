import LambdaQuery.Binary64.Decimal
import LambdaQuery.Instant

/-!
# Literal values

The values that an expression can hold as literals and that a variable can capture, with their
three texts: as source of an expression, as a plain scalar, and as a literal of the query
protocol.

## Main definitions

* `LambdaQuery.Value` — a literal value.
* `LambdaQuery.Value.source` — the value as written in an expression.
* `LambdaQuery.Value.scalar`, `LambdaQuery.Value.literal` — the value as written in a query; the
  two differ on dates only.
-/

set_option autoImplicit false

namespace LambdaQuery

/-- A literal value. -/
inductive Value where
  /-- The absent value. -/
  | null
  /-- A truth value. -/
  | bool (b : Bool)
  /-- A whole number of 64 bits. -/
  | int (n : Int64)
  /-- A floating-point number. -/
  | float (x : Binary64)
  /-- A text. -/
  | string (s : String)
  /-- A moment in time. -/
  | date (t : Instant)
deriving DecidableEq

namespace Value

/-- A whole number of 32 bits with sign as a value. -/
def ofInt32 (n : Int32) : Value := .int n.toInt64

/-- A whole number of 32 bits without sign as a value. -/
def ofUInt32 (n : UInt32) : Value := .int n.toUInt64.toInt64

/-- Something that may be absent as a value. -/
def ofOption {α : Type} (ofSome : α → Value) : Option α → Value
  | none => .null
  | some a => ofSome a

/-- The text of a truth value. -/
def boolText (b : Bool) : List Char := if b then "true".toList else "false".toList

/-- A character of a string literal, escaped where the literal needs it. -/
def escapeChar (c : Char) : List Char :=
  if c = '"' then ['\\', '"']
  else if c = '\\' then ['\\', '\\']
  else if c = '\n' then ['\\', 'n']
  else if c = '\t' then ['\\', 't']
  else if c = '\r' then ['\\', 'r']
  else [c]

/-- A string literal of an expression. -/
def quoted (s : String) : List Char := '"' :: s.toList.flatMap escapeChar ++ ['"']

/-- A string literal of a query: a quote inside it is written twice. -/
def doubled (s : String) : List Char :=
  '"' :: s.toList.flatMap (fun c => if c = '"' then ['"', '"'] else [c]) ++ ['"']

/-- The value as written in an expression.  A whole floating-point number is written out exactly
and keeps a decimal, which tells it from an integer. -/
def source : Value → List Char
  | .null => "null".toList
  | .bool b => boolText b
  | .int n => Text.integer n.toInt
  | .float x =>
    if x.isIntegral then x.sign ++ Text.natural x.wholePart ++ ['.', '0'] else x.text "inf".toList
  | .string s => quoted s
  | .date t => '"' :: t.iso ++ ['"']

/-- The value as a plain scalar of a query. -/
def scalar : Value → List Char
  | .null => "null".toList
  | .bool b => boolText b
  | .int n => Text.integer n.toInt
  | .float x => x.text "Infinity".toList
  | .string s => doubled s
  | .date t => '"' :: t.iso ++ ['"']

/-- The value as a literal of a query. -/
def literal : Value → List Char
  | .date t => "\"datetime'".toList ++ t.iso ++ ['\'', '"']
  | v => v.scalar

/-- The values are equal; floating-point numbers are compared as numbers. -/
def sameAs : Value → Value → Bool
  | .float x, .float y => x.numericallyEqual y
  | v, w => v == w

end Value

end LambdaQuery
