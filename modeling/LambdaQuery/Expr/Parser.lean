import LambdaQuery.Expr.Basic
import LambdaQuery.Scan
import LambdaQuery.Identifier
import LambdaQuery.Operator

/-!
# Reading expressions

The productions of the expression language, as scans.  From the loosest to the tightest they are:
a function or a choice, chains of operators level by level, signs, accesses and calls, and the
primary expressions.

## Main definitions

* `LambdaQuery.Expr.scan` — reads an expression from the start of a text.
* `LambdaQuery.Expr.nested` — the expression production over a scan of the expressions inside it.

## Design

Every production takes the scan of the expressions nested in it as an argument, so none of them
is recursive.  `scanWithin` closes the circle.  A nested expression is read only after at least
one character, so the depth of nesting is bounded by the length of the text, and the recursion
goes along a second copy of the text.
-/

set_option autoImplicit false

namespace LambdaQuery.Expr

open Scan (token after? many oneOf skipGap bracketed)

/-! ## Names and literals -/

/-- A name. -/
def identifier : Scan String
  | [] => none
  | c :: s =>
    if Identifier.isStart c then
      some (String.ofList (c :: s.takeWhile Identifier.isPart), s.dropWhile Identifier.isPart)
    else none

/-- A run of digits. -/
def digits : Scan (List Char) := Scan.runOf Char.isDigit

/-- A number with a decimal point and digits on both sides of it. -/
def decimal : Scan Value := fun s => do
  let (whole, s) ← digits s
  let s ← after? ['.'] s
  let (decimals, s) ← digits s
  return (.float (Binary64.ofDecimal whole decimals), s)

/-- A whole number that fits into 64 bits with a sign. -/
def wholeNumber : Scan Value := fun s => do
  let (ds, s) ← digits s
  let n := Text.numberOfDigits ds
  if n < Nat.pow 2 63 then return (.int (Int64.ofNat n), s) else none

/-- The character that a backslash and `c` stand for. -/
def unescape (c : Char) : Char :=
  if c = 'n' then '\n' else if c = 't' then '\t' else if c = 'r' then '\r'
  else if c = '0' then '\x00' else c

/-- The characters up to the closing quote, and the text behind it. -/
def quotedText (quote : Char) : List Char → Option (List Char × List Char)
  | [] => none
  | [c] => if c = quote then some ([], []) else none
  | c :: d :: s =>
    if c = quote then some ([], d :: s)
    else if c = '\\' then (quotedText quote s).map fun (cs, rest) => (unescape d :: cs, rest)
    else (quotedText quote (d :: s)).map fun (cs, rest) => (c :: cs, rest)

/-- A text between two quotes of one kind. -/
def quotedString (quote : Char) : Scan String := fun s => do
  let s ← after? [quote] s
  let (cs, s) ← quotedText quote s
  return (String.ofList cs, s)

/-- A string literal, in double or in single quotes. -/
def stringLiteral : Scan String := fun s => quotedString '"' s <|> quotedString '\'' s

/-- The meaning of a word: one of the literals that are words, or a variable. -/
def ofWord (name : String) : Expr :=
  if name = "true" then .literal (.bool true)
  else if name = "false" then .literal (.bool false)
  else if name = "null" ∨ name = "undefined" then .literal .null
  else .variable name

/-! ## Productions

`sub` reads the expressions nested in the production. -/

section Productions

variable (sub : Scan Expr)

/-- A name or a quoted name, a colon and an expression. -/
def namedMember : Scan (String × Expr) := fun s => do
  let s := skipGap s
  let (name, s) ← identifier s <|> stringLiteral s
  let s ← token [':'] s
  let (e, s) ← sub s
  return ((name, e), s)

/-- An expression that is complete in itself. -/
def primary : Scan Expr := fun s =>
  let s := skipGap s
  (bracketed '(' ')' sub s).map (Prod.map .group id)
    <|> (bracketed '[' ']' sub s).map (Prod.map .array id)
    <|> (bracketed '\x7b' '\x7d' (namedMember sub) s).map (Prod.map .object id)
    <|> (decimal s).map (Prod.map .literal id)
    <|> (wholeNumber s).map (Prod.map .literal id)
    <|> (stringLiteral s).map (Prod.map (fun t => .literal (.string t)) id)
    <|> (identifier s).map (Prod.map ofWord id)

/-- What can follow an expression and apply to it. -/
inductive Suffix where
  /-- The access to a member. -/
  | member (name : String)
  /-- A call. -/
  | call (args : List Expr)
  /-- The access to an element. -/
  | index (key : Expr)

/-- The expression that a suffix makes of the one before it. -/
def Suffix.apply (e : Expr) : Suffix → Expr
  | .member name => .member e name
  | .call args => .call e args
  | .index key => .index e key

/-- A point and the name of a member. -/
def memberSuffix : Scan Suffix := fun s => do
  let s ← after? ['.'] s
  let (name, s) ← identifier (skipGap s)
  return (.member name, s)

/-- A key in square brackets. -/
def indexSuffix : Scan Suffix := fun s => do
  let s ← after? ['['] s
  let (key, s) ← sub s
  let s ← token [']'] s
  return (.index key, s)

/-- A suffix. -/
def suffix : Scan Suffix := fun s =>
  let s := skipGap s
  memberSuffix s <|> (bracketed '(' ')' sub s).map (Prod.map .call id) <|> indexSuffix sub s

/-- A primary expression and what applies to it. -/
def applied : Scan Expr := fun s => do
  let (e, s) ← primary sub s
  let (suffixes, s) := many (suffix sub) s
  return (suffixes.foldl Suffix.apply e, s)

/-- A sign. -/
def sign : Scan String := fun s => oneOf Operator.signs (skipGap s)

/-- An operand behind any number of signs. -/
def signed : Scan Expr := fun s => do
  let (signs, s) := many sign s
  let (e, s) ← applied sub s
  return (signs.foldr .unary e, s)

/-- One of the operators and the operand to its right. -/
def operation (ops : List String) (operand : Scan Expr) : Scan (String × Expr) := fun s => do
  let (op, s) ← oneOf ops (skipGap s)
  let (e, s) ← operand s
  return ((op, e), s)

/-- A chain of operands with operators of one level between them, grouped to the left. -/
def chain (ops : List String) (operand : Scan Expr) : Scan Expr := fun s => do
  let (first, s) ← operand s
  let (others, s) := many (operation ops operand) s
  return (others.foldl (fun left o => .binary o.1 left o.2) first, s)

/-- A chain of the loosest level. -/
def chains : Scan Expr := Operator.levels.foldr chain (signed sub)

/-- The two expressions of a choice. -/
def branches : Scan (Expr × Expr) := fun s => do
  let s ← token ['?'] s
  let (yes, s) ← sub s
  let s ← token [':'] s
  let (no, s) ← sub s
  return ((yes, no), s)

/-- A chain, or a choice with a chain as its test. -/
def choice : Scan Expr := fun s => do
  let (test, s) ← chains sub s
  match branches sub s with
  | some ((yes, no), s) => return (.conditional test yes no, s)
  | none => return (test, s)

/-- A further parameter. -/
def nextParameter : Scan String := fun s => do identifier (skipGap (← token [','] s))

/-- Parameters in parentheses, possibly none. -/
def parenthesizedParameters : Scan (List String) := fun s => do
  let s := skipGap (← after? ['('] s)
  let (params, s) :=
    match identifier s with
    | some (first, s) =>
      let (others, s) := many nextParameter s
      (first :: others, s)
    | none => ([], s)
  let s ← token [')'] s
  return (params, s)

/-- The parameters of a function. -/
def parameters : Scan (List String) := fun s =>
  (identifier s).map (Prod.map ([·]) id) <|> parenthesizedParameters s

/-- A function. -/
def function : Scan Expr := fun s => do
  let (params, s) ← parameters s
  let s ← token ['=', '>'] s
  let (body, s) ← sub s
  return (.lambda params body, s)

/-- An expression. -/
def nested : Scan Expr := fun s =>
  let s := skipGap s
  function sub s <|> choice sub s

end Productions

/-! ## The recursion -/

/-- An expression, nested no deeper than `budget` has characters. -/
def scanWithin : List Char → Scan Expr
  | [] => fun _ => none
  | _ :: budget => nested (scanWithin budget)

/-- Reads an expression from the start of a text. -/
def scan : Scan Expr := fun s => scanWithin s s

end LambdaQuery.Expr
