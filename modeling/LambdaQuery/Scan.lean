import LambdaQuery.Text.Blank

/-!
# Scanning

A scan reads something from the start of a text and returns it with the rest of the text, or
reads nothing at all.  Choice is ordered and final: an alternative is tried only if all before it
fail, and a piece that fails leaves the text where it was.

## Main definitions

* `LambdaQuery.Scan` — a scan.
* `LambdaQuery.Scan.after?`, `LambdaQuery.Scan.token` — what follows a fixed text.
* `LambdaQuery.Scan.many` — as many pieces as can be read.
* `LambdaQuery.Scan.bracketed` — items between brackets, separated by commas.

## Design

A repetition ends because every piece it reads takes at least one character.  `many` therefore
recurses on a second copy of the text, which it shortens by one character for every piece; a
piece that takes a character can be read at most that often.
-/

set_option autoImplicit false

namespace LambdaQuery

/-- A scan reads something from the start of a text and returns it with the rest. -/
abbrev Scan (α : Type) := List Char → Option (α × List Char)

namespace Scan

variable {α : Type}

/-- What follows `t` at the start of a text. -/
def after? : List Char → List Char → Option (List Char)
  | [], s => some s
  | _ :: _, [] => none
  | t :: ts, c :: s => if c = t then after? ts s else none

/-- The text without the gap at its start. -/
def skipGap (s : List Char) : List Char := s.dropWhile Text.isGap

/-- What follows a gap and the token `t`. -/
def token (t s : List Char) : Option (List Char) := after? t (skipGap s)

/-- The first of the tokens that the text starts with. -/
def oneOf (tokens : List String) : Scan String := fun s =>
  tokens.findSome? fun t => (after? t.toList s).map (t, ·)

/-- At least one character of a class, as many as there are. -/
def runOf (isMember : Char → Bool) : Scan (List Char) := fun s =>
  match s.takeWhile isMember with
  | [] => none
  | cs => some (cs, s.dropWhile isMember)

/-- As many pieces as can be read, but no more than `budget` has characters. -/
def manyWithin (piece : Scan α) : List Char → List Char → List α × List Char
  | [], s => ([], s)
  | _ :: budget, s =>
    match piece s with
    | none => ([], s)
    | some (a, s) =>
      let (as, s) := manyWithin piece budget s
      (a :: as, s)

/-- As many pieces as can be read. -/
def many (piece : Scan α) (s : List Char) : List α × List Char := manyWithin piece s s

/-- A comma and an item. -/
def afterComma (item : Scan α) : Scan α := fun s => do item (← token [','] s)

/-- Items separated by commas, possibly none; a last comma may follow them. -/
def commaSeparated (item : Scan α) (s : List Char) : List α × List Char :=
  match item s with
  | none => ([], s)
  | some (first, s) =>
    let (others, s) := many (afterComma item) s
    (first :: others, (token [','] s).getD s)

/-- Items separated by commas between two brackets. -/
def bracketed (opening closing : Char) (item : Scan α) : Scan (List α) := fun s => do
  let s ← after? [opening] s
  let (items, s) := commaSeparated item s
  let s ← token [closing] s
  return (items, s)

end Scan

end LambdaQuery
