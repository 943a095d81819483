import LambdaQuery.Expr.Parser

/-!
# Source texts

A source text is an expression with white space around it.  A text that is none is rejected with
the place where reading stopped.

## Main definitions

* `LambdaQuery.Position` — a place in a text, by bytes and by lines and columns.
* `LambdaQuery.ParseError` — why and where a text is rejected.
* `LambdaQuery.parse` — the expression of a source text.
-/

set_option autoImplicit false

namespace LambdaQuery

/-- A place in a text. -/
structure Position where
  /-- The bytes before it, in UTF-8. -/
  offset : Nat
  /-- The line, counted from 1. -/
  line : Nat
  /-- The column in characters, counted from 1. -/
  column : Nat
deriving DecidableEq

/-- The place behind a text. -/
def Position.after (before : List Char) : Position where
  offset := before.foldl (fun n c => n + c.utf8Size) 0
  line := before.count '\n' + 1
  column := (before.reverse.takeWhile (· != '\n')).length + 1

/-- Why a text is rejected. -/
inductive ParseFailure where
  /-- The text does not start with an expression. -/
  | noExpression
  /-- Something follows the expression. -/
  | trailingInput
deriving DecidableEq

/-- Why and where a text is rejected. -/
structure ParseError where
  /-- The reason. -/
  failure : ParseFailure
  /-- The place, in the text without the white space around it. -/
  position : Position
deriving DecidableEq

/-- The wording of the reason. -/
def ParseFailure.message : ParseFailure → String
  | .noExpression => "Backtrack(ContextError \x7b context: [], cause: None \x7d)"
  | .trailingInput => "unexpected trailing input"

/-- The reason and the place. -/
def ParseError.message (e : ParseError) : String :=
  e.failure.message ++ " (line " ++ toString e.position.line ++ ", column "
    ++ toString e.position.column ++ ", offset " ++ toString e.position.offset ++ ")"

/-- The expression of a text without white space around it. -/
def parseTrimmed (text : List Char) : Except ParseError Expr :=
  match Expr.scan text with
  | none => .error ⟨.noExpression, .after []⟩
  | some (e, rest) =>
    match Text.trimStart rest with
    | [] => .ok e
    | c :: trailing =>
      .error ⟨.trailingInput, .after (text.take (text.length - (c :: trailing).length))⟩

/-- The expression of a source text. -/
def parse (source : String) : Except ParseError Expr := parseTrimmed (Text.trim source.toList)

end LambdaQuery
