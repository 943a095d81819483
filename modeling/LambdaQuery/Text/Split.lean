/-!
# Splitting

A text falls into the parts between the occurrences of a character.

## Main definitions

* `LambdaQuery.Text.splitAt` — the parts between the occurrences of a character.
* `LambdaQuery.Text.cutAt` — what stands before and behind the first occurrence of a character.
* `LambdaQuery.Text.words` — the parts between spaces and line breaks that are not empty.
-/

set_option autoImplicit false

namespace LambdaQuery.Text

/-- The parts of a text between the occurrences of a character. -/
def splitAt (c : Char) (s : List Char) : List (List Char) :=
  s.foldr (fun d parts =>
    if d = c then [] :: parts
    else match parts with
      | p :: ps => (d :: p) :: ps
      | [] => [[d]]) [[]]

/-- What stands before and behind the first occurrence of a character; all stands before it if it
does not occur. -/
def cutAt (c : Char) (s : List Char) : List Char × List Char :=
  (s.takeWhile (· != c), (s.dropWhile (· != c)).drop 1)

/-- The parts of a text between spaces and line breaks, without the empty ones. -/
def words (s : List Char) : List (List Char) :=
  (splitAt ' ' (s.map fun c => if c = '\n' then ' ' else c)).filter (!·.isEmpty)

end LambdaQuery.Text
