import LambdaQuery.Domain.Direction
import LambdaQuery.Domain.Joining
import LambdaQuery.Domain.Mapping
import LambdaQuery.Domain.Punycode

/-!
# Names of hosts

A name is made of labels with points between them.  It is sent in ASCII: the characters of a label
are replaced by what they stand for and composed, and a label that is then not ASCII is written in
Punycode behind the mark `xn--`.

## Main definitions

* `LambdaQuery.Domain.isLabel` — what a label must satisfy whatever stands beside it.
* `LambdaQuery.Domain.readLabel?` — the label that a text between two points stands for.
* `LambdaQuery.Domain.writeLabel` — the form in which a label is sent.
* `LambdaQuery.Domain.toAscii?` — the form in which a name is sent.

## Design

A name of ASCII characters without the mark only has its capital letters replaced.  It is told
apart first, so that the common case needs no table.
-/

set_option autoImplicit false

namespace LambdaQuery.Domain

open LambdaQuery.Text

/-- The mark of a label that is written in Punycode. -/
def punycodeMark : List Char := "xn--".toList

/-- The text starts with the mark, in letters of any case. -/
def isMarked (label : List Char) : Bool :=
  punycodeMark.isPrefixOf (label.map Char.toLower)

/-- The label does not start with a mark of a letter, and each joiner has its place. -/
def isLabel (label : List Char) : Bool :=
  !(label.head?.any isMark) && joinersInPlace label

/-- The label can come out of Punycode: it is not ASCII, is composed of valid characters and is not
marked itself. -/
def isWide (label : List Char) : Bool :=
  !label.all isAscii && label.all isValid && composed label == label && !isMarked label

/-- The label that a text between two points stands for. -/
def readLabel? (s : List Char) : Option (List Char) := do
  let label ←
    if isMarked s then (readPunycode? (s.drop punycodeMark.length)).filter isWide else some s
  if isLabel label then return label else none

/-- The form in which a label is sent. -/
def writeLabel (label : List Char) : List Char :=
  if label.all isAscii then label else punycodeMark ++ punycode label

/-- The form in which a name is sent; none if it is no name. -/
def toAscii? (name : List Char) : Option (List Char) :=
  if name.all isAscii && !(splitAt '.' name).any isMarked then some (name.map Char.toLower)
  else do
    let mapped ← name.mapM mapChar?
    let labels ← (splitAt '.' (composed mapped.flatten)).mapM readLabel?
    if directionsAgree labels then
      return List.intercalate ['.'] (labels.map writeLabel)
    else none

end LambdaQuery.Domain
