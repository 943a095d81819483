import LambdaQuery.Domain.Mark

/-!
# Direction of writing

Names can mix scripts that run to the right and scripts that run to the left.  So that the order of
the labels on a page stays clear, each label of a name with letters that run to the left must have
one direction, which its first character sets.

## Main definitions

* `LambdaQuery.Domain.Direction` — the classes of characters by direction.
* `LambdaQuery.Domain.direction` — the class of a character.
* `LambdaQuery.Domain.hasOneDirection` — the rule for a label.
* `LambdaQuery.Domain.directionsAgree` — the rule for the labels of a name.
-/

set_option autoImplicit false

namespace LambdaQuery.Domain

open LambdaQuery.Text

/-- The classes of characters by direction. -/
inductive Direction where
  /-- A letter of a script that runs to the right. -/
  | leftToRight
  /-- A letter of a script that runs to the left. -/
  | rightToLeft
  /-- A letter of the Arabic script or one like it. -/
  | arabicLetter
  /-- An Arabic digit. -/
  | arabicNumber
  /-- A European digit. -/
  | number
  /-- A plus or minus sign. -/
  | numberSign
  /-- A sign between digits. -/
  | numberSeparator
  /-- A sign beside a number, such as one of a currency. -/
  | numberTerminator
  /-- A nonspacing mark. -/
  | nonspacing
  /-- A sign that is not seen. -/
  | boundary
  /-- Any other sign. -/
  | neutral
deriving DecidableEq

/-- The characters of each class.  Nonspacing marks are not among them, and what has no row is a
letter of a script that runs to the right. -/
def directionCodes : List (Direction × CodeTable) :=
  [(.leftToRight, CodeTable.ofText "CBF CC6 11A07-11A08 11C3F"),
   (.arabicLetter, CodeTable.ofText
     "608 60B 60D 61B-64A 66D-66F 671-6D5 6E5-6E6 6EE-6EF 6FA-710 712-72F 74D-7A5 7B1 860-88F
      8A0-8C9 FBB2-FBC2 FE73 10D00-10D23 10EC2-10ED0 10F30-10F45 10F51-10F59 1EC71-1ED3D"),
   (.arabicNumber, CodeTable.ofText "660-669 66B-66C 10D30-10D39 10E60-10E7E"),
   (.number, CodeTable.ofText "30-39 6F0-6F9 102E1-102FB"),
   (.numberSign, CodeTable.ofText "2B 2D 2212"),
   (.numberSeparator, CodeTable.ofText "2C 2E-2F 3A 60C 2044"),
   (.numberTerminator, CodeTable.ofText
     "23-25 A2-A5 B0-B1 58F 609-60A 66A 9F2-9F3 9FB AF1 BF9 E3F 17DB 2030-2032 20A0-20C1 212E 2213
      A838-A839 11FDD-11FE0 1E2FF"),
   (.boundary, CodeTable.ofText "0-8 E-1B 7F 200C-200D"),
   (.rightToLeft, CodeTable.ofText
     "5BE 5C0 5C3 5C6 5D0-5F4 7C0-7EA 7F4-7F5 7FA 7FE-815 81A 824 828 830-858 85E 10800-1091B
      10920-10A00 10A10-10A35 10A40-10AE4 10AEB-10B35 10B40-10CFF 10D40-10D4F 10D6E-10D8F
      10E80-10EA9 10EAD-10EB1 10F00-10F27 10F70-10F81 10F86-10FF6 1E800-1E8CF 1E922-1E943
      1E94B-1E95F"),
   (.neutral, CodeTable.ofText
     "21-22 26-2A 3B-60 7B-7E A1 A6-AE B6-D7 F7 2B9-2BA 2C2-2CF 2D2-2ED 2EF-2FF 375 3F6 58A-58E
      606-607 60E-60F 6DE 6E9 7F6-7F9 BF3-BF8 BFA C78-C7E F3A-F3D 1390-1399 1400 169B-169C
      17F0-180A 1940-1945 19DE-19FF 2010-2027 2035-2043 2045-205E 2104-2129 213A-214D 218A-2211
      2214-2335 237B-2394 2396-26AB 26AD-27FF 2900-2BFF 2CE5-2CEA 2CF9-2CFF 2E00-3004 3008-3020
      3030 3037 303D-303F 30A0 30FB 31C0-31E5 4DC0-4DFF A490-A4C6 A60D-A60F A673 A67E-A67F
      A700-A721 A788 A828-A82B A874-A877 AB6A-AB6B FBC3-FDFF FE45-FE46 10101 10140-1018C
      10190-101A0 1091F 10B39-10B3F 10ED1-10ED8 11052-11065 11660-1166C 11FD5-11FDC 11FE1-11FF1
      16FE2 1CC00-1CEF0 1D1E9-1D241 1D245 1D300-1D356 1EEF0-1F12F 1F16D-1F16F 1F1AD 1F260-1FBFA")]

/-- The class of a character. -/
def direction (c : Char) : Direction :=
  match directionCodes.find? (·.2.contains c) with
  | some (d, _) => d
  | none => if isNonspacing c then .nonspacing else .leftToRight

/-- The class may occur in labels of both directions. -/
def Direction.isShared (d : Direction) : Bool :=
  [.number, .numberSign, .numberSeparator, .numberTerminator, .neutral, .boundary,
   .nonspacing].contains d

/-- The class makes a name one that runs to the left in part. -/
def Direction.isLeftward (d : Direction) : Bool :=
  [.rightToLeft, .arabicLetter, .arabicNumber].contains d

/-- The last class that is not that of a nonspacing mark. -/
def lastSpacing? (ds : List Direction) : Option Direction :=
  (ds.reverse.dropWhile (· == .nonspacing)).head?

/-- The label has one direction: its first character is a letter and sets it, all others may occur
in that direction, and the last one but nonspacing marks is a letter of it or a digit.  A label
that runs to the left has digits of one kind. -/
def hasOneDirection (label : List Char) : Bool :=
  let ds := label.map direction
  match ds with
  | [] => true
  | .leftToRight :: _ =>
    ds.all (fun d => d == .leftToRight || d.isShared) &&
      [some .leftToRight, some .number].contains (lastSpacing? ds)
  | .rightToLeft :: _ | .arabicLetter :: _ =>
    ds.all (fun d => d.isLeftward || d.isShared) &&
      [some .rightToLeft, some .arabicLetter, some .arabicNumber, some .number].contains
        (lastSpacing? ds) &&
      !(ds.contains .number && ds.contains .arabicNumber)
  | _ => false

/-- Either no label has a letter or digit that runs to the left, or each label has one
direction. -/
def directionsAgree (labels : List (List Char)) : Bool :=
  !labels.any (·.any fun c => (direction c).isLeftward) || labels.all hasOneDirection

end LambdaQuery.Domain
