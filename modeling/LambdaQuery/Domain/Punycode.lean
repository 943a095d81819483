/-!
# Punycode

A label beyond ASCII is written with letters, digits and hyphens: first its ASCII characters and a
hyphen, then, for each other character in ascending order, a number that tells the character and
its place.  The numbers have digits in base 36, and the weight of a digit adapts to the numbers
before it.

## Main definitions

* `LambdaQuery.Domain.punycode` — the written form of a label.
* `LambdaQuery.Domain.readPunycode?` — the label of a written form.
-/

set_option autoImplicit false

namespace LambdaQuery.Domain

/-- The character belongs to ASCII. -/
def isAscii (c : Char) : Bool := c.toNat < 0x80

/-! ## Digits -/

/-- The digit of a number below 36. -/
def punycodeDigit (n : Nat) : Char :=
  if n < 26 then Char.ofNat ('a'.toNat + n) else Char.ofNat ('0'.toNat + (n - 26))

/-- The number of a digit; letters of both cases count alike. -/
def punycodeDigitValue? (c : Char) : Option Nat :=
  if c.isLower then some (c.toNat - 'a'.toNat)
  else if c.isUpper then some (c.toNat - 'A'.toNat)
  else if c.isDigit then some (c.toNat - '0'.toNat + 26)
  else none

/-- The threshold of the digit at position `k`: a digit below it ends a number. -/
def punycodeThreshold (bias k : Nat) : Nat := if k ≤ bias then 1 else min (k - bias) 26

/-- How often a difference is divided until it is small, and what is left.  A number is divided no
more often than it has bits. -/
def punycodeDamp : Nat → Nat → Nat → Nat × Nat
  | 0, k, delta => (k, delta)
  | bits + 1, k, delta =>
    if 455 < delta then punycodeDamp bits (k + 36) (delta / 35) else (k, delta)

/-- The bias after a difference, for `count` characters so far. -/
def punycodeAdapt (delta count : Nat) (isFirst : Bool) : Nat :=
  let delta := if isFirst then delta / 700 else delta / 2
  let delta := delta + delta / count
  let (k, delta) := punycodeDamp delta.log2.succ 0 delta
  k + 36 * delta / (delta + 38)

/-! ## Writing -/

/-- The digits of a number; `k` is the position of the next one.  A digit takes away more than half
of the number, and zero has one digit, so that there is at most one digit more than bits. -/
def punycodeDigits (bias : Nat) : Nat → Nat → Nat → List Char
  | 0, _, _ => []
  | bits + 1, k, q =>
    let t := punycodeThreshold bias k
    if q < t then [punycodeDigit q]
    else punycodeDigit (t + (q - t) % (36 - t)) ::
      punycodeDigits bias bits (k + 36) ((q - t) / (36 - t))

/-- The state of the writing. -/
structure PunycodeWriting where
  /-- The difference to the next insertion. -/
  delta : Nat
  /-- The bias. -/
  bias : Nat
  /-- The number of characters handled. -/
  handled : Nat
  /-- The text written. -/
  written : List Char

/-- Inserts all occurrences of the code `n` into a label. -/
def punycodeInsert (basic n : Nat) (label : List Char) (state : PunycodeWriting) :
    PunycodeWriting :=
  let state := label.foldl (fun s c =>
    if c.toNat < n then { s with delta := s.delta + 1 }
    else if c.toNat = n then
      { delta := 0
        bias := punycodeAdapt s.delta (s.handled + 1) (s.handled == basic)
        handled := s.handled + 1
        written := s.written ++ punycodeDigits s.bias (s.delta.log2 + 2) 36 s.delta }
    else s) state
  { state with delta := state.delta + 1 }

/-- The codes beyond ASCII of a label, in ascending order. -/
def wideCodes (label : List Char) : List Nat :=
  ((label.filter (!isAscii ·)).map Char.toNat).eraseDups.mergeSort

/-- Inserts the wide codes in ascending order; `next` is the code behind the last one inserted. -/
def punycodeInsertAll (basic : Nat) (label : List Char) :
    Nat → List Nat → PunycodeWriting → PunycodeWriting
  | _, [], state => state
  | next, n :: codes, state =>
    let state := { state with delta := state.delta + (n - next) * (state.handled + 1) }
    punycodeInsertAll basic label (n + 1) codes (punycodeInsert basic n label state)

/-- The written form of a label. -/
def punycode (label : List Char) : List Char :=
  let basic := label.filter isAscii
  let start := if basic.isEmpty then [] else basic ++ ['-']
  (punycodeInsertAll basic.length label 0x80 (wideCodes label)
    ⟨0, 72, basic.length, start⟩).written

/-! ## Reading -/

/-- The state of the reading. -/
structure PunycodeReading where
  /-- The code of the last character inserted. -/
  code : Nat
  /-- The place where the last number started to count. -/
  start : Nat
  /-- The place that the digits so far count to. -/
  place : Nat
  /-- The weight of the next digit. -/
  weight : Nat
  /-- The position of the next digit. -/
  position : Nat
  /-- The bias. -/
  bias : Nat
  /-- The label so far. -/
  label : List Char

/-- Inserts the character that a complete number tells, if there is such a character. -/
def PunycodeReading.insert? (s : PunycodeReading) : Option PunycodeReading :=
  let count := s.label.length + 1
  let code := s.code + s.place / count
  let place := s.place % count
  if code.isValidChar then
    some
      { code := code
        start := place + 1
        place := place + 1
        weight := 1
        position := 36
        bias := punycodeAdapt (s.place - s.start) count (s.start == 0)
        label := s.label.insertIdx place (Char.ofNat code) }
  else none

/-- Reads numbers to the end of a text, which must not end inside one. -/
def readPunycodeFrom? (s : PunycodeReading) : List Char → Option (List Char)
  | [] => if s.position = 36 then some s.label else none
  | c :: rest =>
    match punycodeDigitValue? c with
    | none => none
    | some digit =>
      let threshold := punycodeThreshold s.bias s.position
      let s := { s with place := s.place + digit * s.weight }
      if digit < threshold then
        match s.insert? with
        | some s => readPunycodeFrom? s rest
        | none => none
      else
        readPunycodeFrom?
          { s with weight := s.weight * (36 - threshold), position := s.position + 36 } rest

/-- The label of a written form; none if it is none.  A hyphen at the start ends no ASCII
characters, and so is no part of a written form. -/
def readPunycode? (s : List Char) : Option (List Char) :=
  let numbers := (s.reverse.takeWhile (· != '-')).reverse
  let basic := (s.reverse.dropWhile (· != '-')).reverse.dropLast
  let numbers := if basic.isEmpty then s else numbers
  if basic.all isAscii then readPunycodeFrom? ⟨0x80, 0, 0, 1, 36, 72, basic⟩ numbers else none

end LambdaQuery.Domain
