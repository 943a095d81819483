import LambdaQuery.Domain.Name
import LambdaQuery.Http.Percent
import LambdaQuery.Text.Numeral

/-!
# Hosts

The host of an address is a name, or an address of version 4 or 6 of the Internet protocol.

## Main definitions

* `LambdaQuery.Http.parseIpv4?`, `LambdaQuery.Http.parseIpv6?` — numeric hosts.
* `LambdaQuery.Http.parseHost?` — the canonical text of a host.
-/

set_option autoImplicit false

namespace LambdaQuery.Http

/-! ## Version 4 -/

/-- The number of a text in the given base. -/
def numberInBase? (base : Nat) (s : List Char) : Option Nat :=
  s.foldlM (fun n c => do
    let d ← hexValue? c
    if d < base then return n * base + d else none) 0

/-- A part of a numeric host: decimal, octal behind a zero, or hexadecimal behind `0x`. -/
def ipv4Part? : List Char → Option Nat
  | [] => none
  | '0' :: 'x' :: s | '0' :: 'X' :: s => numberInBase? 16 s
  | '0' :: s => numberInBase? 8 s
  | s => numberInBase? 10 s

/-- The parts of a host, a point at its end left out. -/
def hostParts (s : List Char) : List (List Char) :=
  let parts := Text.splitAt '.' s
  if parts.getLast? = some [] ∧ 1 < parts.length then parts.dropLast else parts

/-- The host ends in a number and must therefore be numeric. -/
def endsInNumber (s : List Char) : Bool :=
  match (hostParts s).getLast? with
  | none => false
  | some p =>
    (!p.isEmpty && p.all Char.isDigit) ||
      match p with
      | '0' :: 'x' :: _ | '0' :: 'X' :: _ => (ipv4Part? p).isSome
      | _ => false

/-- The number of a numeric host: each part but the last is a byte, and the last fills the rest. -/
def ipv4Number? : List Nat → Option Nat
  | [] => none
  | numbers =>
    let leading := numbers.dropLast
    let last := numbers.getLastD 0
    if numbers.length ≤ 4 ∧ leading.all (· < 256) ∧ last < Nat.pow 256 (5 - numbers.length) then
      some (leading.zipIdx.foldl (fun n p => n + p.1 * Nat.pow 256 (3 - p.2)) last)
    else none

/-- The canonical text of a host that is numeric. -/
def parseIpv4? (s : List Char) : Option (List Char) := do
  let n ← ipv4Number? (← (hostParts s).mapM ipv4Part?)
  return List.intercalate ['.'] ([3, 2, 1, 0].map fun i => Text.natural (n / Nat.pow 256 i % 256))

/-! ## Version 6 -/

/-- A group of a version 6 address: one to four hexadecimal digits. -/
def ipv6Group? (s : List Char) : Option Nat :=
  if 1 ≤ s.length ∧ s.length ≤ 4 then numberInBase? 16 s else none

/-- A byte in decimal, without needless zeros. -/
def decimalByte? (s : List Char) : Option Nat := do
  if s = [] ∨ (1 < s.length ∧ s.head? = some '0') then none
  else
    let n ← numberInBase? 10 s
    if n < 256 then return n else none

/-- The two groups of a version 4 address at the end of a version 6 one. -/
def embeddedIpv4? (s : List Char) : Option (List Nat) := do
  match ← (Text.splitAt '.' s).mapM decimalByte? with
  | [a, b, c, d] => return [a * 256 + b, c * 256 + d]
  | _ => none

/-- Groups between colons; the last may be a version 4 address. -/
def ipv6Groups? (s : List Char) : Option (List Nat) :=
  if s = [] then some []
  else
    let parts := Text.splitAt ':' s
    let last := parts.getLastD []
    if '.' ∈ last then do
      return (← parts.dropLast.mapM ipv6Group?) ++ (← embeddedIpv4? last)
    else parts.mapM ipv6Group?

/-- The text before and after the first pair of colons. -/
def cutAtGap : List Char → Option (List Char × List Char)
  | ':' :: ':' :: s => some ([], s)
  | c :: s => (cutAtGap s).map (Prod.map (c :: ·) id)
  | [] => none

/-- The eight groups of a version 6 address; a pair of colons stands for groups of zero. -/
def ipv6Address? (s : List Char) : Option (List Nat) := do
  match cutAtGap s with
  | some (before, behind) =>
    if '.' ∈ before then none
    else
      let left ← ipv6Groups? before
      let right ← ipv6Groups? behind
      if left.length + right.length < 8 then
        return left ++ List.replicate (8 - left.length - right.length) 0 ++ right
      else none
  | none =>
    let groups ← ipv6Groups? s
    if groups.length = 8 then return groups else none

/-- The length of the run of zeros at the start of a list. -/
def zeroRun (groups : List Nat) : Nat := (groups.takeWhile (· == 0)).length

/-- The start and length of the first longest run of at least two zeros. -/
def longestZeroRun (groups : List Nat) : Option (Nat × Nat) :=
  (List.range groups.length).foldl (fun best i =>
    let n := zeroRun (groups.drop i)
    match best with
    | some (_, m) => if m < n then some (i, n) else best
    | none => if 2 ≤ n then some (i, n) else none) none

/-- Groups with colons between them. -/
def ipv6GroupsText (groups : List Nat) : List Char :=
  List.intercalate [':'] (groups.map (Nat.toDigits 16))

/-- The canonical text of a version 6 address. -/
def ipv6Text (groups : List Nat) : List Char :=
  match longestZeroRun groups with
  | some (i, n) =>
    ipv6GroupsText (groups.take i) ++ "::".toList ++ ipv6GroupsText (groups.drop (i + n))
  | none => ipv6GroupsText groups

/-- The canonical text of a host in square brackets. -/
def parseIpv6? (s : List Char) : Option (List Char) := do
  let groups ← ipv6Address? s
  return '[' :: ipv6Text groups ++ [']']

/-! ## Hosts -/

/-- The character cannot occur in a name. -/
def isForbiddenInName (c : Char) : Bool :=
  c.toNat ≤ 0x20 || c.toNat == 0x7F || "#/:<>?@[\\]^|%".toList.contains c

/-- The canonical text of a host. -/
def parseHost? (s : List Char) : Option (List Char) :=
  match s with
  | '[' :: rest => if rest.getLast? = some ']' then parseIpv6? rest.dropLast else none
  | _ => do
    let decoded ← String.fromUTF8? ⟨(percentDecode s).toArray⟩
    let name ← Domain.toAscii? decoded.toList
    if name.isEmpty || name.any isForbiddenInName then none
    else if endsInNumber name then parseIpv4? name
    else return name

end LambdaQuery.Http
