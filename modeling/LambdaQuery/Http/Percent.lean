/-!
# Percent-encoding

Characters of an address are written as themselves or as the bytes of their UTF-8 form, each as a
percent sign and two hexadecimal digits.

## Main definitions

* `LambdaQuery.Http.percentEncode` — a text with some characters encoded.
* `LambdaQuery.Http.formEncode` — a text as a key or value of a form.
* `LambdaQuery.Http.formQuery` — pairs of keys and values as a query.
* `LambdaQuery.Http.percentDecode` — the bytes of an encoded text.
-/

set_option autoImplicit false

namespace LambdaQuery.Http

/-- A hexadecimal digit, in upper case. -/
def upperHexDigit (n : Nat) : Char := (Nat.digitChar n).toUpper

/-- A byte as a percent sign and two hexadecimal digits. -/
def percentByte (b : UInt8) : List Char :=
  ['%', upperHexDigit (b.toNat / 16), upperHexDigit (b.toNat % 16)]

/-- A character as the encoded bytes of its UTF-8 form. -/
def percentChar (c : Char) : List Char := (String.utf8EncodeChar c).flatMap percentByte

/-- The text with the characters that `isEncoded` picks, and all beyond ASCII, encoded. -/
def percentEncode (isEncoded : Char → Bool) (s : List Char) : List Char :=
  s.flatMap fun c => if isEncoded c || 0x80 ≤ c.toNat then percentChar c else [c]

/-! ## Forms -/

/-- The character stands for itself in a form. -/
def isFormChar (c : Char) : Bool :=
  c.isAlphanum || c == '*' || c == '-' || c == '.' || c == '_'

/-- A character of a key or value of a form: a space becomes a plus sign. -/
def formChar (c : Char) : List Char :=
  if isFormChar c then [c] else if c = ' ' then ['+'] else percentChar c

/-- A text as a key or value of a form. -/
def formEncode (s : List Char) : List Char := s.flatMap formChar

/-- A key and a value. -/
def formPair (p : String × String) : List Char :=
  formEncode p.1.toList ++ '=' :: formEncode p.2.toList

/-- Keys and values as a query, with ampersands between the pairs. -/
def formQuery (pairs : List (String × String)) : List Char :=
  List.intercalate ['&'] (pairs.map formPair)

/-! ## Decoding -/

/-- The value of a hexadecimal digit. -/
def hexValue? (c : Char) : Option Nat :=
  if c.isDigit then some (c.toNat - '0'.toNat)
  else if 'A' ≤ c ∧ c ≤ 'F' then some (c.toNat - 'A'.toNat + 10)
  else if 'a' ≤ c ∧ c ≤ 'f' then some (c.toNat - 'a'.toNat + 10)
  else none

/-- The byte of two hexadecimal digits. -/
def hexByte? (a b : Char) : Option UInt8 := do
  let high ← hexValue? a
  let low ← hexValue? b
  return UInt8.ofNat (high * 16 + low)

/-- The bytes of a text in which encoded bytes are decoded.  A percent sign without two
hexadecimal digits stands for itself. -/
def percentDecode : List Char → List UInt8
  | [] => []
  | '%' :: a :: b :: rest =>
    match hexByte? a b with
    | some byte => byte :: percentDecode rest
    | none => String.utf8EncodeChar '%' ++ percentDecode (a :: b :: rest)
  | c :: rest => String.utf8EncodeChar c ++ percentDecode rest

end LambdaQuery.Http
