import LambdaQuery.Http.Host

/-!
# Addresses

The address of a request is made of the address of the service and the place of the collection.
A request can be sent if it is an absolute address of the hypertext protocol whose host has plain
characters and whose text is not too long.

## Main definitions

* `LambdaQuery.Http.urlFor` — the address of a collection.
* `LambdaQuery.Http.Url` — an absolute address in its canonical form.
* `LambdaQuery.Http.Url.parse?` — the absolute address of a text.
* `LambdaQuery.Http.Url.target` — the text that a request sends.
* `LambdaQuery.Http.Url.isSendable` — whether a request can be sent to an address.
-/

set_option autoImplicit false

namespace LambdaQuery.Http

/-! ## The address of a collection -/

/-- The text starts with the scheme of the hypertext protocol. -/
def hasHttpScheme (s : List Char) : Bool :=
  "http://".toList.isPrefixOf s || "https://".toList.isPrefixOf s

/-- The text without the slashes at its start. -/
def dropLeadingSlashes (s : List Char) : List Char := s.dropWhile (· == '/')

/-- The text without the slashes at its end. -/
def dropTrailingSlashes (s : List Char) : List Char :=
  (s.reverse.dropWhile (· == '/')).reverse

/-- The address of the collection at `path`, for a service at `base`.  An absolute path stands for
itself, and no path for the service. -/
def urlFor (base : String) (path : Option String) : String :=
  match path with
  | none => base
  | some p =>
    if hasHttpScheme p.toList then p
    else if (dropLeadingSlashes p.toList).isEmpty then base
    else
      String.ofList
        (dropTrailingSlashes base.toList ++ '/' :: dropLeadingSlashes p.toList)

/-! ## Absolute addresses -/

/-- An absolute address of the hypertext protocol in its canonical form. -/
structure Url where
  /-- The scheme. -/
  scheme : List Char
  /-- The host, before an at sign a name of the user that cannot be read, and behind a colon the
  number of the service if it is not the usual one of the scheme. -/
  authority : List Char
  /-- The path, which starts with a slash. -/
  path : List Char
  /-- The query, without its question mark. -/
  query : Option (List Char)
  /-- The place inside the answer, without its number sign. -/
  fragment : Option (List Char)
deriving DecidableEq

namespace Url

/-- The text without control characters and spaces at its ends and without tabs and line breaks
inside. -/
def clean (s : List Char) : List Char :=
  let isEdge (c : Char) : Bool := c.toNat ≤ 0x20
  let trimmed := ((s.dropWhile isEdge).reverse.dropWhile isEdge).reverse
  trimmed.filter fun c => c != '\t' && c != '\n' && c != '\r'

/-- The usual number of the service of a scheme. -/
def usualNumber (scheme : List Char) : Nat := if scheme = "https".toList then 443 else 80

/-- The scheme and what follows its colon. -/
def scheme? (s : List Char) : Option (List Char × List Char) :=
  let scheme := (s.takeWhile (· != ':')).map Char.toLower
  match s.dropWhile (· != ':') with
  | ':' :: rest =>
    if scheme = "http".toList ∨ scheme = "https".toList then some (scheme, rest) else none
  | _ => none

/-- A slash of either kind. -/
def isSlash (c : Char) : Bool := c == '/' || c == '\\'

/-- The end of the part that names the host. -/
def endsAuthority (c : Char) : Bool := isSlash c || c == '?' || c == '#'

/-- What stands before and behind the last at sign. -/
def splitUserInfo (s : List Char) : List Char × List Char :=
  ((s.reverse.dropWhile (· != '@')).reverse.dropLast, (s.reverse.takeWhile (· != '@')).reverse)

/-- The host and the text behind the colon that follows it; a colon in square brackets belongs to
the host. -/
def splitAtColon : List Char → Bool → List Char × Option (List Char)
  | [], _ => ([], none)
  | c :: s, inBrackets =>
    if c = ':' ∧ ¬ inBrackets then ([], some s)
    else
      let (host, number) :=
        splitAtColon s (if c = '[' then true else if c = ']' then false else inBrackets)
      (c :: host, number)

/-- The canonical text of the number of a service: nothing for the usual one. -/
def serviceNumber? (scheme digits : List Char) : Option (List Char) :=
  if digits.isEmpty then some []
  else if digits.all Char.isDigit then
    let n := Text.numberOfDigits digits
    if 0xFFFF < n then none
    else some (if n = usualNumber scheme then [] else ':' :: Text.natural n)
  else none

/-- The character is encoded in a path. -/
def isEncodedInPath (c : Char) : Bool :=
  c.toNat ≤ 0x20 || c.toNat == 0x7F || "\"#<>?^`\x7b\x7d".toList.contains c

/-- The character is encoded in the name and the password of a user. -/
def isEncodedInUserInfo (c : Char) : Bool :=
  isEncodedInPath c || "/:;=@[\\]|".toList.contains c

/-- The encoded bytes of a text are the UTF-8 form of some text. -/
def isReadable (s : List Char) : Bool := (String.fromUTF8? ⟨(percentDecode s).toArray⟩).isSome

/-- What stays in an address of the name and the password of a user.  Where they can be read they
are taken out; a name that cannot be read stays with the password, and so does a password that
cannot be read and has no name. -/
def keptUserInfo (s : List Char) : List Char :=
  let (name, password) := Text.cutAt ':' s
  if isReadable name && (!name.isEmpty || isReadable password) then []
  else
    percentEncode isEncodedInUserInfo name ++
      (if password.isEmpty then [] else ':' :: percentEncode isEncodedInUserInfo password) ++ ['@']

/-- The canonical text of the host and the number of the service. -/
def authority? (scheme s : List Char) : Option (List Char) := do
  let (userInfo, place) := splitUserInfo s
  let (host, number) := splitAtColon place false
  let host ← parseHost? host
  let number ← serviceNumber? scheme (number.getD [])
  return keptUserInfo userInfo ++ host ++ number

/-- The character is encoded in the query of an address. -/
def isEncodedInQuery (c : Char) : Bool :=
  c.toNat ≤ 0x20 || c.toNat == 0x7F || "\"#<>'".toList.contains c

/-- The character is encoded in a fragment. -/
def isEncodedInFragment (c : Char) : Bool :=
  c.toNat ≤ 0x20 || c.toNat == 0x7F || "\"<>`".toList.contains c

/-- The segment stands for the current place; a point may be encoded. -/
def isCurrent (segment : List Char) : Bool :=
  let s := segment.map Char.toLower
  s == ['.'] || s == "%2e".toList

/-- The segment stands for the place above; the points may be encoded. -/
def isParent (segment : List Char) : Bool :=
  let s := segment.map Char.toLower
  s == "..".toList || s == ".%2e".toList || s == "%2e.".toList || s == "%2e%2e".toList

/-- The segment names a drive: a letter and a colon or a bar. -/
def isDrive : List Char → Bool
  | [letter, mark] => letter.isAlpha && (mark == ':' || mark == '|')
  | _ => false

/-- The segments above the last one; from a drive there is no way up. -/
def parentOf (above : List (List Char)) : List (List Char) :=
  match above with
  | s :: rest => if isDrive s then above else rest
  | [] => []

/-- The segments of a path without those that stand for the current place or the one above;
`above` are the segments before them, the last one first. -/
def resolveSegments (above : List (List Char)) : List (List Char) → List (List Char)
  | [] => above.reverse
  | s :: rest =>
    let isLast := rest.isEmpty
    if isParent s then
      resolveSegments (if isLast then [] :: parentOf above else parentOf above) rest
    else if isCurrent s then resolveSegments (if isLast then [] :: above else above) rest
    else resolveSegments (percentEncode isEncodedInPath s :: above) rest

/-- The path of an address. -/
def pathOf (s : List Char) : List Char :=
  match s with
  | [] => ['/']
  | c :: rest =>
    let s := if isSlash c then rest else c :: rest
    let segments := Text.splitAt '/' (s.map fun c => if isSlash c then '/' else c)
    (resolveSegments [] segments).flatMap ('/' :: ·)

/-- The query that follows a path. -/
def queryOf (s : List Char) : Option (List Char) :=
  match s with
  | '?' :: rest => some (percentEncode isEncodedInQuery (rest.takeWhile (· != '#')))
  | _ => none

/-- The fragment at the end of an address. -/
def fragmentOf (s : List Char) : Option (List Char) :=
  match s.dropWhile (· != '#') with
  | _ :: rest => some (percentEncode isEncodedInFragment rest)
  | [] => none

/-- The absolute address of a text; none if the text is no address of the hypertext protocol. -/
def parse? (text : List Char) : Option Url := do
  let (scheme, rest) ← scheme? (clean text)
  let rest := rest.dropWhile isSlash
  let authority ← authority? scheme (rest.takeWhile (!endsAuthority ·))
  let rest := rest.dropWhile (!endsAuthority ·)
  let isPathEnd (c : Char) : Bool := c == '?' || c == '#'
  return ⟨scheme, authority, pathOf (rest.takeWhile (!isPathEnd ·)),
    queryOf (rest.dropWhile (!isPathEnd ·)), fragmentOf rest⟩

/-- The address with keys and values added to its query; an empty query is left out. -/
def withPairs (u : Url) (pairs : List (String × String)) : Url :=
  let before := u.query.getD []
  let query :=
    if pairs.isEmpty then before
    else if before.isEmpty then formQuery pairs
    else before ++ '&' :: formQuery pairs
  { u with query := if query.isEmpty then none else some query }

/-- The text of the query with its question mark. -/
def queryText (u : Url) : List Char :=
  match u.query with
  | some q => '?' :: q
  | none => []

/-- The text of an address without its fragment, which is not sent. -/
def target (u : Url) : List Char :=
  u.scheme ++ "://".toList ++ u.authority ++ u.path ++ u.queryText

/-- The text of an address. -/
def text (u : Url) : List Char :=
  match u.fragment with
  | some f => u.target ++ '#' :: f
  | none => u.target

/-- A request can be sent to the address: its host has neither quotes nor braces, and its text has
less than `2 ^ 16 - 1` characters. -/
def isSendable (u : Url) : Bool :=
  !u.authority.any ("\"`\x7b\x7d".toList.contains ·) && u.text.length < 0xFFFF

end Url

end LambdaQuery.Http
