import LedgerCapture.Gateway.Host

/-!
Addresses on the web, as far as requests need them: the URL standard's rules for `http` and `https`.
`Url.parse` reads an endpoint, `Url.text` writes its normal form.
-/
namespace LedgerCapture

/-- A URL in its normal form. -/
structure Url where
  scheme : String
  host : String
  port : Option Nat
  path : String
  query : Option String
  fragment : Option String
  deriving DecidableEq, Repr

inductive Endpoint where
  /-- The text is no URL. -/
  | malformed
  /-- A URL that no request can be sent to. -/
  | unsuitable (url : String)
  | url (value : Url)
  deriving DecidableEq, Repr

namespace Url

open Json (isDigit digitsValue)

/-- Takes control characters and spaces off both ends, and tabs and line ends out of the middle. -/
def clean (text : List Char) : List Char :=
  let isEdge := fun (c : Char) => c.toNat ≤ 0x20
  let inner := ((text.dropWhile isEdge).reverse.dropWhile isEdge).reverse
  inner.filter fun c => !(c == '\t' || c == '\n' || c == '\r')

/-- The scheme before the first colon, in lower case, and what follows the colon. -/
def splitScheme? (text : List Char) : Option (List Char × List Char) :=
  let isSchemeChar := fun (c : Char) => isLetter c || isDigit c || c == '+' || c == '-' || c == '.'
  let scheme := text.takeWhile isSchemeChar
  match text.dropWhile isSchemeChar with
  | ':' :: rest => if text.head?.any isLetter then some (scheme.map lowerLetter, rest) else none
  | _ => none

def isSlash (c : Char) : Bool := c == '/' || c == '\\'

def percentByte (byte : UInt8) : List Char :=
  let digit := fun (n : Nat) => Char.ofNat (if n < 10 then 48 + n else 55 + n)
  ['%', digit (byte.toNat / 16), digit (byte.toNat % 16)]

/-- The characters with those replaced by their bytes that may not stand here. -/
def percentEncode (isUnsafe : Char → Bool) (text : List Char) : List Char :=
  text.flatMap fun c =>
    if isUnsafe c || c.toNat ≤ 0x1F || 0x7E < c.toNat then
      (String.singleton c).toUTF8.toList.flatMap percentByte
    else [c]

def isUnsafeInPath (c : Char) : Bool :=
  c ∈ [' ', '"', '#', '<', '>', '?', '^', '\u0060', '\x7b', '\x7d']

def isUnsafeInQuery (c : Char) : Bool :=
  c ∈ [' ', '"', '#', '<', '>', '\'']

def isUnsafeInFragment (c : Char) : Bool :=
  c ∈ [' ', '"', '<', '>', '\u0060']

/-- The port behind the host. The usual one is left out. -/
def port? (usual : Nat) (text : List Char) : Option (Option Nat) :=
  match text with
  | [] => some none
  | ':' :: digits =>
    if digits.all isDigit && digitsValue digits < 65536 then
      some (if digits.isEmpty || digitsValue digits == usual then none else some (digitsValue digits))
    else none
  | _ => none

/-- Splits the authority into host and port. A host in brackets may hold colons. -/
def splitPort (text : List Char) : List Char × List Char :=
  match text with
  | '[' :: _ =>
    let inside := text.takeWhile (· != ']')
    match text.dropWhile (· != ']') with
    | ']' :: rest => (inside ++ [']'], rest)
    | _ => (text, [])
  | text => (text.takeWhile (· != ':'), text.dropWhile (· != ':'))

/-- The name and password before the last at sign do not belong to the address. -/
def dropUser (text : List Char) : List Char :=
  (text.reverse.takeWhile (· != '@')).reverse

def resolveDots (parts : List (List Char)) : List (List Char) :=
  let isDot := fun (part : List Char) => part == ['.'] || part.map lowerLetter == "%2e".toList
  let isUp := fun (part : List Char) =>
    let lower := part.map lowerLetter
    lower == "..".toList || lower == ".%2e".toList || lower == "%2e.".toList || lower == "%2e%2e".toList
  let rec go (done : List (List Char)) : List (List Char) → List (List Char)
    | [] => done.reverse
    | [part] =>
      if isUp part then ([] :: done.drop 1).reverse
      else if isDot part then ([] :: done).reverse
      else (part :: done).reverse
    | part :: rest =>
      if isUp part then go (done.drop 1) rest
      else if isDot part then go done rest
      else go (part :: done) rest
  go [] parts

def normalPath (text : List Char) : String :=
  let relative := if text.head?.any isSlash then text.drop 1 else text
  let parts := (relative.map fun c => if c == '\\' then '/' else c).splitOn '/'
  String.ofList ('/' :: ['/'].intercalate ((resolveDots parts).map (percentEncode isUnsafeInPath)))

def parseRest? (scheme : String) (text : List Char) : Option Url := do
  let rest := text.dropWhile isSlash
  let isEnd := fun (c : Char) => isSlash c || c == '?' || c == '#'
  let authority := dropUser (rest.takeWhile (!isEnd ·))
  let rest := rest.dropWhile (!isEnd ·)
  let (hostText, portText) := splitPort authority
  let host ← host? hostText
  let port ← port? (if scheme == "https" then 443 else 80) portText
  let pathText := rest.takeWhile (fun c => !(c == '?' || c == '#'))
  let rest := rest.dropWhile (fun c => !(c == '?' || c == '#'))
  let query := match rest with
    | '?' :: rest => some (String.ofList (percentEncode isUnsafeInQuery (rest.takeWhile (· != '#'))))
    | _ => none
  let fragment := match rest.dropWhile (· != '#') with
    | '#' :: rest => some (String.ofList (percentEncode isUnsafeInFragment rest))
    | _ => none
  return ⟨scheme, host, port, normalPath pathText, query, fragment⟩

def parse (text : String) : Endpoint :=
  match splitScheme? (clean text.toList) with
  | none => .malformed
  | some (scheme, rest) =>
    let name := String.ofList scheme
    if name == "http" || name == "https" then
      match parseRest? name rest with
      | some url => .url url
      | none => .malformed
    else .unsuitable (name ++ ":" ++ String.ofList rest)

def text (url : Url) : String :=
  url.scheme ++ "://" ++ url.host ++
    (match url.port with | some port => ":" ++ toString port | none => "") ++ url.path ++
    (match url.query with | some query => "?" ++ query | none => "") ++
    (match url.fragment with | some fragment => "#" ++ fragment | none => "")

end Url

end LedgerCapture
