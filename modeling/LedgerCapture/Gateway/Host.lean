import LedgerCapture.Json.Token
import LedgerCapture.Text.Punycode
import LedgerCapture.Text.Utf8

/-!
Hosts in addresses on the web, by the URL standard: names, and addresses of the fourth and the sixth
version of the internet protocol. Each host has one normal form.
-/
namespace LedgerCapture.Url

open Json (isDigit digitsValue hexValue?)

def isLetter (c : Char) : Bool :=
  ('a' ≤ c && c ≤ 'z') || ('A' ≤ c && c ≤ 'Z')

def lowerLetter (c : Char) : Char :=
  if 'A' ≤ c && c ≤ 'Z' then Char.ofNat (c.toNat + 32) else c

/-! ### Addresses of the fourth version -/

/-- A part of an address: decimal, or to base 16 or 8 by its first digits. -/
def hostNumber? (part : List Char) : Option Nat :=
  let toBase := fun (base : Nat) (digits : List Char) =>
    if digits.all fun c => (hexValue? c).any (· < base) then
      some (digits.foldl (fun value c => value * base + (hexValue? c).getD 0) 0)
    else none
  match part with
  | [] => none
  | '0' :: 'x' :: digits => toBase 16 digits
  | '0' :: 'X' :: digits => toBase 16 digits
  | ['0'] => some 0
  | '0' :: digits => toBase 8 digits
  | digits => toBase 10 digits

def hostAddress? (parts : List (List Char)) : Option String := do
  let numbers ← parts.mapM hostNumber?
  let last ← numbers.getLast?
  let count := numbers.length
  if 4 < count || numbers.dropLast.any (255 < ·) || Nat.pow 256 (5 - count) ≤ last then none
  else
    let high := numbers.dropLast.foldl (fun value number => value * 256 + number) 0
    let value := high * Nat.pow 256 (5 - count) + last
    return ".".intercalate ([3, 2, 1, 0].map fun i => toString (value / Nat.pow 256 i % 256))

/-! ### Addresses of the sixth version -/

def group? (text : List Char) : Option Nat :=
  if text.isEmpty || 4 < text.length then none
  else do return (← text.mapM hexValue?).foldl (fun value digit => value * 16 + digit) 0

/-- A number below 256 without zeros before it. -/
def byte? (text : List Char) : Option Nat :=
  if text.isEmpty || 3 < text.length || !text.all isDigit then none
  else if 1 < text.length && text.head? == some '0' then none
  else if digitsValue text < 256 then some (digitsValue text)
  else none

/-- The groups between colons. The last two can be written as an address of the fourth version. -/
def groups? : List (List Char) → Option (List Nat)
  | [] => some []
  | [last] =>
    if last.contains '.' then do
      match ← (last.splitOn '.').mapM byte? with
      | [a, b, c, d] => return [a * 256 + b, c * 256 + d]
      | _ => none
    else do return [← group? last]
  | part :: rest => do return (← group? part) :: (← groups? rest)

/-- The parts between colons; an empty text has none. -/
def colonParts (text : List Char) : List (List Char) :=
  if text.isEmpty then [] else text.splitOn ':'

/-- Cuts a text at the first two colons in a row. -/
def cutAtGap : List Char → List Char → List Char × Option (List Char)
  | before, ':' :: ':' :: rest => (before.reverse, some rest)
  | before, c :: rest => cutAtGap (c :: before) rest
  | before, [] => (before.reverse, none)

/-- The eight groups of an address. Two colons in a row stand for as many zeros as are missing. -/
def longAddress? (text : List Char) : Option (List Nat) := do
  match cutAtGap [] text with
  | (whole, none) =>
    let groups ← groups? (colonParts whole)
    if groups.length == 8 then return groups else none
  | (before, some behind) =>
    let high ← (colonParts before).mapM group?
    let low ← groups? (colonParts behind)
    let missing := 8 - (high.length + low.length)
    if missing == 0 then none else return high ++ List.replicate missing 0 ++ low

def zeroRun (groups : List Nat) : Nat :=
  (groups.takeWhile (· == 0)).length

/-- The place and length of the first of the longest runs of zeros. -/
def longestZeroRun : Nat → List Nat → Nat × Nat
  | place, [] => (place, 0)
  | place, group :: rest =>
    let here := zeroRun (group :: rest)
    let later := longestZeroRun (place + 1) rest
    if later.2 ≤ here then (place, here) else later

def groupText (group : Nat) : String :=
  String.ofList (Nat.toDigits 16 group)

/-- The text of an address. The longest run of zeros is left out, unless it is a single one. -/
def longAddressText (groups : List Nat) : String :=
  let join := fun (groups : List Nat) => ":".intercalate (groups.map groupText)
  match longestZeroRun 0 groups with
  | (place, length) =>
    if length ≤ 1 then join groups
    else join (groups.take place) ++ "::" ++ join (groups.drop (place + length))

/-! ### Names -/

/-- The bytes of a text in which percent signs with two digits stand for bytes. -/
def percentDecode : List Char → List UInt8
  | '%' :: high :: low :: rest =>
    match hexValue? high, hexValue? low with
    | some h, some l => UInt8.ofNat (h * 16 + l) :: percentDecode rest
    | _, _ => 37 :: percentDecode (high :: low :: rest)
  | c :: rest => (String.singleton c).toUTF8.toList ++ percentDecode rest
  | [] => []

/-- Characters that no name may hold. The last one stands for bytes that are no text. -/
def isForbiddenInHost (c : Char) : Bool :=
  c.toNat ≤ 0x20 || c.toNat == 0x7F || c.toNat == 0xFFFD ||
    c ∈ ['#', '/', ':', '<', '>', '?', '@', '[', '\\', ']', '^', '|', '%']

def asciiLabel (label : List Char) : List Char :=
  if label.all (·.toNat < 128) then label.map lowerLetter
  else "xn--".toList ++ Text.Punycode.encode (label.map lowerLetter)

/-- The normal form of a host. Letters beyond ASCII are taken to be in lower case. -/
def host? (text : List Char) : Option String :=
  match text with
  | '[' :: rest => do
    if rest.getLast? == some ']' then
      return "[" ++ longAddressText (← longAddress? rest.dropLast) ++ "]"
    else none
  | text =>
    let name := Text.decodeLossy (percentDecode text)
    if name.isEmpty || name.any isForbiddenInHost then none
    else
      let labels := (name.splitOn '.').map asciiLabel
      let parts := if 1 < labels.length && labels.getLast? == some [] then labels.dropLast else labels
      let numeric := parts.getLast?.any fun part =>
        (!part.isEmpty && part.all isDigit) || (hostNumber? part).isSome
      if numeric then hostAddress? parts else some (String.ofList (['.'].intercalate labels))

example : host? "127.1".toList = some "127.0.0.1" := by decide +kernel
example : host? "[0:0:0:1::0:0]".toList = some "[0:0:0:1::]" := by decide +kernel
example : host? "%C3%A9.Test".toList = some "xn--9ca.test" := by decide +kernel

end LedgerCapture.Url
