/-!
Reading bytes as UTF-8. `decodeLossy` never fails: each longest prefix of a sequence that cannot be
completed is read as one replacement character.
-/
namespace LedgerCapture.Text

def replacement : Char := '\uFFFD'

def between (low high byte : UInt8) : Bool :=
  low ≤ byte && byte ≤ high

def isContinuation (byte : UInt8) : Bool :=
  between 0x80 0xBF byte

def payload (byte : UInt8) : Nat :=
  byte.toNat % 64

/-- How the second byte of a sequence of three or four bytes is restricted by the first: no overlong
form, no surrogate, nothing above U+10FFFF. -/
def secondFits (first second : UInt8) : Bool :=
  if first == 0xE0 then between 0xA0 0xBF second
  else if first == 0xED then between 0x80 0x9F second
  else if first == 0xF0 then between 0x90 0xBF second
  else if first == 0xF4 then between 0x80 0x8F second
  else isContinuation second

/-- The character that starts with `first`, if one does, and the number of bytes of `rest` that belong
to it (or to the broken sequence that stands there instead). -/
def firstChar (first : UInt8) (rest : List UInt8) : Option Char × Nat :=
  if first < 0x80 then (some (Char.ofNat first.toNat), 0)
  else if between 0xC2 0xDF first then
    match rest with
    | second :: _ =>
      if isContinuation second then
        (some (Char.ofNat (first.toNat % 32 * 64 + payload second)), 1)
      else (none, 0)
    | [] => (none, 0)
  else if between 0xE0 0xEF first then
    match rest with
    | second :: third :: _ =>
      if !secondFits first second then (none, 0)
      else if !isContinuation third then (none, 1)
      else (some (Char.ofNat (first.toNat % 16 * 4096 + payload second * 64 + payload third)), 2)
    | [second] => (none, if secondFits first second then 1 else 0)
    | [] => (none, 0)
  else if between 0xF0 0xF4 first then
    match rest with
    | second :: third :: fourth :: _ =>
      if !secondFits first second then (none, 0)
      else if !isContinuation third then (none, 1)
      else if !isContinuation fourth then (none, 2)
      else
        (some (Char.ofNat (first.toNat % 8 * 262144 + payload second * 4096 + payload third * 64 +
          payload fourth)), 3)
    | [second, third] =>
      (none, if !secondFits first second then 0 else if isContinuation third then 2 else 1)
    | [second] => (none, if secondFits first second then 1 else 0)
    | [] => (none, 0)
  else (none, 0)

/-- Continues a decoding whose characters so far are in `done`, the last one first. -/
def decodeLossyFrom (done : List Char) : List UInt8 → List Char
  | [] => done.reverse
  | first :: rest =>
    decodeLossyFrom ((firstChar first rest).1.getD replacement :: done)
      (rest.drop (firstChar first rest).2)
termination_by bytes => bytes.length
decreasing_by simp only [List.length_drop, List.length_cons]; omega

def decodeLossy (bytes : List UInt8) : List Char :=
  decodeLossyFrom [] bytes

def lossy (bytes : ByteArray) : String :=
  String.ofList (decodeLossy bytes.toList)

end LedgerCapture.Text
