/-!
Finding results in what a program prints: a hexadecimal number behind a label, or the text behind a
marker. The leftmost place counts.
-/
namespace LedgerCapture

/-- A label that is followed by `0x` and digits of a class; `digits` writes the class in messages. -/
structure Pattern where
  label : String
  digits : String
  isDigit : Char → Bool

namespace Pattern

def text (pattern : Pattern) : String :=
  pattern.label ++ "(0x[" ++ pattern.digits ++ "]+)"

def dropStart? : List Char → List Char → Option (List Char)
  | [], text => some text
  | _ :: _, [] => none
  | c :: start, d :: text => if c = d then dropStart? start text else none

def matchAt? (pattern : Pattern) (text : List Char) : Option (List Char) := do
  let rest ← dropStart? (pattern.label.toList ++ ['0', 'x']) text
  let digits := rest.takeWhile pattern.isDigit
  if digits.isEmpty then none else some digits

/-- The digits at the leftmost place where the pattern matches. -/
def search? (pattern : Pattern) : List Char → Option (List Char)
  | [] => none
  | c :: rest =>
    match pattern.matchAt? (c :: rest) with
    | some digits => some digits
    | none => pattern.search? rest

def capture? (pattern : Pattern) (text : String) : Option String :=
  (pattern.search? text.toList).map fun digits => "0x" ++ String.ofList digits

def isLowerDigit (c : Char) : Bool :=
  ('0' ≤ c && c ≤ '9') || ('a' ≤ c && c ≤ 'f')

def isAnyDigit (c : Char) : Bool :=
  isLowerDigit c || ('A' ≤ c && c ≤ 'F')

def contractAddress : Pattern := ⟨"Contract address: ", "0-9a-f", isLowerDigit⟩

def messageHash : Pattern := ⟨"Message hash: ", "0-9a-f", isLowerDigit⟩

def walletAddress : Pattern := ⟨"Wallet address: ", "0-9a-fA-F", isAnyDigit⟩

def newWalletAddress : Pattern := ⟨"New wallet address: ", "0-9a-fA-F", isAnyDigit⟩

end Pattern

/-- The text behind the first occurrence of a marker. -/
def behindMarker? (marker : List Char) : List Char → Option (List Char)
  | [] => Pattern.dropStart? marker []
  | c :: rest =>
    match Pattern.dropStart? marker (c :: rest) with
    | some behind => some behind
    | none => behindMarker? marker rest

end LedgerCapture
