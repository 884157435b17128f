import LedgerCapture.Ledger.Hex
import LedgerCapture.Text.Blank
import LedgerCapture.Json.Decode

/-!
Addresses of accounts and contracts. However an address was printed, it is kept in one form, so that
equality of addresses is equality of accounts.
-/
namespace LedgerCapture.Ledger

/-- An address: at least one hexadecimal digit, all of them in lower case. -/
structure Address where
  digits : List Char
  nonempty : digits ≠ []
  lower : digits.all isLowerHexDigit = true
  deriving DecidableEq

namespace Address

def text (address : Address) : String :=
  "0x" ++ String.ofList address.digits

def ofDigits? (digits : List Char) : Option Address :=
  if valid : digits ≠ [] ∧ digits.all isHexDigit = true then
    some ⟨digits.map lowerHexDigit, by simpa using valid.1, by
      rw [List.all_map]
      exact List.all_eq_true.2 fun c member =>
        isLowerHexDigit_lowerHexDigit (List.all_eq_true.1 valid.2 c member)⟩
  else none

structure Invalid where
  text : String
  deriving DecidableEq, Repr

def Invalid.message (fault : Invalid) : String :=
  "Invalid hex value '" ++ fault.text ++ "'"

/-- Reads an address; blanks around it, the mark and the case of the digits do not matter. -/
def parse (text : String) : Except Invalid Address :=
  match ofDigits? (dropHexMark (Text.trimChars text.toList)) with
  | some address => .ok address
  | none => .error ⟨text⟩

def toJson (address : Address) : Json :=
  .string address.text

def read (draft : Json.Draft) : Except Json.DecodeError Address := do
  (parse (← draft.readString)).mapError fun fault => .refused fault.message

end Address

end LedgerCapture.Ledger
