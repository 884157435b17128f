/-!
Natural numbers written in decimal digits, read one digit after the other up to a limit.
-/
namespace LedgerCapture.Decimal

inductive IntegerFault where
  | empty
  | invalidDigit
  | tooLarge
  deriving DecidableEq, Repr

def IntegerFault.message : IntegerFault → String
  | empty => "cannot parse integer from empty string"
  | invalidDigit => "invalid digit found in string"
  | tooLarge => "number too large to fit in target type"

def continueNatural (limit : Nat) : Nat → List Char → Except IntegerFault Nat
  | value, [] => .ok value
  | value, c :: rest =>
    if '0' ≤ c ∧ c ≤ '9' then
      let next := value * 10 + (c.toNat - '0'.toNat)
      if next ≤ limit then continueNatural limit next rest else .error .tooLarge
    else .error .invalidDigit

/-- Reads a natural number; a plus sign may stand before its digits. -/
def readNatural (limit : Nat) (text : List Char) : Except IntegerFault Nat :=
  match text with
  | [] => .error .empty
  | ['+'] => .error .invalidDigit
  | '+' :: digits => continueNatural limit 0 digits
  | digits => continueNatural limit 0 digits

end LedgerCapture.Decimal
