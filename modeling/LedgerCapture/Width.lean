/-!
The integers that fit in a given number of bits. The powers are natural numbers throughout, so that the
bounds compute in proofs.
-/
namespace LedgerCapture.Width

def greatest (bits : Nat) : Nat := Nat.pow 2 bits - 1

def leastSigned (bits : Nat) : Int := -(Nat.pow 2 (bits - 1) : Nat)

def greatestSigned (bits : Nat) : Int := (greatest (bits - 1) : Nat)

example : greatest 32 = 4294967295 := by decide
example : leastSigned 64 = -9223372036854775808 := by decide
example : greatestSigned 64 = 9223372036854775807 := by decide

end LedgerCapture.Width
