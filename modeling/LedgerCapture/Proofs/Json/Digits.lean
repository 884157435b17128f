import LedgerCapture.Proofs.Json.Printer
import LedgerCapture.Proofs.Json.Record
import Mathlib.Data.Nat.Digits.Defs

/-!
What is read from the digits of a natural number. Up to 64 bits it is the number itself; a greater number is read as
a double, so that no reader can tell any more which number it was.
-/
namespace LedgerCapture

namespace Decimal

theorem fittingExponent_le (number : Nat) (bounded : number < 2 ^ 128) : fittingExponent number 1 ≤ 75 := by
  have size : number.log2 ≤ 127 := by
    rcases Nat.eq_zero_or_pos number with rfl | positive
    · decide
    · exact Nat.le_of_lt_succ ((Nat.log2_lt positive.ne').mpr bounded)
  have one : Nat.log2 1 = 0 := by decide
  unfold fittingExponent
  rw [one]
  dsimp only [leastExponent]
  split <;> omega

/-- Whole numbers of up to 128 bits are far from being too large for a double. -/
theorem exists_nearest_whole (negative : Bool) {number : Nat} (bounded : number < 2 ^ 128) :
    ∃ value, nearest negative number 1 = some value := by
  have small := fittingExponent_le number bounded
  unfold nearest
  split
  · exact ⟨_, rfl⟩
  · dsimp only
    rw [if_neg]
    · exact ⟨_, rfl⟩
    · unfold greatestExponent
      split <;> dsimp only <;> omega

end Decimal

namespace Json

variable {reading : Reading} {number : Nat}

/-- The text of a natural number is read as a number, whatever size it has. -/
theorem parse_toString : parse reading (toString number) =
    (wellFormed (⟨false, Nat.toDigits 10 number, none, none⟩ : NumberText).value).map .number := by
  have written : (toString number).toList = Nat.toDigits 10 number := by
    rw [Nat.toString_eq_ofList_toDigits, String.toList_ofList]
  obtain ⟨c, rest, digits, digit⟩ := exists_digit_of_isWhole (isWhole_toDigits number)
  have cuts : Cuts Stops (toString number).toList
      [.number ⟨(⟨false, Nat.toDigits 10 number, none, none⟩ : NumberText).value, .ok ()⟩] := by
    rw [written]
    exact .number ⟨c, rest, digits, .inr digit⟩ fun more stops => scanNumber_digits (.inl rfl) number stops
  rw [parse, decode_of_spells (.number rfl cuts)]
  rfl

theorem parse_of_small (small : (number : Int) ≤ greatestInteger) :
    parse reading (toString number) = .ok (.ofNat number) := by
  have least : leastInteger ≤ number := Int.le_trans (by decide) (Int.natCast_nonneg number)
  have whole : (⟨false, Nat.toDigits 10 number, none, none⟩ : NumberText).value = .ok (.integer number) :=
    @value_toDigits false number nofun number rfl least small
  rw [parse_toString, whole]
  rfl

theorem exists_parse_of_large (large : greatestInteger < number) (bounded : number < 2 ^ 128) :
    ∃ value, ∀ reading, parse reading (toString number) = .ok (.number (.real value)) := by
  obtain ⟨value, near⟩ := Decimal.exists_nearest_whole false bounded
  refine ⟨value, fun reading => ?_⟩
  have positive : (number == 0) = false := by
    rw [beq_eq_false_iff_ne]
    rintro rfl
    exact absurd large (by decide)
  have short : (Nat.toDigits 10 number).length ≤ 40 :=
    Nat.toDigits_length 10 number 40 (by decide) (bounded.trans (by decide))
  have rounded : Decimal.ofDecimal false number (Nat.toDigits 10 number).length 0 = some value := by
    rw [Decimal.ofDecimal, positive]
    simp only [Bool.false_eq_true, if_false]
    rw [if_neg, if_neg, if_pos (by decide)]
    · simpa using near
    · show ¬((0 : Int) + (Nat.toDigits 10 number).length < -400)
      omega
    · show ¬((0 : Int) + (Nat.toDigits 10 number).length > 400)
      omega
  have real : (⟨false, Nat.toDigits 10 number, none, none⟩ : NumberText).value = .ok (.real value) := by
    simp only [NumberText.value, Option.getD_none, List.append_nil, digitsValue_toDigits, Bool.false_eq_true, if_false,
      List.length_nil, Nat.add_zero]
    rw [if_neg]
    · simp [rounded]
    · simp only [Bool.and_eq_true, decide_eq_true_eq, not_and, not_le]
      exact fun _ => large
  rw [parse_toString, real]
  rfl

end Json

end LedgerCapture
