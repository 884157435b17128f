import LedgerCapture.Ledger.Address
import LedgerCapture.Ledger.Shard
import LedgerCapture.Proofs.Decimal.Integer
import LedgerCapture.Proofs.Json.Record

/-!
Identifiers of the ledger and the documents that hold them. What is written for an address or a shard is
read as that address or shard; a shard can be written as a number or as its digits.
-/
namespace LedgerCapture

namespace Text

/-- Between no blanks there is nothing to trim. -/
theorem trimChars_eq_self {chars : List Char} (solid : ∀ c ∈ chars, isBlank c = false) :
    trimChars chars = chars := by
  have kept : ∀ {chars : List Char}, (∀ c ∈ chars, isBlank c = false) → chars.dropWhile isBlank = chars := by
    intro chars solid
    cases chars with
    | nil => rfl
    | cons c rest => exact List.dropWhile_cons_of_neg (by simp [solid c (List.mem_cons_self ..)])
  rw [trimChars, kept solid, kept fun c member => solid c (List.mem_reverse.mp member), List.reverse_reverse]

end Text

namespace Ledger

/-! ### Digits -/

theorem toNat_bounds_of_isLowerHexDigit {c : Char} (digit : isLowerHexDigit c = true) :
    (48 ≤ c.toNat ∧ c.toNat ≤ 57) ∨ (97 ≤ c.toNat ∧ c.toNat ≤ 102) := by
  simpa [isLowerHexDigit, Char.le_def, UInt32.le_iff_toNat_le] using digit

theorem isBlank_of_bounds {c : Char} (least : 0x20 < c.toNat) (greatest : c.toNat < 0x80) :
    Text.isBlank c = false := by
  rw [← Bool.not_eq_true]
  simp only [Text.isBlank, Bool.or_eq_true, Bool.and_eq_true, decide_eq_true_eq, beq_iff_eq]
  omega

/-- There is nothing to trim about the digits of a number. -/
theorem trimChars_toDigits (number : Nat) : Text.trimChars (Nat.toDigits 10 number) = Nat.toDigits 10 number := by
  refine Text.trimChars_eq_self fun c member => ?_
  obtain ⟨least, greatest⟩ := Decimal.digit_of_mem_toDigits member
  have least : 48 ≤ c.toNat := least
  have greatest : c.toNat ≤ 57 := greatest
  exact isBlank_of_bounds (by omega) (by omega)

theorem isHexDigit_of_isLowerHexDigit {c : Char} (digit : isLowerHexDigit c = true) : isHexDigit c = true := by
  rw [isHexDigit]
  exact (Bool.or_eq_true _ _).mpr (.inl digit)

theorem lowerHexDigit_of_isLowerHexDigit {c : Char} (digit : isLowerHexDigit c = true) : lowerHexDigit c = c := by
  have bounds := toNat_bounds_of_isLowerHexDigit digit
  have small : ¬ ('A' ≤ c && c ≤ 'F') = true := by
    simp only [Bool.and_eq_true, decide_eq_true_eq, Char.le_def, UInt32.le_iff_toNat_le]
    show ¬ (65 ≤ c.toNat ∧ c.toNat ≤ 70)
    omega
  rw [lowerHexDigit, if_neg small]

/-! ### Addresses -/

namespace Address

theorem ofDigits?_digits (address : Address) : ofDigits? address.digits = some address := by
  obtain ⟨digits, nonempty, lower⟩ := address
  have isLower := List.all_eq_true.mp lower
  have hexadecimal : digits.all isHexDigit = true :=
    List.all_eq_true.mpr fun c member => isHexDigit_of_isLowerHexDigit (isLower c member)
  have same : digits.map lowerHexDigit = digits :=
    List.map_congr_left (fun c member => lowerHexDigit_of_isLowerHexDigit (isLower c member)) |>.trans
      (List.map_id' digits)
  rw [ofDigits?, dif_pos ⟨nonempty, hexadecimal⟩]
  simp only [same]

/-- An address is read from its own text. -/
theorem parse_text (address : Address) : parse address.text = .ok address := by
  have solid : ∀ c ∈ '0' :: 'x' :: address.digits, Text.isBlank c = false := by
    intro c member
    rcases List.mem_cons.mp member with rfl | member
    · rfl
    rcases List.mem_cons.mp member with rfl | member
    · rfl
    have bounds := toNat_bounds_of_isLowerHexDigit (List.all_eq_true.mp address.lower c member)
    exact isBlank_of_bounds (by omega) (by omega)
  have chars : address.text.toList = '0' :: 'x' :: address.digits := by
    rw [text, String.toList_append]
    exact congrArg (['0', 'x'] ++ ·) String.toList_ofList
  rw [parse, chars, Text.trimChars_eq_self solid, dropHexMark, ofDigits?_digits]

theorem read_toJson (address : Address) : read (.ofJson address.toJson) = .ok address := by
  rw [toJson, Json.Draft.ofJson, read, Json.Draft.readString, Json.Draft.readStringAs, Json.wellFormed_sound]
  simp only [bind, Except.bind, parse_text]
  rfl

end Address

/-! ### Shards -/

namespace ShardId

inductive Written (shard : ShardId) : Json → Prop where
  | number : Written shard shard.toJson
  | digits : Written shard (.string shard.text)

theorem number_le_greatest (shard : ShardId) : shard.number.toNat ≤ greatest :=
  Nat.le_of_lt_succ shard.number.toNat_lt

/-- A shard is read from its own text. -/
theorem parse_text (shard : ShardId) : parse shard.text = .ok shard := by
  have chars : shard.text.toList = Nat.toDigits 10 shard.number.toNat := by
    rw [text, Nat.toString_eq_ofList_toDigits, String.toList_ofList]
  rw [parse, chars, trimChars_toDigits, Decimal.readNatural_toDigits shard.number_le_greatest]
  simp only [UInt32.ofNat_toNat]

theorem read_toJson (shard : ShardId) (reading : Json.Reading) :
    read reading (.ofJson shard.toJson) = .ok shard := by
  have fits : (0 : Int) ≤ shard.number.toNat ∧ (shard.number.toNat : Int) ≤ greatest :=
    ⟨Int.natCast_nonneg _, Int.ofNat_le.mpr shard.number_le_greatest⟩
  rw [toJson, Json.ofNat, Json.Draft.ofJson, read, Json.wellFormed_sound]
  simp only [bind, Except.bind, if_pos fits, Int.toNat_natCast, UInt32.ofNat_toNat]
  rfl

theorem Written.read {shard : ShardId} {document : Json} (written : shard.Written document)
    (reading : Json.Reading) : ShardId.read reading (.ofJson document) = .ok shard := by
  cases written with
  | number => exact shard.read_toJson reading
  | digits =>
    rw [Json.Draft.ofJson, ShardId.read, Json.wellFormed_sound]
    simp only [bind, Except.bind, parse_text]
    rfl

end ShardId

end Ledger

end LedgerCapture
