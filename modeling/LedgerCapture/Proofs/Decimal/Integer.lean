import LedgerCapture.Decimal.Integer

/-!
The decimal digits of a natural number, and how they are read again.
-/
namespace LedgerCapture.Decimal

theorem digit_of_mem_toDigits {number : Nat} {c : Char} (member : c ∈ Nat.toDigits 10 number) :
    '0' ≤ c ∧ c ≤ '9' := by
  have digit := Nat.isDigit_of_mem_toDigits (by decide) (by decide) member
  simp only [Char.isDigit, Bool.and_eq_true, decide_eq_true_eq] at digit
  exact digit

/-- No number but zero starts with a zero. -/
theorem toDigits_ne_zero_cons {number : Nat} (positive : 0 < number) (rest : List Char) :
    Nat.toDigits 10 number ≠ '0' :: rest := by
  induction number using Nat.strongRecOn generalizing rest with
  | ind number ih =>
    intro same
    rcases Nat.lt_or_ge number 10 with small | great
    · rw [Nat.toDigits_of_lt_base small] at same
      have digits : ∀ digit : Fin 10, Nat.digitChar digit = '0' → digit.val = 0 := by decide
      exact Nat.ne_of_gt positive (digits ⟨number, small⟩ (List.cons.inj same).1)
    · rw [Nat.toDigits_of_base_le (by decide) great] at same
      cases front : Nat.toDigits 10 (number / 10) with
      | nil => exact Nat.toDigits_ne_nil front
      | cons c tail =>
        rw [front, List.cons_append] at same
        rw [(List.cons.inj same).1] at front
        exact ih (number / 10) (by omega) (by omega) tail front

theorem le_ofDigitChars (value : Nat) (digits : List Char) : value ≤ Nat.ofDigitChars 10 digits value := by
  rw [Nat.ofDigitChars_eq_ofDigitChars_zero]
  exact Nat.le_trans (Nat.le_mul_of_pos_left value (Nat.pow_pos (by decide))) (Nat.le_add_right _ _)

theorem continueNatural_eq_ok {limit value : Nat} {digits : List Char}
    (digit : ∀ c ∈ digits, '0' ≤ c ∧ c ≤ '9') (fits : Nat.ofDigitChars 10 digits value ≤ limit) :
    continueNatural limit value digits = .ok (Nat.ofDigitChars 10 digits value) := by
  induction digits generalizing value with
  | nil => rfl
  | cons c rest ih =>
    have next : Nat.ofDigitChars 10 (c :: rest) value =
        Nat.ofDigitChars 10 rest (value * 10 + (c.toNat - '0'.toNat)) := by
      rw [Nat.ofDigitChars_cons, Nat.mul_comm]
    rw [next] at fits ⊢
    unfold continueNatural
    rw [if_pos (digit c (List.mem_cons_self ..))]
    dsimp only
    rw [if_pos (Nat.le_trans (le_ofDigitChars _ rest) fits)]
    exact ih (fun other member => digit other (List.mem_cons_of_mem _ member)) fits

/-- A number within the limit is read from its own digits. -/
theorem readNatural_toDigits {limit number : Nat} (fits : number ≤ limit) :
    readNatural limit (Nat.toDigits 10 number) = .ok number := by
  have read : continueNatural limit 0 (Nat.toDigits 10 number) = .ok number := by
    rw [continueNatural_eq_ok (fun c member => digit_of_mem_toDigits member) (by rwa [Nat.ofDigitChars_ten_toDigits]),
      Nat.ofDigitChars_ten_toDigits]
  unfold readNatural
  split
  case h_1 empty => exact absurd empty Nat.toDigits_ne_nil
  case h_2 plus | h_3 plus =>
    have member : '+' ∈ Nat.toDigits 10 number := by rw [plus]; simp
    exact absurd (digit_of_mem_toDigits member).1 (by decide)
  case h_4 => exact read

/-! ### All texts of a number -/

theorem continueNatural_eq_ok_iff {limit value number : Nat} {digits : List Char} (small : value ≤ limit) :
    continueNatural limit value digits = .ok number ↔
      (∀ c ∈ digits, '0' ≤ c ∧ c ≤ '9') ∧ Nat.ofDigitChars 10 digits value = number ∧ number ≤ limit := by
  constructor
  · intro read
    induction digits generalizing value with
    | nil =>
      cases read
      exact ⟨nofun, rfl, small⟩
    | cons c rest ih =>
      unfold continueNatural at read
      split at read
      · next digit =>
        dsimp only at read
        split at read
        · next fits =>
          obtain ⟨digits, same, bounded⟩ := ih fits read
          refine ⟨fun other member => ?_, ?_, bounded⟩
          · rcases List.mem_cons.mp member with rfl | later
            · exact digit
            · exact digits other later
          · rw [Nat.ofDigitChars_cons, Nat.mul_comm]
            exact same
        · cases read
      · cases read
  · rintro ⟨digit, rfl, bounded⟩
    exact continueNatural_eq_ok digit bounded

/-- The text is the number in decimal digits, with a plus sign or without. -/
def Writes (text : List Char) (number : Nat) : Prop :=
  ∃ digits, (text = digits ∨ text = '+' :: digits) ∧ digits ≠ [] ∧ (∀ c ∈ digits, '0' ≤ c ∧ c ≤ '9') ∧
    Nat.ofDigitChars 10 digits 0 = number

theorem toDigits_writes (number : Nat) : Writes (Nat.toDigits 10 number) number :=
  ⟨_, .inl rfl, Nat.toDigits_ne_nil, fun _ member => digit_of_mem_toDigits member, Nat.ofDigitChars_ten_toDigits⟩

/-- The texts of the numbers within the limit are read, and no others. -/
theorem readNatural_eq_ok_iff {limit number : Nat} {text : List Char} :
    readNatural limit text = .ok number ↔ Writes text number ∧ number ≤ limit := by
  unfold readNatural
  constructor
  · intro read
    split at read
    case h_1 => cases read
    case h_2 => cases read
    case h_3 digits some =>
      obtain ⟨digit, same, fits⟩ := (continueNatural_eq_ok_iff (Nat.zero_le limit)).mp read
      refine ⟨⟨digits, .inr rfl, ?_, digit, same⟩, fits⟩
      rintro rfl
      exact some rfl
    case h_4 digits some _ _ =>
      obtain ⟨digit, same, fits⟩ := (continueNatural_eq_ok_iff (Nat.zero_le limit)).mp read
      exact ⟨⟨_, .inl rfl, some, digit, same⟩, fits⟩
  · rintro ⟨⟨digits, text, some, digit, same⟩, fits⟩
    have read := (continueNatural_eq_ok_iff (Nat.zero_le limit)).mpr ⟨digit, same, fits⟩
    rcases text with rfl | rfl
    · split
      case h_1 => exact absurd rfl some
      case h_2 | h_3 => exact absurd (digit '+' (List.mem_cons_self ..)).1 (by decide)
      case h_4 => exact read
    · cases digits with
      | nil => exact absurd rfl some
      | cons c rest => exact read

end LedgerCapture.Decimal
