import LedgerCapture.Text.Utf8

/-!
What is written as UTF-8 is read as it was. The bytes of a character are looked at by their number, so that no
restriction on the second byte gets in the way.
-/
namespace LedgerCapture.Text

theorem toNat_byte {value : Nat} (small : value < 256) : (UInt8.ofNat value).toNat = value := by
  rw [UInt8.toNat_ofNat']
  exact Nat.mod_eq_of_lt small

theorem between_iff {low high byte : UInt8} :
    between low high byte = true ↔ low.toNat ≤ byte.toNat ∧ byte.toNat ≤ high.toNat := by
  simp only [between, Bool.and_eq_true, decide_eq_true_eq, UInt8.le_iff_toNat_le]

theorem isContinuation_byte (value : Nat) : isContinuation (UInt8.ofNat (value % 64 + 128)) = true := by
  rw [isContinuation, between_iff, toNat_byte (by omega)]
  exact ⟨Nat.le_add_left 128 _, show value % 64 + 128 ≤ 191 by omega⟩

theorem payload_byte (value : Nat) : payload (UInt8.ofNat (value % 64 + 128)) = value % 64 := by
  rw [payload, toNat_byte (by omega)]
  omega

theorem secondFits_of {first second : UInt8} (low : 0x80 ≤ second.toNat) (high : second.toNat ≤ 0xBF)
    (noOverlong : first.toNat = 0xE0 → 0xA0 ≤ second.toNat) (noSurrogate : first.toNat = 0xED → second.toNat ≤ 0x9F)
    (noOverlongFour : first.toNat = 0xF0 → 0x90 ≤ second.toNat)
    (notAbove : first.toNat = 0xF4 → second.toNat ≤ 0x8F) : secondFits first second = true := by
  have toNat : ∀ {byte : UInt8}, (first == byte) = true → first.toNat = byte.toNat :=
    fun same => congrArg UInt8.toNat (eq_of_beq same)
  unfold secondFits
  split
  case isTrue same => exact between_iff.mpr ⟨noOverlong (toNat same), high⟩
  split
  case isTrue same => exact between_iff.mpr ⟨low, noSurrogate (toNat same)⟩
  split
  case isTrue same => exact between_iff.mpr ⟨noOverlongFour (toNat same), high⟩
  split
  case isTrue same => exact between_iff.mpr ⟨low, notAbove (toNat same)⟩
  exact between_iff.mpr ⟨low, high⟩

theorem not_short_of_lead {first : UInt8} (high : 0xE0 ≤ first.toNat) :
    ¬first < 0x80 ∧ ¬between 0xC2 0xDF first = true := by
  rw [UInt8.lt_iff_toNat_lt, between_iff]
  constructor
  · exact Nat.not_lt.mpr (show 128 ≤ first.toNat by omega)
  · exact fun fits => absurd (show first.toNat ≤ 223 from fits.2) (by omega)

theorem firstChar_two {value : Nat} (low : 0x7F < value) (high : value ≤ 0x7FF) (rest : List UInt8) :
    firstChar (UInt8.ofNat (value / 64 % 32 + 192)) (UInt8.ofNat (value % 64 + 128) :: rest) =
      (some (Char.ofNat value), 1) := by
  have first : (UInt8.ofNat (value / 64 % 32 + 192)).toNat = value / 64 % 32 + 192 := toNat_byte (by omega)
  have notOne : ¬UInt8.ofNat (value / 64 % 32 + 192) < 0x80 := by
    rw [UInt8.lt_iff_toNat_lt, first]
    exact Nat.not_lt.mpr (show 128 ≤ _ by omega)
  have two : between 0xC2 0xDF (UInt8.ofNat (value / 64 % 32 + 192)) = true := by
    rw [between_iff, first]
    exact ⟨show 194 ≤ _ by omega, show _ ≤ 223 by omega⟩
  have whole : (value / 64 % 32 + 192) % 32 * 64 + value % 64 = value := by omega
  unfold firstChar
  rw [if_neg notOne, if_pos two]
  simp only [isContinuation_byte, payload_byte, first, whole, if_true]

theorem firstChar_three {value : Nat} (low : 0x7FF < value) (high : value ≤ 0xFFFF)
    (valid : value < 0xD800 ∨ 0xDFFF < value) (rest : List UInt8) :
    firstChar (UInt8.ofNat (value / 4096 % 16 + 224))
      (UInt8.ofNat (value / 64 % 64 + 128) :: UInt8.ofNat (value % 64 + 128) :: rest) =
      (some (Char.ofNat value), 2) := by
  have first : (UInt8.ofNat (value / 4096 % 16 + 224)).toNat = value / 4096 % 16 + 224 := toNat_byte (by omega)
  have second : (UInt8.ofNat (value / 64 % 64 + 128)).toNat = value / 64 % 64 + 128 := toNat_byte (by omega)
  obtain ⟨notOne, notTwo⟩ := not_short_of_lead (show 0xE0 ≤ (UInt8.ofNat (value / 4096 % 16 + 224)).toNat by omega)
  have three : between 0xE0 0xEF (UInt8.ofNat (value / 4096 % 16 + 224)) = true := by
    rw [between_iff, first]
    exact ⟨show 224 ≤ _ by omega, show _ ≤ 239 by omega⟩
  have fits : secondFits (UInt8.ofNat (value / 4096 % 16 + 224)) (UInt8.ofNat (value / 64 % 64 + 128)) = true := by
    apply secondFits_of <;> rw [second] <;> try rw [first]
    all_goals omega
  have whole : (value / 4096 % 16 + 224) % 16 * 4096 + value / 64 % 64 * 64 + value % 64 = value := by omega
  unfold firstChar
  rw [if_neg notOne, if_neg notTwo, if_pos three]
  simp only [fits, isContinuation_byte, payload_byte, first, whole, Bool.not_true, Bool.false_eq_true, if_false]

theorem firstChar_four {value : Nat} (low : 0xFFFF < value) (high : value < 0x110000) (rest : List UInt8) :
    firstChar (UInt8.ofNat (value / 262144 % 8 + 240)) (UInt8.ofNat (value / 4096 % 64 + 128) ::
      UInt8.ofNat (value / 64 % 64 + 128) :: UInt8.ofNat (value % 64 + 128) :: rest) =
      (some (Char.ofNat value), 3) := by
  have first : (UInt8.ofNat (value / 262144 % 8 + 240)).toNat = value / 262144 % 8 + 240 := toNat_byte (by omega)
  have second : (UInt8.ofNat (value / 4096 % 64 + 128)).toNat = value / 4096 % 64 + 128 := toNat_byte (by omega)
  obtain ⟨notOne, notTwo⟩ := not_short_of_lead (show 0xE0 ≤ (UInt8.ofNat (value / 262144 % 8 + 240)).toNat by omega)
  have notThree : ¬between 0xE0 0xEF (UInt8.ofNat (value / 262144 % 8 + 240)) = true := by
    rw [between_iff, first]
    exact fun fits => absurd (show _ ≤ 239 from fits.2) (by omega)
  have four : between 0xF0 0xF4 (UInt8.ofNat (value / 262144 % 8 + 240)) = true := by
    rw [between_iff, first]
    exact ⟨show 240 ≤ _ by omega, show _ ≤ 244 by omega⟩
  have fits : secondFits (UInt8.ofNat (value / 262144 % 8 + 240))
      (UInt8.ofNat (value / 4096 % 64 + 128)) = true := by
    apply secondFits_of <;> rw [second] <;> try rw [first]
    all_goals omega
  have whole : (value / 262144 % 8 + 240) % 8 * 262144 + value / 4096 % 64 * 4096 + value / 64 % 64 * 64 +
      value % 64 = value := by omega
  unfold firstChar
  rw [if_neg notOne, if_neg notTwo, if_neg notThree, if_pos four]
  simp only [fits, isContinuation_byte, payload_byte, first, whole, Bool.not_true, Bool.false_eq_true, if_false]

/-- The bytes of a character are read as that character. -/
theorem firstChar_utf8EncodeChar (c : Char) (rest : List UInt8) :
    ∃ first tail, String.utf8EncodeChar c = first :: tail ∧
      firstChar first (tail ++ rest) = (some c, tail.length) := by
  have valid : c.val.toNat < 0xD800 ∨ 0xDFFF < c.val.toNat ∧ c.val.toNat < 0x110000 := c.valid
  have same : Char.ofNat c.val.toNat = c := Char.ofNat_toNat c
  unfold String.utf8EncodeChar
  dsimp only
  split
  case isTrue one =>
    have low : UInt8.ofNat c.val.toNat < 0x80 := by
      rw [UInt8.lt_iff_toNat_lt, toNat_byte (by omega)]
      exact Nat.lt_succ_of_le one
    refine ⟨_, _, rfl, ?_⟩
    unfold firstChar
    rw [if_pos low, toNat_byte (by omega), same]
    rfl
  case isFalse notOne =>
    split
    case isTrue two => exact ⟨_, _, rfl, (firstChar_two (by omega) two rest).trans (by rw [same]; rfl)⟩
    case isFalse notTwo =>
      split
      case isTrue three =>
        exact ⟨_, _, rfl, (firstChar_three (by omega) three (by omega) rest).trans (by rw [same]; rfl)⟩
      case isFalse notThree =>
        exact ⟨_, _, rfl, (firstChar_four (by omega) (by omega) rest).trans (by rw [same]; rfl)⟩

theorem decodeLossyFrom_utf8Encode (done chars : List Char) (rest : List UInt8) :
    decodeLossyFrom done (chars.flatMap String.utf8EncodeChar ++ rest) =
      decodeLossyFrom (chars.reverse ++ done) rest := by
  induction chars generalizing done with
  | nil => rfl
  | cons c chars ih =>
    obtain ⟨first, tail, bytes, read⟩ :=
      firstChar_utf8EncodeChar c (chars.flatMap String.utf8EncodeChar ++ rest)
    rw [List.flatMap_cons, bytes, List.cons_append, List.cons_append, List.append_assoc, decodeLossyFrom, read,
      List.drop_left, ih]
    simp

theorem toList_loop (bytes : ByteArray) (place : Nat) (done : List UInt8) :
    ByteArray.toList.loop bytes place done = done.reverse ++ bytes.data.toList.drop place := by
  fun_induction ByteArray.toList.loop bytes place done with
  | case1 place done inside ih =>
    have next : bytes.data.toList.drop place = bytes.get! place :: bytes.data.toList.drop (place + 1) := by
      rw [List.drop_eq_getElem_cons (by simpa using inside)]
      congr 1
      simp only [ByteArray.get!, Array.getElem_toList]
      exact (getElem!_pos bytes.data place inside).symm
    rw [ih, next, List.reverse_cons, List.append_assoc, List.singleton_append]
  | case2 place done outside =>
    have none : bytes.data.toList.drop place = [] := by
      apply List.drop_eq_nil_of_le
      simpa using outside
    rw [none, List.append_nil]

theorem toList_toUTF8 (text : String) : text.toUTF8.toList = text.toList.flatMap String.utf8EncodeChar := by
  have written := congrArg (·.data.toList) (String.utf8Encode_toList (b := text))
  rw [ByteArray.toList, toList_loop, List.reverse_nil, List.nil_append, List.drop_zero, String.toUTF8, ← written]
  simp [List.utf8Encode]

/-- A text survives being written as UTF-8 and read again. -/
theorem lossy_toUTF8 (text : String) : lossy text.toUTF8 = text := by
  have read := decodeLossyFrom_utf8Encode [] text.toList []
  rw [List.append_nil, List.append_nil] at read
  rw [lossy, decodeLossy, toList_toUTF8, read, decodeLossyFrom, List.reverse_reverse, String.ofList_toList]

end LedgerCapture.Text
