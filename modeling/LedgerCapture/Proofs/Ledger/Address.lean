import LedgerCapture.Proofs.Ledger.Identifier
import LedgerCapture.Proofs.Json.Printer
import Mathlib.Data.List.TakeWhile

/-!
Spellings of addresses. Blanks around the digits, the mark in front of them and their case make no difference to the
address that is read, and nothing else is left out of account: two spellings give one address exactly if their digits
agree up to case.
-/
namespace LedgerCapture

namespace Text

variable {before middle after : List Char}

/-- What is trimmed off is blank. -/
theorem exists_trimmed (chars : List Char) : ∃ before after, (∀ c ∈ before, isBlank c = true) ∧
    (∀ c ∈ after, isBlank c = true) ∧ chars = before ++ (trimChars chars ++ after) := by
  refine ⟨chars.takeWhile isBlank, ((chars.dropWhile isBlank).reverse.takeWhile isBlank).reverse,
    fun c member => List.mem_takeWhile_imp member,
    fun c member => List.mem_takeWhile_imp (List.mem_reverse.mp member), ?_⟩
  rw [trimChars, ← List.reverse_append, List.takeWhile_append_dropWhile, List.reverse_reverse,
    List.takeWhile_append_dropWhile]

/-- What stands between blanks and holds none is what is left. -/
theorem trimChars_between (blank : ∀ c ∈ before, isBlank c = true) (solid : ∀ c ∈ middle, isBlank c = false)
    (blankAfter : ∀ c ∈ after, isBlank c = true) : trimChars (before ++ (middle ++ after)) = middle := by
  cases middle with
  | nil =>
    refine trimChars_eq_nil (List.all_eq_true.mpr fun c member => ?_)
    exact (List.mem_append.mp member).elim (blank c) (blankAfter c)
  | cons first rest =>
    have start : (before ++ (first :: rest ++ after)).dropWhile isBlank = first :: rest ++ after := by
      rw [List.dropWhile_append_of_pos blank]
      exact List.dropWhile_cons_of_neg (by simp [solid first (List.mem_cons_self ..)])
    have reversed : (first :: rest ++ after).reverse.dropWhile isBlank = (first :: rest).reverse := by
      rw [List.reverse_append,
        List.dropWhile_append_of_pos fun c member => blankAfter c (List.mem_reverse.mp member)]
      cases ends : (first :: rest).reverse with
      | nil => rfl
      | cons last others =>
        have listed : last ∈ first :: rest := List.mem_reverse.mp (ends ▸ List.mem_cons_self ..)
        exact List.dropWhile_cons_of_neg (by simp [solid last listed])
    rw [trimChars, start, reversed, List.reverse_reverse]

end Text

namespace Ledger

variable {c : Char} {digits others : List Char}

theorem not_isBlank_of_isHexDigit (digit : isHexDigit c = true) : Text.isBlank c = false := by
  have all : ∀ n : Fin 128, isHexDigit (Char.ofNat n) = true → Text.isBlank (Char.ofNat n) = false := by decide
  have here := all ⟨c.toNat, toNat_lt_of_isHexDigit digit⟩
  simp only [Char.ofNat_toNat] at here
  exact here digit

theorem lowerHexDigit_eq_toLower (digit : isHexDigit c = true) : lowerHexDigit c = c.toLower := by
  have all : ∀ n : Fin 128, isHexDigit (Char.ofNat n) = true →
      lowerHexDigit (Char.ofNat n) = (Char.ofNat n).toLower := by decide
  have here := all ⟨c.toNat, toNat_lt_of_isHexDigit digit⟩
  simp only [Char.ofNat_toNat] at here
  exact here digit

/-- No mark stands in front of digits that are all hexadecimal, since its letter is no such digit. -/
theorem dropHexMark_digits (hexadecimal : ∀ c ∈ digits, isHexDigit c = true) : dropHexMark digits = digits := by
  unfold dropHexMark
  split
  · next rest => exact absurd (hexadecimal 'x' (by simp)) (by decide)
  · next rest => exact absurd (hexadecimal 'X' (by simp)) (by decide)
  · rfl

theorem exists_mark (text : List Char) :
    ∃ mark ∈ [[], ['0', 'x'], ['0', 'X']], text = mark ++ dropHexMark text := by
  unfold dropHexMark
  split
  · next rest => exact ⟨['0', 'x'], by simp, rfl⟩
  · next rest => exact ⟨['0', 'X'], by simp, rfl⟩
  · exact ⟨[], by simp, rfl⟩

namespace Address

variable {text other : String} {address : Address}

/-- The text gives the digits: with blanks around them or not, behind one mark or none. -/
inductive Spells : List Char → List Char → Prop where
  | mk {before mark digits after : List Char} (blank : ∀ c ∈ before, Text.isBlank c = true)
      (marked : mark ∈ [[], ['0', 'x'], ['0', 'X']]) (nonempty : digits ≠ [])
      (hexadecimal : ∀ c ∈ digits, isHexDigit c = true) (blankAfter : ∀ c ∈ after, Text.isBlank c = true) :
      Spells (before ++ (mark ++ digits ++ after)) digits

theorem Spells.dropHexMark_trimChars {chars : List Char} (spells : Spells chars digits) :
    dropHexMark (Text.trimChars chars) = digits := by
  obtain ⟨blank, marked, nonempty, hexadecimal, blankAfter⟩ := spells
  rename_i before mark after
  have solid : ∀ c ∈ mark ++ digits, Text.isBlank c = false := by
    intro c member
    rcases List.mem_append.mp member with member | member
    · simp only [List.mem_cons, List.not_mem_nil, or_false] at marked
      rcases marked with rfl | rfl | rfl <;> simp only [List.mem_cons, List.not_mem_nil, or_false] at member
      all_goals rcases member with rfl | rfl <;> rfl
    · exact not_isBlank_of_isHexDigit (hexadecimal c member)
  rw [Text.trimChars_between blank solid blankAfter]
  simp only [List.mem_cons, List.not_mem_nil, or_false] at marked
  rcases marked with rfl | rfl | rfl
  · exact dropHexMark_digits hexadecimal
  · rfl
  · rfl

theorem Spells.hexadecimal {chars : List Char} (spells : Spells chars digits) :
    digits ≠ [] ∧ ∀ c ∈ digits, isHexDigit c = true := by
  obtain ⟨_, _, nonempty, hexadecimal, _⟩ := spells
  exact ⟨nonempty, hexadecimal⟩

theorem Spells.unique {chars : List Char} (spells : Spells chars digits) (spellsOther : Spells chars others) :
    digits = others :=
  spells.dropHexMark_trimChars.symm.trans spellsOther.dropHexMark_trimChars

theorem spells_of_hexadecimal {chars : List Char} (nonempty : dropHexMark (Text.trimChars chars) ≠ [])
    (hexadecimal : ∀ c ∈ dropHexMark (Text.trimChars chars), isHexDigit c = true) :
    Spells chars (dropHexMark (Text.trimChars chars)) := by
  obtain ⟨before, after, blank, blankAfter, around⟩ := Text.exists_trimmed chars
  obtain ⟨mark, marked, same⟩ := exists_mark (Text.trimChars chars)
  have spells := Spells.mk blank marked nonempty hexadecimal blankAfter
  rwa [← same, ← around] at spells

theorem ofDigits?_eq_some_iff : ofDigits? digits = some address ↔
    digits ≠ [] ∧ (∀ c ∈ digits, isHexDigit c = true) ∧ address.digits = digits.map Char.toLower := by
  have lowered (hexadecimal : ∀ c ∈ digits, isHexDigit c = true) :
      digits.map lowerHexDigit = digits.map Char.toLower :=
    List.map_congr_left fun c member => lowerHexDigit_eq_toLower (hexadecimal c member)
  unfold ofDigits?
  split
  · next valid =>
    have hexadecimal := List.all_eq_true.mp valid.2
    rw [Option.some.injEq, ← lowered hexadecimal]
    constructor
    · rintro rfl
      exact ⟨valid.1, hexadecimal, rfl⟩
    · rintro ⟨-, -, same⟩
      obtain ⟨own, nonempty, lower⟩ := address
      cases same
      rfl
  · next invalid =>
    constructor
    · intro absent
      cases absent
    · rintro ⟨nonempty, hexadecimal, -⟩
      exact absurd ⟨nonempty, List.all_eq_true.mpr hexadecimal⟩ invalid

/-- An address is read from its spellings and from nothing else. -/
theorem parse_eq_ok_iff :
    parse text = .ok address ↔ ∃ digits, Spells text.toList digits ∧ address.digits = digits.map Char.toLower := by
  have cases : parse text = .ok address ↔ ofDigits? (dropHexMark (Text.trimChars text.toList)) = some address := by
    rw [parse]
    cases ofDigits? (dropHexMark (Text.trimChars text.toList)) with
    | none => simp
    | some found =>
      exact ⟨fun same => congrArg some (Except.ok.inj same), fun same => congrArg Except.ok (Option.some.inj same)⟩
  rw [cases, ofDigits?_eq_some_iff]
  constructor
  · rintro ⟨nonempty, hexadecimal, same⟩
    exact ⟨_, spells_of_hexadecimal nonempty hexadecimal, same⟩
  · rintro ⟨digits, spells, same⟩
    rw [spells.dropHexMark_trimChars]
    exact ⟨spells.hexadecimal.1, spells.hexadecimal.2, same⟩

theorem eq_of_digits_eq {address other : Address} (same : address.digits = other.digits) : address = other := by
  obtain ⟨digits, _, _⟩ := address
  cases same
  rfl

theorem text_injective {address other : Address} (same : address.text = other.text) : address = other := by
  rw [text, text, String.append_right_inj, String.ofList_inj] at same
  exact eq_of_digits_eq same

theorem exists_parse_of_spells (spells : Spells text.toList digits) : ∃ address, parse text = .ok address := by
  obtain ⟨nonempty, hexadecimal⟩ := spells.hexadecimal
  rw [parse, spells.dropHexMark_trimChars, ofDigits?, dif_pos ⟨nonempty, List.all_eq_true.mpr hexadecimal⟩]
  exact ⟨_, rfl⟩

/-- Both texts spell an address, with digits that agree up to case. -/
def Alike (text other : String) : Prop :=
  ∃ digits others, Spells text.toList digits ∧ Spells other.toList others ∧
    digits.map Char.toLower = others.map Char.toLower

/-- Two spellings give one address exactly if they are alike. -/
theorem eq_iff_alike {address otherAddress : Address} (parsed : parse text = .ok address)
    (parsedOther : parse other = .ok otherAddress) : address = otherAddress ↔ Alike text other := by
  obtain ⟨digits, spells, lower⟩ := parse_eq_ok_iff.mp parsed
  obtain ⟨others, spellsOther, lowerOther⟩ := parse_eq_ok_iff.mp parsedOther
  constructor
  · rintro rfl
    exact ⟨digits, others, spells, spellsOther, lower.symm.trans lowerOther⟩
  · rintro ⟨_, _, spellsAgain, spellsOtherAgain, same⟩
    rw [spellsAgain.unique spells, spellsOtherAgain.unique spellsOther] at same
    exact eq_of_digits_eq (lower.trans (same.trans lowerOther.symm))

/-- An address is read from its own JSON text, however deep the reading may go. -/
theorem decode_compact (address : Address) (reading : Json.Reading) :
    Json.decode (fun _ => read) reading address.toJson.compact = .ok address := by
  have exact : address.toJson.Exact := trivial
  rw [Json.decode_of_spells (Json.spells_compact exact).stops, read_toJson]

end Address

end Ledger

end LedgerCapture
