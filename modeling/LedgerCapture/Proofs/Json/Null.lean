import LedgerCapture.Json.Decode
import LedgerCapture.Proofs.Json.Draft
import LedgerCapture.Proofs.Result

/-!
The document null. Blanks around it apart it has one spelling, and no other text is read as null.
-/
namespace LedgerCapture.Json

open Grammar

def Grammar.IsNull (text : List Char) : Prop :=
  ∃ before after, IsGap before ∧ IsGap after ∧ text = before ++ (['n', 'u', 'l', 'l'] ++ after)

section

variable {text gap : List Char} {value other : Draft}

theorem Spells.unique (spells : Spells Stops text value) (spellsOther : Spells Stops text other) :
    value = other := by
  have same := (Draft.ofText_of_spells spells).symm.trans (Draft.ofText_of_spells spellsOther)
  exact (Prod.mk.inj same).1

theorem spells_null : Spells Stops ['n', 'u', 'l', 'l'] (.literal .null) :=
  ⟨_, Cuts.literalNull.weaken, Draft.builds_literal _⟩

theorem spells_of_isNull (isNull : IsNull text) : Spells Stops text (.literal .null) := by
  obtain ⟨before, after, isGap, isGapAfter, rfl⟩ := isNull
  exact (spells_null.append_gap isGapAfter).gap_append isGap

/-- A value that is not written as null has a draft of another kind. -/
theorem exists_spells_ne_null (isValue : IsValue text) (other : text ≠ ['n', 'u', 'l', 'l']) :
    ∃ value, Spells Stops text value ∧ value ≠ .literal .null := by
  cases isValue with
  | null => exact absurd rfl other
  | true => exact ⟨_, ⟨_, Cuts.literalTrue.weaken, Draft.builds_literal _⟩, nofun⟩
  | false => exact ⟨_, ⟨_, Cuts.literalFalse.weaken, Draft.builds_literal _⟩, nofun⟩
  | number isNumber =>
    obtain ⟨value, passes, scanned⟩ := scanNumber_eq isNumber
    exact ⟨_, .number passes (.number (exists_start_of_isNumber isNumber) scanned), nofun⟩
  | string isString =>
    obtain ⟨value, passes, cuts⟩ := exists_cuts_of_isString isString
    exact ⟨_, (Spells.string passes cuts).weaken, nofun⟩
  | emptyList isGap => exact ⟨_, (Spells.emptyList isGap).weaken, nofun⟩
  | list areItems =>
    obtain ⟨items, spells⟩ := exists_spellsItems areItems
    exact ⟨_, spells.list.weaken, nofun⟩
  | emptyObject isGap => exact ⟨_, (Spells.emptyObject isGap).weaken, nofun⟩
  | object areMembers =>
    obtain ⟨members, spells⟩ := exists_spellsMembers areMembers
    exact ⟨_, spells.object.weaken, nofun⟩

theorem spells_null_iff (isElement : IsElement text) : Spells Stops text (.literal .null) ↔ IsNull text := by
  refine ⟨fun spells => ?_, spells_of_isNull⟩
  cases isElement with
  | @mk before value after isGap isValue isGapAfter =>
    by_cases same : value = ['n', 'u', 'l', 'l']
    · subst same
      exact ⟨before, after, isGap, isGapAfter, rfl⟩
    · obtain ⟨draft, spellsValue, different⟩ := exists_spells_ne_null isValue same
      exact absurd (((spellsValue.append_gap isGapAfter).gap_append isGap).unique spells) different

end

/-- Only the draft of null is read as null, and all readings agree on it. -/
theorem Draft.readJson_eq_null_iff {reading : Reading} {draft : Draft} :
    readJson reading draft = .ok .null ↔ draft = .literal .null := by
  refine ⟨fun same => ?_, fun same => by rw [same, readJson]⟩
  cases draft with
  | missing fault => rw [readJson] at same; cases same
  | literal value =>
    cases value with
    | null => rfl
    | boolean value => rw [readJson] at same; cases same
  | number value =>
    rw [readJson] at same
    cases read : wellFormed value.read <;> rw [read] at same <;> cases same
  | string value =>
    rw [readJson] at same
    cases read : wellFormed value.read <;> rw [read] at same <;> cases same
  | list items ending =>
    rw [readJson] at same
    obtain ⟨inner, -, rest⟩ := bind_eq_ok_iff.mp same
    obtain ⟨values, -, rest⟩ := bind_eq_ok_iff.mp rest
    obtain ⟨_, -, last⟩ := bind_eq_ok_iff.mp rest
    cases last
  | object members ending =>
    rw [readJson] at same
    obtain ⟨inner, -, rest⟩ := bind_eq_ok_iff.mp same
    obtain ⟨values, -, rest⟩ := bind_eq_ok_iff.mp rest
    obtain ⟨_, -, last⟩ := bind_eq_ok_iff.mp rest
    cases last

end LedgerCapture.Json
