import LedgerCapture.Gateway.Pattern

/-!
The search for a marker. What the search returns is the text behind the first place where the marker
occurs, wherever else it occurs later.
-/
namespace LedgerCapture

theorem Pattern.dropStart?_eq_some_iff {start text rest : List Char} :
    dropStart? start text = some rest ↔ text = start ++ rest := by
  induction start generalizing text with
  | nil => rw [dropStart?, Option.some.injEq, List.nil_append]
  | cons c start ih =>
    cases text with
    | nil => simp [dropStart?]
    | cons d text =>
      rw [dropStart?]
      split
      case isTrue same => rw [ih, same, List.cons_append, List.cons.injEq, eq_self, true_and]
      case isFalse other => simp [Ne.symm other]

def OccursAt (marker text : List Char) (place : Nat) : Prop :=
  marker <+: text.drop place

theorem occursAt_zero_append (marker rest : List Char) : OccursAt marker (marker ++ rest) 0 :=
  List.prefix_append marker rest

theorem not_occursAt_zero {marker text : List Char} (absent : Pattern.dropStart? marker text = none) :
    ¬ OccursAt marker text 0 := by
  rintro ⟨rest, same⟩
  have found := Pattern.dropStart?_eq_some_iff.mpr (show text = marker ++ rest from same.symm)
  rw [found] at absent
  cases absent

/-- The search finds the first place of the marker, and nothing else. -/
theorem behindMarker?_eq_some_iff {marker text rest : List Char} :
    behindMarker? marker text = some rest ↔
      ∃ lead, text = lead ++ (marker ++ rest) ∧ ∀ place < lead.length, ¬ OccursAt marker text place := by
  induction text with
  | nil =>
    rw [behindMarker?, Pattern.dropStart?_eq_some_iff]
    constructor
    · exact fun same => ⟨[], same, fun place before => absurd before (Nat.not_lt_zero place)⟩
    · rintro ⟨lead, same, -⟩
      exact (List.append_eq_nil_iff.mp same.symm).2.symm
  | cons c text ih =>
    rw [behindMarker?]
    split
    case h_1 behind here =>
      rw [Pattern.dropStart?_eq_some_iff] at here
      rw [Option.some.injEq]
      constructor
      · rintro rfl
        exact ⟨[], here, fun place before => absurd before (Nat.not_lt_zero place)⟩
      · rintro ⟨lead, same, first⟩
        cases lead with
        | nil => exact List.append_cancel_left (here.symm.trans same)
        | cons d lead =>
          rw [here] at first
          exact absurd (occursAt_zero_append marker behind) (first 0 (Nat.succ_pos _))
    case h_2 absent =>
      -- What the search finds in the rest it finds in the whole, one place later.
      have missed := not_occursAt_zero absent
      rw [ih]
      constructor
      · rintro ⟨lead, rfl, first⟩
        refine ⟨c :: lead, rfl, fun place before => ?_⟩
        cases place with
        | zero => exact missed
        | succ place => exact first place (Nat.lt_of_succ_lt_succ before)
      · rintro ⟨lead, same, first⟩
        cases lead with
        | nil =>
          rw [same] at missed
          exact absurd (occursAt_zero_append marker rest) missed
        | cons d lead =>
          exact ⟨lead, (List.cons.inj same).2, fun place before => first (place + 1) (Nat.succ_lt_succ before)⟩

end LedgerCapture
