import LedgerCapture.Json.Decode
import LedgerCapture.Proofs.Json.Draft
import LedgerCapture.Proofs.Result
import Mathlib.Data.List.Forall2

/-!
Records as their fields make them. What no field can break while it is read holds of the whole record,
however its document is written.
-/
namespace LedgerCapture.Json

theorem exists_read_of_decode {α : Type} {read : Reading → Draft → Except DecodeError α} {reading : Reading}
    {text : String} {value : α} (decoded : decode read reading text = .ok value) :
    ∃ draft, read reading draft = .ok value := by
  unfold decode at decoded
  generalize Draft.ofText text = drafted at decoded
  obtain ⟨draft, more⟩ := drafted
  obtain ⟨found, readDraft, last⟩ := bind_eq_ok_iff.mp decoded
  cases more with
  | true => cases last
  | false =>
    cases last
    exact ⟨draft, readDraft⟩

theorem decode_of_spells {α : Type} {read : Reading → Draft → Except DecodeError α} {reading : Reading}
    {draft : Draft} {text : String} (spells : Spells Stops text.toList draft) :
    decode read reading text = read reading draft := by
  have whole := Draft.ofText_of_spells spells
  rw [String.ofList_toList] at whole
  rw [decode, whole]
  dsimp only
  cases read reading draft <;> rfl

theorem wellFormed_sound {α : Type} (value : α) : wellFormed (Scalar.sound value).read = .ok value :=
  rfl

namespace Draft

variable {reading inner : Reading} {name : String} {value stored : Json}

theorem readJsonItems_map {α : Type} {write store : α → Json}
    (each : ∀ value, readJson reading (.ofJson (write value)) = .ok (store value)) (values : List α) :
    readJsonItems reading (ofItems (values.map write)) = .ok (values.map store) := by
  induction values with
  | nil => rfl
  | cons value rest ih =>
    rw [List.map_cons, ofItems, readJsonItems, each, ok_bind, ih]
    rfl

theorem readJson_list {items values : List Json} (entered : reading.enter = .ok inner)
    (read : readJsonItems inner (ofItems items) = .ok values) :
    readJson reading (.ofJson (.list items)) = .ok (.list values) := by
  rw [ofJson, readJson, entered, ok_bind, read]
  rfl

theorem readJson_object {members values : List (String × Json)} (entered : reading.enter = .ok inner)
    (read : readJsonMembers inner (ofMembers members) = .ok values) :
    readJson reading (.ofJson (.object members)) = .ok (.ofMembers values) := by
  rw [ofJson, readJson, entered, ok_bind, read]
  rfl

theorem readJsonMembers_cons {rest values : List (String × Json)}
    (read : readJson reading (.ofJson value) = .ok stored)
    (readRest : readJsonMembers reading (ofMembers rest) = .ok values) :
    readJsonMembers reading (ofMembers ((name, value) :: rest)) = .ok ((name, stored) :: values) := by
  rw [ofMembers, readJsonMembers, wellFormed_sound, ok_bind, read, ok_bind, readRest]
  rfl

/-- An array is read item by item. -/
theorem readList_of_forall₂ {α : Type} {read : Reading → Draft → Except DecodeError α} {values : List α}
    {documents : List Json} (entered : reading.enter = .ok inner)
    (each : List.Forall₂ (fun value document => read inner (ofJson document) = .ok value) values documents) :
    readList read reading (ofJson (.list documents)) = .ok values := by
  have all : (ofItems documents).mapM (read inner) = .ok values := by
    induction each with
    | nil => rfl
    | cons first _ ih => rw [ofItems, List.mapM_cons, first, ok_bind, ih, ok_bind]; rfl
  rw [ofJson, readList, entered, ok_bind, all, ok_bind]
  rfl

end Draft

namespace Record

variable {σ : Type} {record : Record σ} {holds : σ → Prop} {reading : Reading} {state after : σ}

/-! ### One member after the other -/

theorem readMembers_field {field : Field σ} {name : String} {value : Draft} {rest : List (Scalar String × Draft)}
    (known : record.fields.find? (·.name == name) = some field) (new : field.filled state = false)
    (read : field.read reading value state = .ok after) :
    record.readMembers reading state ((.sound name, value) :: rest) = record.readMembers reading after rest := by
  rw [readMembers, wellFormed_sound, ok_bind, known]
  simp only [new, Bool.false_eq_true, if_false, read, ok_bind]

theorem read_object {inner : Reading} {empty : σ} {members : List (Scalar String × Draft)}
    (entered : reading.enter = .ok inner) (read : record.readMembers inner empty members = .ok state)
    (complete : checkComplete record.fields state = .ok state) :
    record.read empty reading (.object members .closed) = .ok state := by
  rw [Record.read, entered, ok_bind, read, ok_bind]
  exact complete

/-! ### What no field can break -/

/-- No field breaks what holds of the record so far. -/
def Keeps (holds : σ → Prop) (fields : List (Field σ)) : Prop :=
  ∀ field ∈ fields, ∀ reading draft state after,
    field.read reading draft state = .ok after → holds state → holds after

theorem Keeps.tail {field : Field σ} {fields : List (Field σ)} (keeps : Keeps holds (field :: fields)) :
    Keeps holds fields :=
  fun other member => keeps other (List.mem_cons_of_mem field member)

theorem readMembers_keeps (keeps : Keeps holds record.fields) {members : List (Scalar String × Draft)}
    (read : record.readMembers reading state members = .ok after) (before : holds state) : holds after := by
  induction members generalizing state with
  | nil =>
    cases read
    exact before
  | cons member rest ih =>
    obtain ⟨key, value⟩ := member
    rw [readMembers] at read
    obtain ⟨name, -, read⟩ := bind_eq_ok_iff.mp read
    cases known : record.fields.find? (·.name == name) with
    | none =>
      rw [known] at read
      obtain ⟨-, -, read⟩ := bind_eq_ok_iff.mp read
      exact ih read before
    | some field =>
      rw [known] at read
      dsimp only at read
      split at read
      · cases read
      obtain ⟨next, readField, read⟩ := bind_eq_ok_iff.mp read
      exact ih read (keeps field (List.mem_of_find?_eq_some known) _ _ _ _ readField before)

theorem readItems_keeps {ending : Ending} {total count : Nat} {fields : List (Field σ)} {items : List Draft}
    (keeps : Keeps holds fields)
    (read : record.readItems reading ending total count state fields items = .ok after)
    (before : holds state) : holds after := by
  induction fields generalizing count state items with
  | nil =>
    cases items with
    | nil =>
      rw [readItems] at read
      obtain ⟨-, -, read⟩ := bind_eq_ok_iff.mp read
      cases read
      exact before
    | cons item items =>
      rw [readItems] at read
      split at read <;> cases read
  | cons field fields ih =>
    cases items with
    | nil =>
      rw [readItems] at read
      obtain ⟨-, -, read⟩ := bind_eq_ok_iff.mp read
      split at read
      · exact ih keeps.tail read before
      · cases read
    | cons item items =>
      rw [readItems] at read
      obtain ⟨next, readField, read⟩ := bind_eq_ok_iff.mp read
      exact ih keeps.tail read (keeps field (List.mem_cons_self ..) _ _ _ _ readField before)

theorem read_keeps {empty : σ} {draft : Draft} (keeps : Keeps holds record.fields)
    (read : record.read empty reading draft = .ok after) (before : holds empty) : holds after := by
  unfold Record.read at read
  split at read
  · obtain ⟨inner, -, read⟩ := bind_eq_ok_iff.mp read
    obtain ⟨state, readMembers, read⟩ := bind_eq_ok_iff.mp read
    obtain ⟨-, -, complete⟩ := bind_eq_ok_iff.mp read
    unfold checkComplete at complete
    split at complete
    · cases complete
      exact readMembers_keeps keeps readMembers before
    · cases complete
  · obtain ⟨inner, -, read⟩ := bind_eq_ok_iff.mp read
    exact readItems_keeps keeps read before
  · cases read

end Record

end LedgerCapture.Json
