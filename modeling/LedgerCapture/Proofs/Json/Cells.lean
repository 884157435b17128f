import LedgerCapture.Proofs.Json.Members
import Mathlib.Data.List.Nodup

/-!
Records whose fields have nothing to do with each other. Such a record is read from an object just if every field
can be read from the one member of its name, and from an array just if every field can be read from the item in its
place.
-/
namespace LedgerCapture.Json

/-! ### What is passed over -/

namespace Draft

mutual

theorem ofJson_passes (document : Json) : (ofJson document).Passes := by
  match document with
  | .null | .boolean _ | .number _ | .string _ => rfl
  | .list items => exact passes_list_iff.mpr (ofItems_passes items)
  | .object members => exact passes_object_iff.mpr (ofMembers_passes members)

theorem ofItems_passes (items : List Json) : ∀ item ∈ ofItems items, item.Passes := by
  match items with
  | [] => exact nofun
  | item :: rest => exact List.forall_mem_cons.mpr ⟨ofJson_passes item, ofItems_passes rest⟩

theorem ofMembers_passes (members : List (String × Json)) : ∀ member ∈ ofMembers members, PassesMember member := by
  match members with
  | [] => exact nofun
  | (name, value) :: rest => exact List.forall_mem_cons.mpr ⟨⟨rfl, ofJson_passes value⟩, ofMembers_passes rest⟩

end

end Draft

/-! ### Values by their names -/

def valuesOf (name : String) (members : List (String × Json)) : List Json :=
  (members.filter (·.1 == name)).map Prod.snd

section

variable {name other : String} {value : Json} {members : List (String × Json)}

theorem valuesOf_cons_self : valuesOf name ((name, value) :: members) = value :: valuesOf name members := by
  simp [valuesOf]

theorem valuesOf_cons_of_ne (different : other ≠ name) :
    valuesOf name ((other, value) :: members) = valuesOf name members := by
  simp [valuesOf, different]

/-- What a field holds after the values of its name: the first one, unless it has been read before. -/
inductive Fills {α : Type} (read : Json → Except DecodeError α) : Option α → List Json → Option α → Prop where
  | kept (before : Option α) : Fills read before [] before
  | filled {value : Json} {found : α} (reads : read value = .ok found) : Fills read none [value] (some found)

variable {α : Type} {read : Json → Except DecodeError α} {before after : Option α} {values : List Json}

theorem fills_nil_iff : Fills read before [] after ↔ before = after := by
  constructor
  · rintro ⟨⟩
    rfl
  · rintro rfl
    exact .kept before

theorem fills_cons_iff : Fills read before (value :: values) after ↔
    before = none ∧ ∃ found, read value = .ok found ∧ Fills read (some found) values after := by
  constructor
  · intro fills
    cases fills with
    | filled reads => exact ⟨rfl, _, reads, .kept _⟩
  · rintro ⟨rfl, found, reads, fills⟩
    cases fills with
    | kept => exact .filled reads

/-- A field that was empty is full at the end just if there is one value for it, and it can be read. -/
theorem fills_some_iff {found : α} : Fills read none values (some found) ↔
    ∃ value, values = [value] ∧ read value = .ok found := by
  constructor
  · intro fills
    cases fills with
    | filled reads => exact ⟨_, rfl, reads⟩
  · rintro ⟨value, rfl, reads⟩
    exact .filled reads

end

/-! ### Records of cells -/

/-- A part of a record that is being read: where it stands and how its value is read from a document. -/
structure Cell (σ : Type) where
  α : Type
  name : String
  view : σ → Option α
  put : α → σ → σ
  read : Json → Except DecodeError α

variable {σ : Type}

structure Cell.Fits (reading : Reading) (cell : Cell σ) (field : Field σ) : Prop where
  name : field.name = cell.name
  required : field.optional = false
  filled : ∀ state, field.filled state = (cell.view state).isSome
  read : ∀ document state,
    field.read reading (.ofJson document) state = (cell.read document).map (cell.put · state)

def Cell.Holds (cell : Cell σ) (state : σ) (document : Json) : Prop :=
  ∃ found, cell.read document = .ok found ∧ cell.view state = some found

/-- The record consists of these cells, and none of them has to do with another. -/
structure Record.Consists (reading : Reading) (record : Record σ) (cells : List (Cell σ)) : Prop where
  fields : List.Forall₂ (Cell.Fits reading) cells record.fields
  distinct : (cells.map Cell.name).Nodup
  view_put : ∀ cell ∈ cells, ∀ value state, cell.view (cell.put value state) = some value
  apart : ∀ cell ∈ cells, ∀ other ∈ cells, other.name ≠ cell.name →
    ∀ value state, other.view (cell.put value state) = other.view state
  ext : ∀ state other, (∀ cell ∈ cells, cell.view state = cell.view other) → state = other

/-- The document describes the record: as an object with one member for each of the cells, or as an array of them. -/
inductive Describes (cells : List (Cell σ)) (state : σ) : Json → Prop where
  | object {members : List (String × Json)}
      (each : ∀ cell ∈ cells, ∃ value, valuesOf cell.name members = [value] ∧ cell.Holds state value) :
      Describes cells state (.object members)
  | list {items : List Json} (each : List.Forall₂ (fun cell item => cell.Holds state item) cells items) :
      Describes cells state (.list items)

section

variable {reading : Reading} {cells : List (Cell σ)} {fields : List (Field σ)} {name : String}

theorem find_of_cell {cell : Cell σ} (fits : List.Forall₂ (Cell.Fits reading) cells fields)
    (distinct : (cells.map Cell.name).Nodup) (member : cell ∈ cells) :
    ∃ field, fields.find? (·.name == cell.name) = some field ∧ cell.Fits reading field := by
  induction fits with
  | nil => cases member
  | @cons first field cells fields fits _ ih =>
    obtain ⟨new, distinct⟩ := List.nodup_cons.mp distinct
    rcases List.mem_cons.mp member with rfl | later
    · exact ⟨field, List.find?_cons_of_pos (by simp [fits.name]), fits⟩
    · have different : first.name ≠ cell.name := fun same => new (same ▸ List.mem_map_of_mem later)
      rw [List.find?_cons_of_neg (by simpa [fits.name] using different)]
      exact ih distinct later

theorem find_of_no_cell (fits : List.Forall₂ (Cell.Fits reading) cells fields)
    (absent : ∀ cell ∈ cells, cell.name ≠ name) : fields.find? (·.name == name) = none := by
  induction fits with
  | nil => rfl
  | @cons first field cells fields fits _ ih =>
    obtain ⟨different, absent⟩ := List.forall_mem_cons.mp absent
    rw [List.find?_cons_of_neg (by simpa [fits.name] using different)]
    exact ih absent

end

namespace Record.Consists

variable {reading outer : Reading} {record : Record σ} {cells : List (Cell σ)} {cell : Cell σ} {state after empty : σ}

/-- What holds of every cell holds of the one and of those with other names. -/
theorem forall_iff (consists : record.Consists reading cells) (member : cell ∈ cells) {holds : Cell σ → Prop} :
    (∀ other ∈ cells, holds other) ↔ holds cell ∧ ∀ other ∈ cells, other.name ≠ cell.name → holds other := by
  constructor
  · exact fun each => ⟨each cell member, fun other listed _ => each other listed⟩
  · rintro ⟨own, others⟩ other listed
    by_cases same : other.name = cell.name
    · obtain rfl := List.inj_on_of_nodup_map consists.distinct listed member same
      exact own
    · exact others other listed same

/-- The cells after one of them has been filled. -/
theorem forall_put_iff (consists : record.Consists reading cells) (member : cell ∈ cells) {value : cell.α}
    (holds : (cell : Cell σ) → Option cell.α → Prop) :
    (∀ other ∈ cells, holds other (other.view (cell.put value state))) ↔
      holds cell (some value) ∧ ∀ other ∈ cells, other.name ≠ cell.name → holds other (other.view state) := by
  rw [consists.forall_iff member, consists.view_put cell member]
  refine and_congr_right' (forall₃_congr fun other listed different => ?_)
  rw [consists.apart cell member other listed different]

/-! ### Objects -/

section

variable {value : Json} {rest : List (Scalar String × Draft)}

/-- A member for a cell that is empty is read into it. -/
theorem readMembers_cons_of_cell (consists : record.Consists reading cells) (member : cell ∈ cells)
    (unread : cell.view state = none) :
    record.readMembers reading state ((.sound cell.name, .ofJson value) :: rest) =
      cell.read value >>= fun found => record.readMembers reading (cell.put found state) rest := by
  obtain ⟨field, known, fits⟩ := find_of_cell consists.fields consists.distinct member
  have new : field.filled state = false := by rw [fits.filled, unread]; rfl
  rw [readMembers_cons_of_field rfl known new, fits.read]
  cases cell.read value <;> rfl

theorem readMembers_cons_eq_ok_iff (consists : record.Consists reading cells) (member : cell ∈ cells) :
    record.readMembers reading state ((.sound cell.name, .ofJson value) :: rest) = .ok after ↔
      cell.view state = none ∧ ∃ found, cell.read value = .ok found ∧
        record.readMembers reading (cell.put found state) rest = .ok after := by
  cases empty : cell.view state with
  | some old =>
    obtain ⟨field, known, fits⟩ := find_of_cell consists.fields consists.distinct member
    have full : field.filled state = true := by rw [fits.filled, empty]; rfl
    rw [Record.readMembers, wellFormed_sound, ok_bind, known]
    simp only [full, if_true, throw_bind]
    constructor
    · intro read
      cases read
    · rintro ⟨⟨⟩, -⟩
  | none =>
    rw [consists.readMembers_cons_of_cell member empty, bind_eq_ok_iff]
    exact (and_iff_right rfl).symm

end

/-- Reading members comes down to the cells: each goes by the values of its name alone. -/
theorem readMembers_eq_ok_iff (consists : record.Consists reading cells) {members : List (String × Json)} :
    record.readMembers reading state (Draft.ofMembers members) = .ok after ↔
      ∀ cell ∈ cells, Fills cell.read (cell.view state) (valuesOf cell.name members) (cell.view after) := by
  induction members generalizing state with
  | nil =>
    have none : ∀ cell : Cell σ, Fills cell.read (cell.view state) (valuesOf cell.name []) (cell.view after) ↔
        cell.view state = cell.view after := fun cell => fills_nil_iff
    simp only [none]
    exact ⟨fun read cell _ => by cases read; rfl, fun same => congrArg _ (consists.ext _ _ same)⟩
  | cons member rest ih =>
    obtain ⟨name, value⟩ := member
    rw [Draft.ofMembers]
    by_cases known : ∃ cell ∈ cells, cell.name = name
    · obtain ⟨cell, member, rfl⟩ := known
      have others : (∀ other ∈ cells, other.name ≠ cell.name → Fills other.read (other.view state)
            (valuesOf other.name ((cell.name, value) :: rest)) (other.view after)) ↔
          ∀ other ∈ cells, other.name ≠ cell.name →
            Fills other.read (other.view state) (valuesOf other.name rest) (other.view after) :=
        forall₃_congr fun other _ different => by rw [valuesOf_cons_of_ne different.symm]
      rw [consists.readMembers_cons_eq_ok_iff member, consists.forall_iff member, others, valuesOf_cons_self,
        fills_cons_iff, and_assoc, ← exists_and_right]
      refine and_congr_right' (exists_congr fun found => ?_)
      rw [and_assoc]
      refine and_congr_right' ?_
      rw [ih, consists.forall_put_iff member
        fun other view => Fills other.read view (valuesOf other.name rest) (other.view after)]
    · have absent : ∀ cell ∈ cells, cell.name ≠ name := fun cell member same => known ⟨cell, member, same⟩
      rw [readMembers_cons_of_other rfl (find_of_no_cell consists.fields absent) (Draft.ofJson_passes value), ih]
      exact forall₂_congr fun cell member => by rw [valuesOf_cons_of_ne (absent cell member).symm]

/-- All cells are full just if the record is complete. -/
theorem checkComplete_eq_ok_iff (consists : record.Consists reading cells) :
    checkComplete record.fields state = .ok after ↔ state = after ∧ ∀ cell ∈ cells, (cell.view state).isSome := by
  have complete : record.fields.find? (fun field => !field.optional && !field.filled state) = none ↔
      ∀ cell ∈ cells, (cell.view state).isSome := by
    have fits := consists.fields
    generalize record.fields = fields at fits
    clear consists
    induction fits with
    | nil => exact ⟨fun _ => nofun, fun _ => rfl⟩
    | @cons cell field cells fields fits _ ih =>
      rw [List.forall_mem_cons, List.find?_cons, fits.required, fits.filled]
      cases (cell.view state).isSome with
      | false => simp
      | true => simpa using ih
  rw [← complete, checkComplete]
  cases record.fields.find? fun field => !field.optional && !field.filled state <;> simp

/-! ### Arrays -/

/-- Reading the items for some of the cells fills these and leaves the others as they are. -/
theorem readItems_eq_ok_iff (consists : record.Consists reading cells) {rest : List (Cell σ)} {fields : List (Field σ)}
    {items : List Json} {total count : Nat} (fits : List.Forall₂ (Cell.Fits reading) rest fields)
    (among : ∀ cell ∈ rest, cell ∈ cells) (distinct : (rest.map Cell.name).Nodup) :
    record.readItems reading .closed total count state fields (Draft.ofItems items) = .ok after ↔
      List.Forall₂ (fun cell item => cell.Holds after item) rest items ∧
        ∀ cell ∈ cells, cell.name ∉ rest.map Cell.name → cell.view after = cell.view state := by
  induction fits generalizing state items count with
  | nil =>
    cases items with
    | nil =>
      rw [Draft.ofItems, readItems, unit_bind_eq_ok_iff]
      constructor
      · rintro ⟨-, ⟨⟩⟩
        exact ⟨.nil, fun _ _ _ => rfl⟩
      · rintro ⟨-, same⟩
        exact ⟨rfl, congrArg _ (consists.ext _ _ fun cell member => (same cell member List.not_mem_nil).symm)⟩
    | cons item items =>
      rw [Draft.ofItems, readItems]
      constructor
      · intro read
        split at read <;> cases read
      · rintro ⟨⟨⟩, -⟩
  | @cons cell field rest fields fits _ ih =>
    obtain ⟨member, among⟩ := List.forall_mem_cons.mp among
    obtain ⟨new, distinct⟩ := List.nodup_cons.mp distinct
    cases items with
    | nil =>
      rw [Draft.ofItems, readItems, unit_bind_eq_ok_iff, fits.required]
      constructor
      · rintro ⟨-, ⟨⟩⟩
      · rintro ⟨⟨⟩, -⟩
    | cons item items =>
      have others : (∀ other ∈ cells, other.name ∉ (cell :: rest).map Cell.name → other.view after = other.view state) ↔
          ∀ other ∈ cells, other.name ≠ cell.name →
            other.name ∉ rest.map Cell.name → other.view after = other.view state :=
        forall₂_congr fun other _ => by rw [List.map_cons, List.mem_cons, not_or, and_imp]
      have put : ∀ found, record.readItems reading .closed total (count + 1) (cell.put found state) fields
            (Draft.ofItems items) = .ok after ↔
          cell.view after = some found ∧ List.Forall₂ (fun cell item => cell.Holds after item) rest items ∧
            ∀ other ∈ cells, other.name ≠ cell.name →
              other.name ∉ rest.map Cell.name → other.view after = other.view state := by
        intro found
        rw [ih among distinct, consists.forall_put_iff member
          fun other view => other.name ∉ rest.map Cell.name → other.view after = view, forall_prop_of_true new,
          and_left_comm]
      rw [Draft.ofItems, readItems, fits.read, List.forall₂_cons, others, Cell.Holds, and_assoc]
      cases cell.read item with
      | error fault =>
        constructor
        · intro read
          cases read
        · rintro ⟨⟨_, ⟨⟩, -⟩, -⟩
      | ok found =>
        refine (put found).trans (and_congr_left' ?_)
        constructor
        · exact fun view => ⟨found, rfl, view⟩
        · rintro ⟨_, ⟨⟩, view⟩
          exact view

/-- A record is read from the documents that describe it, and from no others. -/
theorem read_eq_ok_iff (consists : record.Consists reading cells) (entered : outer.enter = .ok reading)
    (blank : ∀ cell ∈ cells, cell.view empty = none) {document : Json} :
    record.read empty outer (.ofJson document) = .ok after ↔ Describes cells after document := by
  cases document with
  | null | boolean _ | number _ | string _ =>
    constructor
    · intro read
      cases read
    · rintro ⟨⟩
  | object members =>
    rw [Draft.ofJson, Record.read, entered, ok_bind, bind_eq_ok_iff]
    constructor
    · rintro ⟨state, readMembers, read⟩
      obtain ⟨-, complete⟩ := unit_bind_eq_ok_iff.mp read
      obtain ⟨rfl, full⟩ := consists.checkComplete_eq_ok_iff.mp complete
      refine .object fun cell member => ?_
      obtain ⟨found, view⟩ := Option.isSome_iff_exists.mp (full cell member)
      have fills := consists.readMembers_eq_ok_iff.mp readMembers cell member
      rw [blank cell member, view] at fills
      obtain ⟨value, only, reads⟩ := fills_some_iff.mp fills
      exact ⟨value, only, found, reads, view⟩
    · rintro ⟨each⟩
      refine ⟨after, consists.readMembers_eq_ok_iff.mpr fun cell member => ?_, unit_bind_eq_ok_iff.mpr ⟨rfl, ?_⟩⟩
      · obtain ⟨value, only, found, reads, view⟩ := each cell member
        rw [blank cell member, view]
        exact fills_some_iff.mpr ⟨value, only, reads⟩
      · refine consists.checkComplete_eq_ok_iff.mpr ⟨rfl, fun cell member => ?_⟩
        obtain ⟨-, -, found, -, view⟩ := each cell member
        rw [view]
        rfl
  | list items =>
    rw [Draft.ofJson, Record.read, entered, ok_bind,
      consists.readItems_eq_ok_iff consists.fields (fun _ => id) consists.distinct]
    constructor
    · rintro ⟨each, -⟩
      exact .list each
    · rintro (_ | each)
      exact ⟨each, fun cell member other => absurd (List.mem_map_of_mem member) other⟩

end Record.Consists

theorem required_eq_ok_iff {α : Type} {name : String} {stored : Option α} {value : α} :
    required name stored = .ok value ↔ stored = some value := by
  cases stored with
  | none => exact ⟨nofun, nofun⟩
  | some other => exact ⟨fun same => congrArg _ (Except.ok.inj same), fun same => congrArg _ (Option.some.inj same)⟩

end LedgerCapture.Json
