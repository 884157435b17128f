import LedgerCapture.Proofs.Json.Cells

/-!
One field of a record exchanged for another document. The record that is read differs in this field alone, and if the
field cannot be read any more its fault is that of the record.
-/
namespace LedgerCapture.Json

/-- The document with another value for the field of this name, which stands in this place of an array. -/
def exchange (name : String) (place : Nat) (written : Json) : Json → Json
  | .object members => .object (members.map fun member => if member.1 = name then (name, written) else member)
  | .list items => .list (items.set place written)
  | other => other

section

variable {name other : String} {written : Json} {members : List (String × Json)}

theorem valuesOf_exchanged : valuesOf name
    (members.map fun member => if member.1 = name then (name, written) else member) =
      (valuesOf name members).map fun _ => written := by
  induction members with
  | nil => rfl
  | cons member rest ih =>
    obtain ⟨found, value⟩ := member
    rw [List.map_cons]
    by_cases same : found = name
    · subst same
      rw [if_pos rfl, valuesOf_cons_self, valuesOf_cons_self, ih, List.map_cons]
    · rw [if_neg same, valuesOf_cons_of_ne same, valuesOf_cons_of_ne same, ih]

theorem valuesOf_exchanged_of_ne (different : other ≠ name) : valuesOf other
    (members.map fun member => if member.1 = name then (name, written) else member) = valuesOf other members := by
  induction members with
  | nil => rfl
  | cons member rest ih =>
    obtain ⟨found, value⟩ := member
    rw [List.map_cons]
    by_cases same : found = name
    · subst same
      rw [if_pos rfl, valuesOf_cons_of_ne different.symm, valuesOf_cons_of_ne different.symm, ih]
    · rw [if_neg same]
      by_cases own : found = other
      · subst own
        rw [valuesOf_cons_self, valuesOf_cons_self, ih]
      · rw [valuesOf_cons_of_ne own, valuesOf_cons_of_ne own, ih]

end

namespace Record.Consists

variable {σ : Type} {reading outer : Reading} {record : Record σ} {cells : List (Cell σ)} {cell : Cell σ}
  {state empty : σ} {place : Nat} {written document : Json}

theorem name_ne_of_place_ne (consists : record.Consists reading cells) {other : Cell σ} {there : Nat}
    (found : cells[place]? = some cell) (foundOther : cells[there]? = some other) (apart : there ≠ place) :
    other.name ≠ cell.name := by
  intro same
  have names : (cells.map Cell.name)[there]? = (cells.map Cell.name)[place]? := by
    rw [List.getElem?_map, List.getElem?_map, found, foundOther, Option.map_some, Option.map_some, same]
  obtain ⟨within, -⟩ := List.getElem?_eq_some_iff.mp foundOther
  exact apart ((List.getElem?_inj (by rwa [List.length_map]) consists.distinct).mp names)

/-- What the other cells hold is not concerned by what is put into one. -/
theorem holds_put_of_ne (consists : record.Consists reading cells) (member : cell ∈ cells) {other : Cell σ}
    (listed : other ∈ cells) (different : other.name ≠ cell.name) {found : cell.α} {value : Json}
    (holds : other.Holds state value) : other.Holds (cell.put found state) value := by
  obtain ⟨stored, reads, view⟩ := holds
  refine ⟨stored, reads, ?_⟩
  rw [consists.apart cell member other listed different, view]

/-- The record with another value in the field is described by the document with another value there. -/
theorem describes_exchange (consists : record.Consists reading cells) (there : cells[place]? = some cell)
    {found : cell.α} (reads : cell.read written = .ok found) (describes : Describes cells state document) :
    Describes cells (cell.put found state) (exchange cell.name place written document) := by
  have member := List.mem_of_getElem? there
  have own : cell.Holds (cell.put found state) written := ⟨found, reads, consists.view_put cell member found state⟩
  obtain each | each := describes
  · refine .object ((consists.forall_iff member).mpr ⟨?_, fun other listed different => ?_⟩)
    · obtain ⟨value, only, -⟩ := each cell member
      exact ⟨written, by rw [valuesOf_exchanged, only]; rfl, own⟩
    · obtain ⟨value, only, holds⟩ := each other listed
      rw [valuesOf_exchanged_of_ne different]
      exact ⟨value, only, consists.holds_put_of_ne member listed different holds⟩
  · refine .list (List.forall₂_iff_get.mpr ?_)
    obtain ⟨lengths, each⟩ := List.forall₂_iff_get.mp each
    refine ⟨by rw [List.length_set, lengths], fun index within inside => ?_⟩
    simp only [List.get_eq_getElem, List.getElem_set]
    rw [List.length_set] at inside
    obtain ⟨bound, same⟩ := List.getElem?_eq_some_iff.mp there
    split
    · next here =>
      subst here
      rwa [same]
    · next elsewhere =>
      have different := consists.name_ne_of_place_ne there (List.getElem?_eq_getElem within) (Ne.symm elsewhere)
      exact consists.holds_put_of_ne member (List.getElem_mem within) different (each index within inside)

/-! ### Faults -/

variable {fault : DecodeError} {after : σ}

/-- The fault of one cell is that of the members, wherever its member stands, if the other members can be read. -/
theorem readMembers_eq_error (consists : record.Consists reading cells) (member : cell ∈ cells) {value : Json}
    (fails : cell.read value = .error fault) {members : List (String × Json)} (unread : cell.view state = none)
    (only : valuesOf cell.name members = [value])
    (others : ∀ other ∈ cells, other.name ≠ cell.name →
      ∃ view, Fills other.read (other.view state) (valuesOf other.name members) view) :
    record.readMembers reading state (Draft.ofMembers members) = .error fault := by
  induction members generalizing state with
  | nil => cases only
  | cons head rest ih =>
    obtain ⟨name, first⟩ := head
    rw [Draft.ofMembers]
    by_cases own : cell.name = name
    · subst own
      rw [valuesOf_cons_self] at only
      obtain ⟨rfl, -⟩ := List.cons.inj only
      rw [consists.readMembers_cons_of_cell member unread, fails]
      rfl
    rw [valuesOf_cons_of_ne (Ne.symm own)] at only
    by_cases known : ∃ other ∈ cells, other.name = name
    · obtain ⟨other, listed, rfl⟩ := known
      obtain ⟨view, fills⟩ := others other listed (Ne.symm own)
      rw [valuesOf_cons_self] at fills
      obtain ⟨empty, found, reads, fills⟩ := fills_cons_iff.mp fills
      rw [consists.readMembers_cons_of_cell listed empty, reads]
      refine ih ?_ only fun third present different => ?_
      · rw [consists.apart other listed cell member own, unread]
      · by_cases same : third.name = other.name
        · obtain rfl := List.inj_on_of_nodup_map consists.distinct present listed same
          rw [consists.view_put third listed]
          exact ⟨view, fills⟩
        · rw [consists.apart other listed third present same]
          obtain ⟨view, fills⟩ := others third present different
          rw [valuesOf_cons_of_ne (Ne.symm same)] at fills
          exact ⟨view, fills⟩
    · have absent : ∀ other ∈ cells, other.name ≠ name := fun other listed same => known ⟨other, listed, same⟩
      rw [readMembers_cons_of_other rfl (find_of_no_cell consists.fields absent) (Draft.ofJson_passes first)]
      refine ih unread only fun other listed different => ?_
      obtain ⟨view, fills⟩ := others other listed different
      rw [valuesOf_cons_of_ne (absent other listed).symm] at fills
      exact ⟨view, fills⟩

/-- Of the items in an array the first that cannot be read at its field decides. -/
theorem readItems_eq_error {rest : List (Cell σ)} {fields : List (Field σ)} {items : List Json} {total count : Nat}
    {item : Json} (fits : List.Forall₂ (Cell.Fits reading) rest fields) (there : rest[place]? = some cell)
    (stands : items[place]? = some item) (fails : cell.read item = .error fault)
    (earlier : ∀ earlier < place, ∃ other value, rest[earlier]? = some other ∧ items[earlier]? = some value ∧
      ∃ found, other.read value = .ok found) :
    record.readItems reading .closed total count state fields (Draft.ofItems items) = .error fault := by
  induction fits generalizing place items state count with
  | nil => cases there
  | @cons first field rest fields fits _ ih =>
    cases items with
    | nil => cases stands
    | cons head items =>
      rw [Draft.ofItems, readItems, fits.read]
      cases place with
      | zero =>
        cases there
        cases stands
        rw [fails]
        rfl
      | succ place =>
        obtain ⟨_, _, ⟨⟩, ⟨⟩, found, reads⟩ := earlier 0 (by omega)
        rw [reads]
        exact ih there stands fun other before => earlier (other + 1) (by omega)

/-- The fault of a field is that of the record, if nothing else is wrong with the document. -/
theorem read_exchange_eq_error (consists : record.Consists reading cells) (entered : outer.enter = .ok reading)
    (blank : ∀ cell ∈ cells, cell.view empty = none) (there : cells[place]? = some cell)
    (fails : cell.read written = .error fault) (describes : Describes cells after document) :
    record.read empty outer (.ofJson (exchange cell.name place written document)) = .error fault := by
  have member := List.mem_of_getElem? there
  obtain each | each := describes
  · rw [exchange, Draft.ofJson, Record.read, entered, ok_bind, consists.readMembers_eq_error member fails
      (blank cell member) ?_ fun other listed different => ?_]
    · rfl
    · obtain ⟨value, only, -⟩ := each cell member
      rw [valuesOf_exchanged, only]
      rfl
    · obtain ⟨value, only, found, reads, -⟩ := each other listed
      rw [valuesOf_exchanged_of_ne different, blank other listed, only]
      exact ⟨some found, .filled reads⟩
  · obtain ⟨lengths, each⟩ := List.forall₂_iff_get.mp each
    obtain ⟨bound, -⟩ := List.getElem?_eq_some_iff.mp there
    rw [exchange, Draft.ofJson, Record.read, entered, ok_bind]
    refine readItems_eq_error consists.fields there (List.getElem?_set_self (lengths ▸ bound)) fails ?_
    intro earlier before
    have within : earlier < cells.length := by omega
    have inside : earlier < _ := lengths ▸ within
    obtain ⟨found, reads, -⟩ := each earlier within inside
    refine ⟨_, _, List.getElem?_eq_getElem within, ?_, found, reads⟩
    rw [List.getElem?_set_ne (by omega), List.getElem?_eq_getElem inside, List.get_eq_getElem]

end Record.Consists

end LedgerCapture.Json
