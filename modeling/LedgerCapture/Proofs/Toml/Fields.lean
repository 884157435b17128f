import LedgerCapture.Toml.Decode
import LedgerCapture.Proofs.Result
import LedgerCapture.Proofs.Toml.Tree

/-!
What readers take from a document. A value of any type keeps its texts where they are, and a field of a record is read
from an entry under its name, or left as it was.
-/
namespace LedgerCapture.Toml

theorem mem_of_lookup {key : String} {value : Toml} {entries : List (String × Toml)}
    (found : lookup key entries = some value) : (key, value) ∈ entries := by
  induction entries with
  | nil => cases found
  | cons entry rest ih =>
    obtain ⟨name, present⟩ := entry
    rw [lookup] at found
    split at found
    · next same =>
      cases found
      rw [eq_of_beq same]
      exact List.mem_cons_self
    · exact List.mem_cons_of_mem _ (ih found)

/-! ### Values of any type -/

section Values

variable {hidden content key : String} {value result : Toml} {items results : List Toml}
  {entries readings : List (String × Toml)}

theorem exists_of_mem_readAnyItems (read : readAnyItems items = .ok results) (member : result ∈ results) :
    ∃ item ∈ items, readAny item = .ok result := by
  induction items generalizing results with
  | nil =>
    cases read
    cases member
  | cons item rest ih =>
    simp only [readAnyItems, bind_eq_ok_iff, pure_eq_ok_iff] at read
    obtain ⟨first, here, others, later, rfl⟩ := read
    rcases List.mem_cons.mp member with rfl | member
    · exact ⟨item, List.mem_cons_self, here⟩
    · obtain ⟨item, inside, readItem⟩ := ih later member
      exact ⟨item, List.mem_cons_of_mem _ inside, readItem⟩

theorem exists_of_mem_readAnyEntries (read : readAnyEntries entries = .ok readings)
    (member : (key, result) ∈ readings) : ∃ value, (key, value) ∈ entries ∧ readAny value = .ok result := by
  induction entries generalizing readings with
  | nil =>
    cases read
    cases member
  | cons entry rest ih =>
    obtain ⟨name, present⟩ := entry
    simp only [readAnyEntries, bind_eq_ok_iff, pure_eq_ok_iff] at read
    obtain ⟨first, here, others, later, rfl⟩ := read
    rcases List.mem_cons.mp member with same | member
    · cases same
      exact ⟨present, List.mem_cons_self, here⟩
    · obtain ⟨value, inside, readEntry⟩ := ih later member
      exact ⟨value, List.mem_cons_of_mem _ inside, readEntry⟩

/-- What reading a value of any type does: strings stay, lists and tables are read inside, and no text stands in
anything else. -/
inductive ReadsAny : Toml → Toml → Prop
  | string (content : String) : ReadsAny (.string content) (.string content)
  | list {items results : List Toml} (read : readAnyItems items = .ok results) : ReadsAny (.list items) (.list results)
  | table {entries readings : List (String × Toml)} (read : readAnyEntries entries = .ok readings) :
      ReadsAny (.table entries) (.table readings)
  | bare {value result : Toml} (none : ∀ hidden content, ¬ result.Holds hidden content) : ReadsAny value result

theorem readsAny_of_readInteger {number : Int} (read : readInteger number = .ok result) : ReadsAny value result := by
  unfold readInteger at read
  split at read
  · cases read
    exact .bare fun _ _ holds => by cases holds
  · split at read <;> cases read

theorem readsAny_of_readDatetime {text : Toml} (read : readDatetime text = .ok result) : ReadsAny value result := by
  unfold readDatetime at read
  split at read
  · split at read
    · cases read
      exact .bare fun _ _ holds => by cases holds
    · cases read
  · cases read

theorem readsAny_of_readAny (read : readAny value = .ok result) : ReadsAny value result := by
  cases value with
  | string content =>
    rw [readAny] at read
    cases read
    exact .string content
  | integer number =>
    rw [readAny] at read
    exact readsAny_of_readInteger read
  | float number =>
    cases number <;> rw [readAny] at read <;> cases read <;> exact .bare fun _ _ holds => by cases holds
  | boolean truth =>
    rw [readAny] at read
    cases read
    exact .bare fun _ _ holds => by cases holds
  | datetime text =>
    rw [readAny] at read
    cases read
    exact .bare fun _ _ holds => by cases holds
  | list items =>
    rw [readAny] at read
    obtain ⟨results, inside, rfl⟩ := map_eq_ok_iff.mp read
    exact .list inside
  | table entries =>
    rw [readAny.eq_def] at read
    dsimp only at read
    split at read
    · cases read
      exact .table rfl
    · split at read
      · exact readsAny_of_readDatetime read
      · obtain ⟨readings, inside, rfl⟩ := map_eq_ok_iff.mp read
        exact .table inside

/-- A text that stands in what was read stands in what it was read from. -/
theorem holds_of_holds_readAny (read : readAny value = .ok result) (holds : result.Holds hidden content) :
    value.Holds hidden content := by
  induction holds generalizing value with
  | string =>
    cases readsAny_of_readAny read with
    | string => exact .string
    | bare none => exact absurd .string (none hidden content)
  | item member holds ih =>
    cases readsAny_of_readAny read with
    | list read =>
      obtain ⟨item, inside, readItem⟩ := exists_of_mem_readAnyItems read member
      exact .item inside (ih readItem)
    | bare none => exact absurd (.item member holds) (none hidden content)
  | entry member shown holds ih =>
    cases readsAny_of_readAny read with
    | table read =>
      obtain ⟨value, inside, readEntry⟩ := exists_of_mem_readAnyEntries read member
      exact .entry inside shown (ih readEntry)
    | bare none => exact absurd (.entry member shown holds) (none hidden content)

end Values

/-! ### Records -/

section Records

variable {σ α β : Type}

def Field.Keeps (field : Field σ) (get : σ → β) : Prop :=
  ∀ value state after, field.read value state = .ok after → get after = get state

def Field.Puts (field : Field σ) (read : Toml → Except DecodeError α) (get : σ → β) (put : α → β) : Prop :=
  ∀ value state after, field.read value state = .ok after →
    ∃ content, read value = .ok content ∧ get after = put content

variable {record : Record σ} {name : String} {read : Toml → Except DecodeError α} {set : α → σ → σ} {get : σ → β}
  {put : α → β} {state after : σ} {entries : List (String × Toml)} {requiredOfTable requiredOfList : Bool}
  {filled : σ → Bool}

theorem Field.keeps_of_set (apart : ∀ content state, get (set content state) = get state) :
    (Field.mk name requiredOfTable requiredOfList filled fun value state => do return set (← read value) state).Keeps
      get := by
  intro value state after found
  obtain ⟨content, -, same⟩ := bind_eq_ok_iff.mp found
  cases same
  exact apart content state

theorem Field.puts_of_set (own : ∀ content state, get (set content state) = put content) :
    (Field.mk name requiredOfTable requiredOfList filled fun value state => do return set (← read value) state).Puts
      read get put := by
  intro value state after found
  obtain ⟨content, readContent, same⟩ := bind_eq_ok_iff.mp found
  cases same
  exact ⟨content, readContent, own content state⟩

/-- What only one field changes is as it was, or as that field read it from an entry under its name. -/
theorem Record.readEntries_origin
    (apart : ∀ field ∈ record.fields, field.Keeps get ∨ field.name = name ∧ field.Puts read get put)
    (readEntries : record.readEntries state entries = .ok after) :
    get after = get state ∨ ∃ value content, (name, value) ∈ entries ∧ read value = .ok content ∧
      get after = put content := by
  induction entries generalizing state with
  | nil =>
    cases readEntries
    exact .inl rfl
  | cons entry rest ih =>
    obtain ⟨key, value⟩ := entry
    rw [Record.readEntries] at readEntries
    split at readEntries
    · exact (ih readEntries).imp_right fun ⟨value, content, member, found⟩ =>
        ⟨value, content, List.mem_cons_of_mem _ member, found⟩
    · next field found =>
      obtain ⟨next, readField, readEntries⟩ := bind_eq_ok_iff.mp readEntries
      have named : field.name = key := by simpa using List.find?_some found
      rcases ih readEntries with same | ⟨value, content, member, found⟩
      · rcases apart field (List.mem_of_find?_eq_some found) with keeps | ⟨own, puts⟩
        · exact .inl (same.trans (keeps value state next readField))
        · obtain ⟨content, readContent, putContent⟩ := puts value state next readField
          refine .inr ⟨value, content, ?_, readContent, same.trans putContent⟩
          rw [← own, named]
          exact List.mem_cons_self
      · exact .inr ⟨value, content, List.mem_cons_of_mem _ member, found⟩

theorem Record.read_table_eq_ok (found : record.read state (.table entries) = .ok after) :
    record.readEntries state entries = .ok after := by
  obtain ⟨reached, readEntries, found⟩ := bind_eq_ok_iff.mp found
  split at found
  · cases found
  · cases found
    exact readEntries

end Records

end LedgerCapture.Toml
