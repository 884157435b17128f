import LedgerCapture.Toml.Document

/-!
The tree into which a document is read only grows. Each change goes down along a key and adds one entry or one table at
the end of it; so what stands at a key stays there, and every text in the tree is one that some entry brought.
-/
namespace LedgerCapture.Toml

/-! ### Single entries -/

section Entries

variable {key other : String} {node below : Node} {entries : Entries}

theorem mem_of_findEntry (found : findEntry key entries = some node) : (key, node) ∈ entries := by
  induction entries with
  | nil => cases found
  | cons entry rest ih =>
    obtain ⟨name, present⟩ := entry
    rw [findEntry] at found
    split at found
    · next same =>
      cases found
      rw [eq_of_beq same]
      exact List.mem_cons_self
    · exact List.mem_cons_of_mem _ (ih found)

theorem exists_findEntry (member : (key, node) ∈ entries) : ∃ present, findEntry key entries = some present := by
  induction entries with
  | nil => cases member
  | cons entry rest ih =>
    obtain ⟨name, present⟩ := entry
    rw [findEntry]
    split
    · exact ⟨present, rfl⟩
    · next different =>
      rcases List.mem_cons.mp member with same | member
      · cases same
        exact absurd (beq_self_eq_true key) different
      · exact ih member

/-- An entry is either the one that was set, or it was there before. -/
theorem mem_setEntry (member : (other, below) ∈ setEntry key node entries) :
    (other = key ∧ below = node) ∨ (other, below) ∈ entries := by
  induction entries with
  | nil => exact .inl (by simpa [setEntry] using member)
  | cons entry rest ih =>
    obtain ⟨name, present⟩ := entry
    rw [setEntry] at member
    split at member
    · rcases List.mem_cons.mp member with same | member
      · exact .inl (Prod.mk.inj same)
      · exact .inr (List.mem_cons_of_mem _ member)
    · rcases List.mem_cons.mp member with same | member
      · exact .inr (by rw [same]; exact List.mem_cons_self)
      · exact (ih member).imp_right (List.mem_cons_of_mem _)

theorem exists_mem_setEntry (member : (other, below) ∈ entries) :
    ∃ below, (other, below) ∈ setEntry key node entries := by
  induction entries with
  | nil => cases member
  | cons entry rest ih =>
    obtain ⟨name, present⟩ := entry
    rw [setEntry]
    split
    · next same =>
      rcases List.mem_cons.mp member with here | member
      · cases here
        exact ⟨node, by rw [eq_of_beq same]; exact List.mem_cons_self⟩
      · exact ⟨below, List.mem_cons_of_mem _ member⟩
    · rcases List.mem_cons.mp member with here | member
      · exact ⟨below, by rw [here]; exact List.mem_cons_self⟩
      · obtain ⟨below, later⟩ := ih member
        exact ⟨below, List.mem_cons_of_mem _ later⟩

end Entries

/-! ### Growing -/

/-- What an operation makes of a node, or of the place where there is none: the value that is added becomes a leaf, and
tables are begun, opened and gone through. -/
inductive Grows (added : Option Toml) : Option Node → Node → Prop
  | leaf {value : Toml} (given : added = some value) : Grows added none (.leaf value)
  | opened {before after : Origin} {entries : Entries} :
      Grows added (some (.table before entries)) (.table after entries)
  | first : Grows added none (.tables [[]])
  | next {elements : List Entries} : Grows added (some (.tables elements)) (.tables ([] :: elements))
  | fresh {origin : Origin} {node : Node} (begun : Grows added (some (.table origin [])) node) : Grows added none node
  | entry {before after : Origin} {key : String} {entries : Entries} {node : Node}
      (inside : Grows added (findEntry key entries) node) :
      Grows added (some (.table before entries)) (.table after (setEntry key node entries))
  | last {before after : Origin} {entries grown : Entries} {earlier : List Entries}
      (inside : Grows added (some (.table before entries)) (.table after grown)) :
      Grows added (some (.tables (entries :: earlier))) (.tables (grown :: earlier))

section Growing

variable {added : Option Toml} {dotted : Bool} {change : Origin → Entries → Option (Origin × Entries)}
  {path : List String} {origin after : Origin} {entries grown root : Entries} {value : Toml}

/-- How a table came about does not matter for what is in it. -/
theorem Grows.withOrigin {before : Option Node} (grows : Grows added before (.table origin grown)) (after : Origin) :
    Grows added before (.table after grown) := by
  generalize same : Node.table origin grown = node at grows
  induction grows with
  | opened =>
    cases same
    exact .opened
  | fresh begun ih => exact .fresh (ih same)
  | entry inside ih =>
    cases same
    exact .entry inside
  | leaf | first | next | last => cases same

/-- A change somewhere below a table is what it is at the end of its key. -/
theorem grows_of_changeAt
    (here : ∀ origin entries after grown, change origin entries = some (after, grown) →
      Grows added (some (.table origin entries)) (.table after grown))
    (changed : changeAt dotted change path origin entries = some (after, grown)) :
    Grows added (some (.table origin entries)) (.table after grown) := by
  induction path generalizing origin entries after grown with
  | nil => exact here _ _ _ _ changed
  | cons key path ih =>
    rw [changeAt] at changed
    split at changed
    · next absent =>
      obtain ⟨⟨below, inner⟩, inside, same⟩ := Option.bind_eq_some_iff.mp changed
      cases same
      refine .entry ?_
      rw [absent]
      exact .fresh (ih inside)
    · next found =>
      split at changed
      · cases changed
      · obtain ⟨⟨below, inner⟩, inside, same⟩ := Option.bind_eq_some_iff.mp changed
        cases same
        refine .entry ?_
        rw [found]
        exact ih inside
    · next found =>
      obtain ⟨⟨below, inner⟩, inside, same⟩ := Option.bind_eq_some_iff.mp changed
      cases same
      refine .entry ?_
      rw [found]
      exact .last (ih inside)
    · cases changed

theorem grows_of_addEntry (changed : addEntry path value origin entries = some (after, grown)) :
    Grows (some value) (some (.table origin entries)) (.table after grown) := by
  obtain ⟨⟨before, key⟩, -, changed⟩ := Option.bind_eq_some_iff.mp changed
  refine grows_of_changeAt (fun origin entries after grown changed => ?_) changed
  split at changed
  · cases changed
  · next allowed =>
    cases changed
    have absent : findEntry key entries = none := by
      cases found : findEntry key entries with
      | none => rfl
      | some node => simp [found] at allowed
    refine .entry ?_
    rw [absent]
    exact .leaf rfl

theorem grows_of_openTable (opened : openTable path root = some grown) :
    Grows none (some (.table .header root)) (.table .header grown) := by
  obtain ⟨⟨before, key⟩, -, opened⟩ := Option.bind_eq_some_iff.mp opened
  obtain ⟨⟨after, grown⟩, changed, same⟩ := Option.bind_eq_some_iff.mp opened
  cases same
  refine (grows_of_changeAt (fun origin entries after grown changed => ?_) changed).withOrigin .header
  split at changed
  · next absent =>
    cases changed
    refine .entry ?_
    rw [absent]
    exact .fresh (@Grows.opened _ .header _ _)
  · next found =>
    cases changed
    refine .entry ?_
    rw [found]
    exact .opened
  · cases changed

theorem grows_of_openElement (opened : openElement path root = some grown) :
    Grows none (some (.table .header root)) (.table .header grown) := by
  obtain ⟨⟨before, key⟩, -, opened⟩ := Option.bind_eq_some_iff.mp opened
  obtain ⟨⟨after, grown⟩, changed, same⟩ := Option.bind_eq_some_iff.mp opened
  cases same
  refine (grows_of_changeAt (fun origin entries after grown changed => ?_) changed).withOrigin .header
  split at changed
  · next absent =>
    cases changed
    refine .entry ?_
    rw [absent]
    exact .first
  · next found =>
    cases changed
    refine .entry ?_
    rw [found]
    exact .next
  · cases changed

end Growing

/-! ### What stays -/

/-- At the end of a path through tables there is a value, and nothing else. -/
def Node.Stands (value : Toml) : List String → Node → Prop
  | [], node => node = .leaf value
  | key :: path, node => ∃ origin entries, node = .table origin entries ∧ (∃ below, (key, below) ∈ entries) ∧
      ∀ below, (key, below) ∈ entries → below.Stands value path

theorem Grows.stands {added : Option Toml} {before : Option Node} {node after : Node} {value : Toml}
    {path : List String} (grows : Grows added before after) (present : before = some node)
    (stands : node.Stands value path) : after.Stands value path := by
  induction grows generalizing node path with
  | leaf given => cases present
  | first => cases present
  | fresh begun ih => cases present
  | opened =>
    cases present
    cases path with
    | nil => cases stands
    | cons key path =>
      obtain ⟨origin, entries, same, some, all⟩ := stands
      cases same
      exact ⟨_, _, rfl, some, all⟩
  | next =>
    cases present
    cases path with
    | nil => cases stands
    | cons key path =>
      obtain ⟨origin, entries, same, -⟩ := stands
      cases same
  | @entry before after key entries node inside ih =>
    cases present
    cases path with
    | nil => cases stands
    | cons name path =>
      obtain ⟨origin, entries, same, ⟨old, present⟩, all⟩ := stands
      cases same
      refine ⟨_, _, rfl, exists_mem_setEntry present, fun below member => ?_⟩
      rcases mem_setEntry member with ⟨rfl, rfl⟩ | member
      · obtain ⟨old, found⟩ := exists_findEntry present
        exact ih found (all old (mem_of_findEntry found))
      · exact all below member
  | last inside ih =>
    cases present
    cases path with
    | nil => cases stands
    | cons key path =>
      obtain ⟨origin, entries, same, -⟩ := stands
      cases same

/-! ### Where texts come from -/

/-- Whether a text stands in a value, but not under the key `hidden`. -/
inductive Holds (hidden content : String) : Toml → Prop
  | string : Holds hidden content (.string content)
  | item {item : Toml} {items : List Toml} (member : item ∈ items) (holds : Holds hidden content item) :
      Holds hidden content (.list items)
  | entry {key : String} {value : Toml} {entries : List (String × Toml)} (member : (key, value) ∈ entries)
      (shown : key ≠ hidden) (holds : Holds hidden content value) : Holds hidden content (.table entries)

inductive Node.Holds (hidden content : String) : Node → Prop
  | leaf {value : Toml} (holds : value.Holds hidden content) : Holds hidden content (.leaf value)
  | entry {origin : Origin} {key : String} {node : Node} {entries : Entries} (member : (key, node) ∈ entries)
      (shown : key ≠ hidden) (holds : Holds hidden content node) : Holds hidden content (.table origin entries)
  | element {origin : Origin} {entries : Entries} {elements : List Entries} (member : entries ∈ elements)
      (holds : Holds hidden content (.table origin entries)) : Holds hidden content (.tables elements)

section Texts

variable {hidden content : String} {added : Option Toml} {before : Option Node} {after : Node}

theorem Grows.holds (grows : Grows added before after) (holds : after.Holds hidden content) :
    (∃ value, added = some value ∧ value.Holds hidden content) ∨
      ∃ node, before = some node ∧ node.Holds hidden content := by
  induction grows with
  | leaf given =>
    cases holds with
    | leaf holds => exact .inl ⟨_, given, holds⟩
  | opened =>
    cases holds with
    | entry member shown holds => exact .inr ⟨_, rfl, .entry member shown holds⟩
  | first =>
    cases holds with
    | element member holds =>
      cases List.mem_singleton.mp member
      cases holds with
      | entry member shown holds => cases member
  | next =>
    cases holds with
    | element member holds =>
      rcases List.mem_cons.mp member with rfl | member
      · cases holds with
        | entry member shown holds => cases member
      · exact .inr ⟨_, rfl, .element member holds⟩
  | fresh begun ih =>
    rcases ih holds with new | ⟨node, same, holds⟩
    · exact .inl new
    · cases same
      cases holds with
      | entry member shown holds => cases member
  | entry inside ih =>
    cases holds with
    | entry member shown holds =>
      rcases mem_setEntry member with ⟨rfl, rfl⟩ | member
      · rcases ih holds with new | ⟨node, found, holds⟩
        · exact .inl new
        · exact .inr ⟨_, rfl, .entry (mem_of_findEntry found) shown holds⟩
      · exact .inr ⟨_, rfl, .entry member shown holds⟩
  | last inside ih =>
    cases holds with
    | element member holds =>
      rcases List.mem_cons.mp member with rfl | member
      · cases holds with
        | entry member shown holds =>
          rcases ih (.entry member shown holds) with new | ⟨node, same, holds⟩
          · exact .inl new
          · cases same
            exact .inr ⟨_, rfl, .element List.mem_cons_self holds⟩
      · exact .inr ⟨_, rfl, .element (List.mem_cons_of_mem _ member) holds⟩

end Texts

/-! ### Complete trees -/

section Complete

variable {key other hidden content : String} {value below : Toml} {entries sorted : List (String × Toml)}

theorem mem_insertEntry (member : (other, below) ∈ insertEntry key value entries) :
    (other = key ∧ below = value) ∨ (other, below) ∈ entries := by
  induction entries with
  | nil => exact .inl (by simpa [insertEntry] using member)
  | cons entry rest ih =>
    obtain ⟨name, present⟩ := entry
    rw [insertEntry] at member
    split at member
    · rcases List.mem_cons.mp member with same | member
      · exact .inl (Prod.mk.inj same)
      · exact .inr member
    · split at member
      · rcases List.mem_cons.mp member with same | member
        · exact .inl (Prod.mk.inj same)
        · exact .inr (List.mem_cons_of_mem _ member)
      · rcases List.mem_cons.mp member with same | member
        · exact .inr (by rw [same]; exact List.mem_cons_self)
        · exact (ih member).imp_right (List.mem_cons_of_mem _)

theorem mem_insertEntry_self (key : String) (value : Toml) (entries : List (String × Toml)) :
    (key, value) ∈ insertEntry key value entries := by
  induction entries with
  | nil => exact List.mem_cons_self
  | cons entry rest ih =>
    rw [insertEntry]
    split
    · exact List.mem_cons_self
    · split
      · exact List.mem_cons_self
      · exact List.mem_cons_of_mem _ ih

theorem exists_mem_insertEntry (member : (other, below) ∈ entries) :
    ∃ below, (other, below) ∈ insertEntry key value entries := by
  induction entries with
  | nil => cases member
  | cons entry rest ih =>
    obtain ⟨name, present⟩ := entry
    rw [insertEntry]
    split
    · exact ⟨below, List.mem_cons_of_mem _ member⟩
    · split
      · next same =>
        rcases List.mem_cons.mp member with here | member
        · cases here
          exact ⟨value, by rw [eq_of_beq same]; exact List.mem_cons_self⟩
        · exact ⟨below, List.mem_cons_of_mem _ member⟩
      · rcases List.mem_cons.mp member with here | member
        · exact ⟨below, by rw [here]; exact List.mem_cons_self⟩
        · obtain ⟨below, later⟩ := ih member
          exact ⟨below, List.mem_cons_of_mem _ later⟩

def sortEntries (entries : List (String × Toml)) : List (String × Toml) :=
  entries.foldl (fun sorted entry => insertEntry entry.1 entry.2 sorted) []

theorem ofEntries_eq (entries : List (String × Toml)) : ofEntries entries = .table (sortEntries entries) := rfl

theorem mem_of_mem_foldl_insertEntry
    (member : (key, value) ∈ entries.foldl (fun sorted entry => insertEntry entry.1 entry.2 sorted) sorted) :
    (key, value) ∈ entries ∨ (key, value) ∈ sorted := by
  induction entries generalizing sorted with
  | nil => exact .inr member
  | cons entry rest ih =>
    rcases ih member with later | member
    · exact .inl (List.mem_cons_of_mem _ later)
    · rcases mem_insertEntry member with ⟨rfl, rfl⟩ | member
      · exact .inl List.mem_cons_self
      · exact .inr member

theorem mem_of_mem_sortEntries (member : (key, value) ∈ sortEntries entries) : (key, value) ∈ entries :=
  (mem_of_mem_foldl_insertEntry member).resolve_right List.not_mem_nil

theorem exists_mem_foldl_insertEntry
    (present : (∃ value, (key, value) ∈ entries) ∨ ∃ value, (key, value) ∈ sorted) :
    ∃ value, (key, value) ∈ entries.foldl (fun sorted entry => insertEntry entry.1 entry.2 sorted) sorted := by
  induction entries generalizing sorted with
  | nil => exact present.resolve_left fun ⟨value, member⟩ => nomatch member
  | cons entry rest ih =>
    apply ih
    rcases present with ⟨value, member⟩ | ⟨value, member⟩
    · rcases List.mem_cons.mp member with rfl | later
      · exact .inr ⟨value, mem_insertEntry_self ..⟩
      · exact .inl ⟨value, later⟩
    · exact .inr (exists_mem_insertEntry member)

theorem exists_mem_sortEntries (member : (key, value) ∈ entries) : ∃ value, (key, value) ∈ sortEntries entries :=
  exists_mem_foldl_insertEntry (.inl ⟨value, member⟩)

theorem entriesToToml_eq_map (entries : Entries) :
    entriesToToml entries = entries.map fun entry => (entry.1, entry.2.toToml) := by
  induction entries with
  | nil => rfl
  | cons entry rest ih => rw [entriesToToml, List.map_cons, ih]

theorem elementsToToml_eq_map (elements : List Entries) :
    elementsToToml elements = elements.map fun entries => ofEntries (entriesToToml entries) := by
  induction elements with
  | nil => rfl
  | cons entries rest ih => rw [elementsToToml, List.map_cons, ih]

/-- A text that stands in a complete tree stood in it before. -/
theorem holds_of_holds_toToml {node : Node} (holds : node.toToml.Holds hidden content) : node.Holds hidden content := by
  generalize same : node.toToml = value at holds
  induction holds generalizing node with
  | string =>
    cases node with
    | leaf value =>
      rw [Node.toToml] at same
      exact .leaf (by rw [same]; exact .string)
    | table origin entries => cases same
    | tables elements => cases same
  | @item item items member holds ih =>
    cases node with
    | leaf value =>
      rw [Node.toToml] at same
      exact .leaf (by rw [same]; exact .item member holds)
    | table origin entries => cases same
    | tables elements =>
      rw [Node.toToml, Toml.list.injEq] at same
      rw [← same, List.mem_reverse, elementsToToml_eq_map] at member
      obtain ⟨entries, element, rfl⟩ := List.mem_map.mp member
      exact .element element (@ih (.table .header entries) rfl)
  | @entry key value entries member shown holds ih =>
    cases node with
    | leaf value =>
      rw [Node.toToml] at same
      exact .leaf (by rw [same]; exact .entry member shown holds)
    | table origin nodes =>
      rw [Node.toToml, ofEntries_eq, Toml.table.injEq] at same
      rw [← same] at member
      have unsorted := mem_of_mem_sortEntries member
      rw [entriesToToml_eq_map] at unsorted
      obtain ⟨⟨key, node⟩, inside, same⟩ := List.mem_map.mp unsorted
      cases same
      exact .entry inside shown (ih rfl)
    | tables elements => cases same

def Stands (leaf : Toml) : List String → Toml → Prop
  | [], value => value = leaf
  | key :: path, value => ∃ entries, value = .table entries ∧ (∃ below, (key, below) ∈ entries) ∧
      ∀ below, (key, below) ∈ entries → Stands leaf path below

theorem Node.Stands.toToml {node : Node} {leaf : Toml} {path : List String} (stands : node.Stands leaf path) :
    Toml.Stands leaf path node.toToml := by
  induction path generalizing node with
  | nil =>
    cases stands
    rfl
  | cons key path ih =>
    obtain ⟨origin, entries, rfl, ⟨below, member⟩, all⟩ := stands
    have listed : (key, below.toToml) ∈ entriesToToml entries := by
      rw [entriesToToml_eq_map]
      exact List.mem_map.mpr ⟨_, member, rfl⟩
    refine ⟨_, by rw [Node.toToml, ofEntries_eq], exists_mem_sortEntries listed, fun value member => ?_⟩
    have unsorted := mem_of_mem_sortEntries member
    rw [entriesToToml_eq_map] at unsorted
    obtain ⟨⟨key, node⟩, inside, same⟩ := List.mem_map.mp unsorted
    cases same
    exact ih (all node inside)

end Complete

end LedgerCapture.Toml
