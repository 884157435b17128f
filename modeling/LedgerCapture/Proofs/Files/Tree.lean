import LedgerCapture.Proofs.Files.Growth
import LedgerCapture.Proofs.Files.Path

/-!
Trees in which nothing hangs in the air. Whatever is written or made is put right below something, so such a tree
stays one.
-/
namespace LedgerCapture

theorem Path.components_ne_nil (path : String) : components path ≠ [] := by
  intro empty
  obtain ⟨named, last⟩ := List.append_eq_nil_iff.mp empty
  rw [List.map_eq_nil_iff, List.filter_eq_nil_iff] at named
  have some : path.toList.splitOn '/' ≠ [] := List.splitOnP_ne_nil _ _
  have ends := List.getLast?_eq_some_getLast some
  have hollow : (path.toList.splitOn '/').getLast some = [] := by
    simpa using named _ (List.getLast_mem some)
  rw [ends, hollow] at last
  cases last

namespace Files

variable {files after : Files} {place other : Place} {entry : FileEntry} {path : String}

/-- Above whatever is there, something is there. -/
def IsTree (files : Files) : Prop :=
  ∀ place name, files.entry? (place ++ [name]) ≠ none → files.entry? place ≠ none

theorem isTree_of_forall (each : ∀ present ∈ files.entries, files.entry? present.1.dropLast ≠ none) :
    files.IsTree := by
  intro place name there
  unfold entry? at there
  rw [if_neg (by simp), ne_eq, Option.map_eq_none_iff] at there
  obtain ⟨present, found⟩ := Option.ne_none_iff_exists'.mp there
  have keyed := List.find?_some found
  have same : present.1 = place ++ [name] := beq_iff_eq.mp keyed
  have above := each present (List.mem_of_find?_eq_some found)
  rwa [same, List.dropLast_concat] at above

namespace IsTree

variable (tree : files.IsTree)
include tree

theorem dropLast (there : files.entry? place ≠ none) : files.entry? place.dropLast ≠ none := by
  rcases List.eq_nil_or_concat place with rfl | ⟨above, name, rfl⟩
  · nofun
  · rw [List.concat_eq_append] at there ⊢
    rw [List.dropLast_concat]
    exact tree above name there

theorem absent_below (absent : files.entry? place = none) (below : place <+: other) : files.entry? other = none := by
  obtain ⟨names, rfl⟩ := below
  induction names generalizing place with
  | nil => rwa [List.append_nil]
  | cons name rest ih =>
    rw [List.append_cons]
    exact ih (by_contra fun there => tree place name there absent)

theorem put (above : files.entry? place.dropLast ≠ none) (nonempty : place ≠ []) : (files.put place entry).IsTree := by
  have kept {other : Place} (there : files.entry? other ≠ none) :
      Files.entry? (files.put place entry) other ≠ none := by
    rw [entry_put nonempty]
    split
    · nofun
    · exact there
  intro parent name there
  by_cases same : parent ++ [name] = place
  · rw [← same, List.dropLast_concat] at above
    exact kept above
  · rw [entry_put nonempty, if_neg same] at there
    exact kept (tree parent name there)

end IsTree

theorem Walks.above {follow : Bool} {fuel links : Nat} {start : Place} {names : List String} {found : Resolved}
    (tree : files.IsTree) (walks : files.Walks follow fuel links start names found)
    (there : files.entry? start ≠ none) : files.entry? found.place.dropLast ≠ none := by
  induction walks with
  | arrived => exact tree.dropLast there
  | stays _ _ ih => exact ih there
  | rises _ _ ih => exact ih (tree.dropLast there)
  | misses | ends =>
    rw [List.dropLast_concat]
    exact there
  | follows _ _ _ _ _ _ ih =>
    refine ih ?_
    split
    · nofun
    · exact there
  | enters _ _ present _ _ ih =>
    refine ih ?_
    rw [present]
    nofun

/-- Where names are looked up there is something. -/
theorem Walks.there {follow : Bool} {fuel links : Nat} {start : Place} {names : List String} {found : Resolved}
    (walks : files.Walks follow fuel links start names found) (named : names ≠ []) : files.entry? start ≠ none := by
  cases walks with
  | arrived => exact absurd rfl named
  | stays directory | rises directory | misses directory | ends directory | follows directory | enters directory =>
    rw [directory]
    nofun

theorem resolve_above {follow : Bool} {found : Resolved} (tree : files.IsTree)
    (resolved : files.resolve follow path = .ok found) : files.entry? found.place.dropLast ≠ none := by
  obtain ⟨-, -, walked⟩ := resolve_eq_ok_iff.mp resolved
  have walks := walks_of_walk walked
  exact walks.above tree (walks.there (Path.components_ne_nil path))

/-! ### Putting -/

theorem vacant_eq_ok_iff :
    files.vacant path = .ok place ↔
      files.resolve false (if Path.trimmed path == "" then path else Path.trimmed path) = .ok ⟨place, none⟩ := by
  show (files.resolve false (if Path.trimmed path == "" then path else Path.trimmed path) >>= fun found => _) = _ ↔ _
  rw [bind_eq_ok_iff]
  constructor
  · rintro ⟨⟨found, entry⟩, resolved, last⟩
    cases entry with
    | none =>
      cases last
      exact resolved
    | some entry => cases last
  · intro resolved
    exact ⟨_, resolved, rfl⟩

namespace IsTree

variable (tree : files.IsTree)
include tree

theorem write {content : ByteArray} (written : files.write path content = .ok after) : after.IsTree := by
  obtain ⟨found, resolved, free, rfl⟩ := exists_put_of_write written
  exact tree.put (resolve_above tree resolved) free.ne_nil

theorem makeDirectory (made : files.makeDirectory path = .ok after) : after.IsTree := by
  obtain ⟨place, vacant, free, rfl⟩ := exists_put_of_makeDirectory made
  exact tree.put (resolve_above tree (vacant_eq_ok_iff.mp vacant)) free.ne_nil

theorem makeDirectories (made : files.makeDirectories path = .ok after) : after.IsTree := by
  let relation (files after : Files) : Prop := files.IsTree → after.IsTree
  have grown : relation files after :=
    makeDirectories_rel (fun _ => id) (fun left right => right ∘ left) (fun done tree => tree.makeDirectory done) made
  exact grown tree

end IsTree

end Files

end LedgerCapture
