import LedgerCapture.Files.Tree
import LedgerCapture.Proofs.Result
import Mathlib.Data.Finset.Card

/-!
The entries of a directory as a set, and the orders in which they can be listed. The names that a tree has in a
directory are such a listing.
-/
namespace LedgerCapture.Files

variable {files : Files} {place : Place} {path name : String} {listing others : List String} {entries : Finset String}

/-- A directory's entries in the order in which they happen to be listed, each of them once. -/
structure Lists (listing : List String) (entries : Finset String) : Prop where
  nodup : listing.Nodup
  mem_iff : ∀ name, name ∈ listing ↔ name ∈ entries

def Distinct (files : Files) : Prop :=
  (files.entries.map Prod.fst).Nodup

/-- The path leads to a directory, and these are the names of what is right in it. -/
def Holds (files : Files) (path : String) (entries : Finset String) : Prop :=
  ∃ place, files.find path = .ok (place, .directory) ∧
    ∀ name, name ∈ entries ↔ files.entry? (place ++ [name]) ≠ none

/-! ### Listings -/

theorem Lists.perm (lists : Lists listing entries) (more : Lists others entries) : listing.Perm others := by
  rw [List.perm_ext_iff_of_nodup lists.nodup more.nodup]
  intro name
  rw [lists.mem_iff, more.mem_iff]

theorem Lists.perm_pair_iff {first second : String} (lists : Lists listing entries) (different : first ≠ second) :
    listing.Perm [first, second] ↔ entries = {first, second} := by
  rw [List.perm_ext_iff_of_nodup lists.nodup (by simpa using different), Finset.ext_iff]
  simp only [lists.mem_iff, List.mem_cons, List.not_mem_nil, or_false, Finset.mem_insert, Finset.mem_singleton]

theorem Lists.countP_eq_card {kind : String → Bool} {IsKind : String → Prop} [DecidablePred IsKind]
    (lists : Lists listing entries) (same : ∀ name, kind name = true ↔ IsKind name) :
    listing.countP kind = (entries.filter IsKind).card := by
  have filtered : entries.filter IsKind = (listing.filter kind).toFinset := by
    ext name
    simp [lists.mem_iff, same]
  rw [filtered, List.toFinset_card_of_nodup (lists.nodup.filter kind), List.countP_eq_length_filter]

/-! ### The names in a directory -/

theorem eq_concat_of_namesAt {entry : Place × FileEntry}
    (named : (if entry.1.dropLast == place && !entry.1.isEmpty then entry.1.getLast? else none) = some name) :
    entry.1 = place ++ [name] := by
  split at named
  · next inside =>
    simp only [Bool.and_eq_true, beq_iff_eq] at inside
    rw [← inside.1]
    exact (List.dropLast_append_getLast? name named).symm
  · cases named

theorem mem_namesAt_iff : name ∈ files.namesAt place ↔ files.entry? (place ++ [name]) ≠ none := by
  have below : (place ++ [name]).isEmpty = false := by simp
  rw [namesAt, List.mem_filterMap, entry?, below, if_neg Bool.false_ne_true, ne_eq, Option.map_eq_none_iff,
    List.find?_eq_none]
  simp only [not_forall, beq_iff_eq, not_not]
  constructor
  · rintro ⟨entry, member, named⟩
    exact ⟨entry, member, eq_concat_of_namesAt named⟩
  · rintro ⟨entry, member, same⟩
    exact ⟨entry, member, by simp [same]⟩

theorem Distinct.nodup_namesAt (distinct : files.Distinct) (place : Place) : (files.namesAt place).Nodup := by
  rw [namesAt, List.Nodup, List.pairwise_filterMap]
  refine (List.pairwise_map.mp distinct).imp fun different name named other namedToo same => different ?_
  rw [eq_concat_of_namesAt named, eq_concat_of_namesAt namedToo, same]

theorem find_of_isDirectory (resolved : files.canonical path = .ok place) (isDirectory : files.isDirectory path = true) :
    files.find path = .ok (place, .directory) := by
  obtain ⟨⟨found, entry⟩, leads, same⟩ := bind_eq_ok_iff.mp resolved
  cases same
  rw [Files.isDirectory, leads] at isDirectory
  cases entry with
  | directory => exact leads
  | file content => cases isDirectory
  | link target => cases isDirectory

theorem Holds.exists_listing (holds : files.Holds path entries) (distinct : files.Distinct) :
    ∃ listing, files.list path = .ok listing ∧ Lists listing entries := by
  obtain ⟨place, found, inside⟩ := holds
  refine ⟨files.namesAt place, ?_, distinct.nodup_namesAt place, fun name => mem_namesAt_iff.trans (inside name).symm⟩
  unfold list
  rw [found]
  rfl

end LedgerCapture.Files
