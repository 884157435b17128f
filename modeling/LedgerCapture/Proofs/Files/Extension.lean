import LedgerCapture.Files.Path
import Mathlib.Data.List.Basic
import Mathlib.Data.List.TakeWhile
import Mathlib.Data.String.Basic

/-!
The extension of a name: what stands behind its last dot. A dot at the start does not count, so a name without
another dot has no extension.
-/
namespace LedgerCapture.Path

/-- The name is a stem that is not empty, a dot, and an extension without dots. The name of the directory above
is read as a name without an extension. -/
def HasExtension (name extension : String) : Prop :=
  name ≠ ".." ∧ '.' ∉ extension.toList ∧ ∃ stem, stem ≠ "" ∧ name = stem ++ "." ++ extension

variable {name extension : String} {chars front back : List Char}

/-! ### The last dot -/

theorem exists_last_dot (dot : '.' ∈ chars) : ∃ front back, '.' ∉ back ∧ chars = front ++ '.' :: back := by
  obtain ⟨later, earlier, split, first⟩ := List.eq_append_cons_of_mem (List.mem_reverse.mpr dot)
  refine ⟨earlier.reverse, later.reverse, fun member => first (List.mem_reverse.mp member), ?_⟩
  rw [← List.reverse_reverse chars, split]
  simp

theorem ne_dot_of_mem_reverse (noDot : '.' ∉ chars) : ∀ c ∈ chars.reverse, (c != '.') = true := by
  intro c member
  rw [bne_iff_ne]
  rintro rfl
  exact noDot (List.mem_reverse.mp member)

theorem takeWhile_reverse_of_last_dot (noDot : '.' ∉ back) :
    (front ++ '.' :: back).reverse.takeWhile (· != '.') = back.reverse := by
  rw [List.reverse_append, List.reverse_cons, List.append_assoc,
    List.takeWhile_append_of_pos (ne_dot_of_mem_reverse noDot)]
  simp

theorem splitExtension_of_noDot (noDot : '.' ∉ name.toList) : splitExtension name = (name, none) := by
  have whole : name.toList.reverse.takeWhile (· != '.') = name.toList.reverse :=
    List.takeWhile_eq_self_iff.mpr (ne_dot_of_mem_reverse noDot)
  unfold splitExtension
  split
  · rfl
  · simp [whole]

theorem splitExtension_of_last_dot (notParent : name ≠ "..") (noDot : '.' ∉ back)
    (split : name.toList = front ++ '.' :: back) :
    splitExtension name =
      if front.isEmpty then (name, none) else (String.ofList front, some (String.ofList back)) := by
  have other : (name == "..") = false := beq_eq_false_iff_ne.mpr notParent
  have whole : (back.length == (front ++ '.' :: back).length) = false := by
    rw [beq_eq_false_iff_ne, List.length_append, List.length_cons]
    omega
  have size : (front ++ '.' :: back).length - back.length - 1 = front.length := by
    rw [List.length_append, List.length_cons]
    omega
  unfold splitExtension
  simp only [other, split, takeWhile_reverse_of_last_dot noDot, List.reverse_reverse, size, List.take_left, whole,
    Bool.false_or, Bool.false_eq_true, if_false]

/-! ### Names with an extension -/

theorem hasExtension_of_last_dot (notParent : name ≠ "..") (noDot : '.' ∉ back) (nonempty : front ≠ [])
    (split : name.toList = front ++ '.' :: back) : HasExtension name (String.ofList back) := by
  refine ⟨notParent, by simpa using noDot, String.ofList front, by simpa using nonempty, ?_⟩
  apply String.toList_inj.mp
  simpa using split

theorem hasExtension_of_extension? (found : extension? name = some extension) : HasExtension name extension := by
  have notParent : name ≠ ".." := by
    rintro rfl
    cases found
  rw [extension?] at found
  by_cases dot : '.' ∈ name.toList
  · obtain ⟨front, back, noDot, split⟩ := exists_last_dot dot
    rw [splitExtension_of_last_dot notParent noDot split] at found
    cases front with
    | nil => cases found
    | cons c more =>
      cases found
      exact hasExtension_of_last_dot notParent noDot (List.cons_ne_nil c more) split
  · rw [splitExtension_of_noDot dot] at found
    cases found

theorem extension?_eq_some_iff : extension? name = some extension ↔ HasExtension name extension := by
  refine ⟨hasExtension_of_extension?, ?_⟩
  rintro ⟨notParent, noDot, stem, nonempty, rfl⟩
  have split : (stem ++ "." ++ extension).toList = stem.toList ++ '.' :: extension.toList := by simp
  have stemmed : stem.toList.isEmpty = false := by simpa using nonempty
  rw [extension?, splitExtension_of_last_dot notParent noDot split, stemmed]
  simp

instance (name extension : String) : Decidable (HasExtension name extension) :=
  decidable_of_iff _ extension?_eq_some_iff

theorem HasExtension.eq {other : String} (first : HasExtension name extension) (second : HasExtension name other) :
    extension = other :=
  Option.some.inj ((extension?_eq_some_iff.mpr first).symm.trans (extension?_eq_some_iff.mpr second))

/-- The only dot of a name does not count if it is at the start. -/
theorem not_hasExtension_of_dotFile {rest : String} (noDot : '.' ∉ rest.toList) (extension : String) :
    ¬HasExtension ("." ++ rest) extension := by
  rintro ⟨-, -, stem, nonempty, same⟩
  have chars := congrArg String.toList same
  simp only [String.toList_append] at chars
  cases front : stem.toList with
  | nil => exact nonempty (String.toList_eq_nil_iff.mp front)
  | cons c more =>
    rw [front] at chars
    obtain ⟨-, tail⟩ := List.cons.inj chars
    exact noDot (by simp [show rest.toList = _ from tail])

end LedgerCapture.Path
