import LedgerCapture.Artifact.Basic
import LedgerCapture.Files.Tree
import LedgerCapture.Proofs.Result
import Mathlib.Data.List.Basic
import Mathlib.Data.List.TakeWhile
import Mathlib.Data.String.Basic

/-!
The names of a path. A name that is joined to a path comes behind the names of the path, however many slashes
stand between them.
-/
namespace LedgerCapture

namespace Path

def trimmed (path : String) : String :=
  String.ofList (path.toList.reverse.dropWhile (· == '/')).reverse

structure IsName (name : String) : Prop where
  nonempty : name ≠ ""
  noSlash : '/' ∉ name.toList

def parts (chars : List Char) : List (List Char) :=
  (chars.splitOn '/').filter (!·.isEmpty)

variable {path name : String} {chars front back slashes : List Char}

/-! ### Slashes -/

theorem trimmed_append_slashes (path : String) :
    ∃ slashes, (∀ c ∈ slashes, c = '/') ∧ path.toList = (trimmed path).toList ++ slashes := by
  refine ⟨(path.toList.reverse.takeWhile (· == '/')).reverse, fun c member => ?_, ?_⟩
  · simpa using List.mem_takeWhile_imp (List.mem_reverse.mp member)
  · rw [trimmed, String.toList_ofList, ← List.reverse_append, List.takeWhile_append_dropWhile, List.reverse_reverse]

theorem getLast?_trimmed (path : String) : (trimmed path).toList.getLast? ≠ some '/' := by
  rw [trimmed, String.toList_ofList, List.getLast?_reverse]
  intro last
  have stops := List.head?_dropWhile_not (· == '/') path.toList.reverse
  rw [last] at stops
  cases stops

theorem splitOn_append_slash (front back : List Char) :
    (front ++ '/' :: back).splitOn '/' = front.splitOn '/' ++ back.splitOn '/' :=
  List.splitOnP_append_cons front back rfl

theorem splitOn_of_noSlash (noSlash : '/' ∉ chars) : chars.splitOn '/' = [chars] := by
  refine List.splitOnP_eq_singleton fun c member => ?_
  rw [beq_eq_false_iff_ne]
  rintro rfl
  exact noSlash member

theorem getLast?_splitOn_append_slash (front back : List Char) :
    ((front ++ '/' :: back).splitOn '/').getLast? = (back.splitOn '/').getLast? := by
  have some : back.splitOn '/' ≠ [] := List.splitOnP_ne_nil _ back
  rw [splitOn_append_slash, List.getLast?_append_of_ne_nil _ some]

/-- Only a slash at the end leaves nothing behind the last slash. -/
theorem getLast?_splitOn_ne (nonempty : chars ≠ []) (last : chars.getLast? ≠ some '/') :
    (chars.splitOn '/').getLast? ≠ some [] := by
  induction size : chars.length using Nat.strongRecOn generalizing chars with
  | ind size ih =>
    by_cases slash : '/' ∈ chars
    · obtain ⟨front, back, rfl⟩ := List.append_of_mem slash
      rw [List.getLast?_append_of_ne_nil _ (List.cons_ne_nil _ _)] at last
      cases back with
      | nil => exact absurd rfl last
      | cons c rest =>
        rw [getLast?_splitOn_append_slash]
        refine ih _ ?_ (List.cons_ne_nil _ _) last rfl
        simp only [← size, List.length_append, List.length_cons]
        omega
    · rw [splitOn_of_noSlash slash]
      simpa using nonempty

theorem getLast?_splitOn_slashes (all : ∀ c ∈ slashes, c = '/') (back : List Char) :
    ((slashes ++ back).splitOn '/').getLast? = (back.splitOn '/').getLast? := by
  induction slashes with
  | nil => rfl
  | cons c rest ih =>
    obtain ⟨rfl, others⟩ := List.forall_mem_cons.mp all
    exact (getLast?_splitOn_append_slash [] (rest ++ back)).trans (ih others)

theorem getLast?_append_slashes (all : ∀ c ∈ slashes, c = '/') (front : List Char) :
    (front ++ '/' :: slashes).getLast? = some '/' := by
  induction slashes generalizing front with
  | nil => rw [List.getLast?_append_of_ne_nil _ (List.cons_ne_nil _ _)]; rfl
  | cons c rest ih =>
    obtain ⟨rfl, others⟩ := List.forall_mem_cons.mp all
    rw [List.append_cons]
    exact ih others _

/-! ### Parts -/

theorem parts_append_slash (front back : List Char) : parts (front ++ '/' :: back) = parts front ++ parts back := by
  rw [parts, splitOn_append_slash, List.filter_append, parts, parts]

theorem parts_slashes (all : ∀ c ∈ slashes, c = '/') (back : List Char) : parts (slashes ++ back) = parts back := by
  induction slashes with
  | nil => rfl
  | cons c rest ih =>
    obtain ⟨rfl, others⟩ := List.forall_mem_cons.mp all
    exact (parts_append_slash [] (rest ++ back)).trans (ih others)

theorem IsName.parts (isName : IsName name) : parts name.toList = [name.toList] := by
  have nonempty : name.toList ≠ [] := fun empty => isName.nonempty (String.toList_eq_nil_iff.mp empty)
  rw [Path.parts, splitOn_of_noSlash isName.noSlash]
  simp [nonempty]

/-- Without a slash at the end the names of a path are its parts. -/
theorem components_of_last (nonempty : path ≠ "") (last : path.toList.getLast? ≠ some '/') :
    components path = (parts path.toList).map String.ofList := by
  have chars : path.toList ≠ [] := fun empty => nonempty (String.toList_eq_nil_iff.mp empty)
  have closed : ((path.toList.splitOn '/').getLast? == some []) = false :=
    beq_eq_false_iff_ne.mpr (getLast?_splitOn_ne chars last)
  rw [components]
  simp only [closed, Bool.false_eq_true, if_false, List.append_nil]
  rfl

theorem components_of_slash (split : path.toList = front ++ '/' :: back) :
    components path = (parts front ++ parts back).map String.ofList ++
      (if (back.splitOn '/').getLast? == some [] then ["."] else []) := by
  rw [components, split, getLast?_splitOn_append_slash]
  exact congrArg (·.map String.ofList ++ _) (parts_append_slash front back)

theorem components_of_slashes (all : ∀ c ∈ slashes, c = '/') (split : path.toList = front ++ '/' :: slashes) :
    components path = (parts front).map String.ofList ++ ["."] := by
  have last := getLast?_splitOn_slashes all []
  have none := parts_slashes all []
  rw [List.append_nil] at last none
  rw [components_of_slash split, last, none]
  simp [parts]

/-- Slashes at the end count as a dot. -/
theorem components_eq_trimmed (nonempty : trimmed path ≠ "") :
    components path = components (trimmed path) ∨ components path = components (trimmed path) ++ ["."] := by
  obtain ⟨slashes, all, split⟩ := trimmed_append_slashes path
  cases slashes with
  | nil =>
    rw [List.append_nil] at split
    rw [← String.toList_inj.mp split]
    exact .inl rfl
  | cons c rest =>
    obtain ⟨rfl, others⟩ := List.forall_mem_cons.mp all
    rw [components_of_last nonempty (getLast?_trimmed path), components_of_slashes others split]
    exact .inr rfl

theorem toList_join (isName : IsName name) (nonempty : path ≠ "") :
    ∃ slashes, (∀ c ∈ slashes, c = '/') ∧
      (join path name).toList = (trimmed path).toList ++ '/' :: (slashes ++ name.toList) := by
  have relative : isAbsolute name = false := by
    rw [isAbsolute, beq_eq_false_iff_ne]
    intro head
    exact isName.noSlash (List.mem_of_mem_head? head)
  have below : (isAbsolute name || path == "") = false := by
    rw [relative, Bool.false_or, beq_eq_false_iff_ne]
    exact nonempty
  obtain ⟨slashes, all, split⟩ := trimmed_append_slashes path
  rw [join, if_neg (by rw [below]; exact Bool.false_ne_true)]
  cases slashes with
  | nil =>
    have last := getLast?_trimmed path
    rw [List.append_nil] at split
    rw [← split] at last ⊢
    rw [if_neg (by simpa using last), String.toList_append, String.toList_append]
    exact ⟨[], nofun, by simp⟩
  | cons c rest =>
    obtain ⟨rfl, others⟩ := List.forall_mem_cons.mp all
    have ends : path.toList.getLast? = some '/' := by
      rw [split]
      exact getLast?_append_slashes others _
    rw [if_pos (by rw [ends]; rfl), String.toList_append, split]
    exact ⟨rest, others, by simp⟩

/-- A name that is joined comes last. -/
theorem components_join (isName : IsName name) (nonempty : trimmed path ≠ "") :
    components (join path name) = components (trimmed path) ++ [name] := by
  have named : path ≠ "" := by
    rintro rfl
    exact nonempty rfl
  obtain ⟨slashes, all, split⟩ := toList_join isName named
  have last : (((slashes ++ name.toList).splitOn '/').getLast? == some []) = false := by
    rw [getLast?_splitOn_slashes all, splitOn_of_noSlash isName.noSlash, beq_eq_false_iff_ne]
    intro same
    exact isName.nonempty (String.toList_eq_nil_iff.mp (Option.some.inj same))
  rw [components_of_slash split, components_of_last nonempty (getLast?_trimmed path), last, parts_slashes all,
    isName.parts]
  simp

theorem trimmed_of_last (last : path.toList.getLast? ≠ some '/') : trimmed path = path := by
  obtain ⟨slashes, all, split⟩ := trimmed_append_slashes path
  cases slashes with
  | nil =>
    rw [List.append_nil] at split
    exact (String.toList_inj.mp split).symm
  | cons c rest =>
    obtain ⟨rfl, others⟩ := List.forall_mem_cons.mp all
    rw [split] at last
    exact absurd (getLast?_append_slashes others _) last

theorem trimmed_join (isName : IsName name) (nonempty : path ≠ "") : trimmed (join path name) = join path name := by
  have chars : name.toList ≠ [] := fun empty => isName.nonempty (String.toList_eq_nil_iff.mp empty)
  obtain ⟨slashes, -, split⟩ := toList_join isName nonempty
  apply trimmed_of_last
  rw [split, List.getLast?_append_of_ne_nil _ (List.cons_ne_nil _ _), ← List.cons_append,
    List.getLast?_append_of_ne_nil _ chars]
  intro last
  exact isName.noSlash (List.mem_of_getLast? last)

/-! ### Absolute paths -/

theorem isAbsolute_iff : isAbsolute path = true ↔ ∃ rest, path.toList = '/' :: rest := by
  rw [isAbsolute, beq_iff_eq, List.head?_eq_some_iff]

theorem isAbsolute_join (absolute : isAbsolute path = true) (name : String) : isAbsolute (join path name) = true := by
  obtain ⟨rest, split⟩ := isAbsolute_iff.mp absolute
  rw [join]
  split
  · next other =>
    simp only [Bool.or_eq_true, beq_iff_eq] at other
    rcases other with other | rfl
    · exact other
    · cases absolute
  · split
    · rw [isAbsolute, String.toList_append, split]
      rfl
    · rw [isAbsolute, String.toList_append, String.toList_append, split]
      rfl

theorem isAbsolute_trimmed (absolute : isAbsolute path = true) (nonempty : trimmed path ≠ "") :
    isAbsolute (trimmed path) = true := by
  obtain ⟨rest, split⟩ := isAbsolute_iff.mp absolute
  obtain ⟨slashes, -, parted⟩ := trimmed_append_slashes path
  cases chars : (trimmed path).toList with
  | nil => exact absurd (String.toList_eq_nil_iff.mp chars) nonempty
  | cons c more =>
    rw [split, chars] at parted
    cases parted
    exact isAbsolute_iff.mpr ⟨more, chars⟩

/-- A path of slashes stays at the root. -/
theorem components_of_root (absolute : isAbsolute path = true) (empty : trimmed path = "") :
    components path = ["."] := by
  obtain ⟨rest, rooted⟩ := isAbsolute_iff.mp absolute
  obtain ⟨slashes, all, split⟩ := trimmed_append_slashes path
  rw [empty, String.toList_empty, List.nil_append] at split
  have others : ∀ c ∈ rest, c = '/' := fun c member => all c (split ▸ rooted ▸ List.mem_cons_of_mem _ member)
  exact components_of_slashes others (show path.toList = [] ++ '/' :: rest from rooted)

theorem isAbsolute_place (place : Place) : isAbsolute place.path = true := by
  cases place with
  | nil => rfl
  | cons name rest =>
    rw [Place.path, if_neg (by simp), List.map_cons, String.join_cons, isAbsolute, String.toList_append,
      String.toList_append]
    rfl

end Path

/-! ### Names that can be looked up -/

namespace Files

open LedgerCapture.Path (trimmed)

variable {path name : String}

theorem checkNames_eq_ok_iff :
    checkNames path = .ok () ↔
      (∀ c ∈ path.toList, c.toNat ≠ 0) ∧ ∀ name ∈ Path.components path, name.utf8ByteSize ≤ 255 := by
  unfold checkNames
  split
  · next zero =>
    simp only [List.any_eq_true, beq_iff_eq] at zero
    obtain ⟨c, member, zero⟩ := zero
    exact ⟨nofun, fun ⟨noZero, _⟩ => absurd zero (noZero c member)⟩
  · next noZero =>
    simp only [List.any_eq_true, beq_iff_eq, not_exists, not_and] at noZero
    split
    · next long =>
      simp only [List.any_eq_true, decide_eq_true_eq] at long
      obtain ⟨name, member, long⟩ := long
      exact ⟨nofun, fun ⟨_, short⟩ => absurd (short name member) (Nat.not_le_of_lt long)⟩
    · next short =>
      simp only [List.any_eq_true, decide_eq_true_eq, not_exists, not_and, Nat.not_lt] at short
      exact ⟨fun _ => ⟨noZero, short⟩, fun _ => rfl⟩

theorem checkNames_of_trimmed (nonempty : trimmed path ≠ "") (checked : checkNames (trimmed path) = .ok ()) :
    checkNames path = .ok () := by
  obtain ⟨noZero, short⟩ := checkNames_eq_ok_iff.mp checked
  obtain ⟨slashes, all, split⟩ := Path.trimmed_append_slashes path
  refine checkNames_eq_ok_iff.mpr ⟨fun c member => ?_, fun name member => ?_⟩
  · rw [split] at member
    rcases List.mem_append.mp member with member | member
    · exact noZero c member
    · rw [all c member]
      decide
  · rcases Path.components_eq_trimmed nonempty with same | dotted
    · exact short name (same ▸ member)
    · rw [dotted] at member
      rcases List.mem_append.mp member with member | member
      · exact short name member
      · rw [List.mem_singleton.mp member]
        decide

theorem checkNames_join (isName : Path.IsName name) (noZero : ∀ c ∈ name.toList, c.toNat ≠ 0)
    (short : name.utf8ByteSize ≤ 255) (nonempty : trimmed path ≠ "")
    (checked : checkNames (trimmed path) = .ok ()) : checkNames (Path.join path name) = .ok () := by
  obtain ⟨noZeroBefore, shortBefore⟩ := checkNames_eq_ok_iff.mp checked
  have named : path ≠ "" := by
    rintro rfl
    exact nonempty rfl
  obtain ⟨slashes, all, split⟩ := Path.toList_join isName named
  refine checkNames_eq_ok_iff.mpr ⟨fun c member => ?_, fun other member => ?_⟩
  · rw [split] at member
    simp only [List.mem_append, List.mem_cons] at member
    rcases member with member | rfl | member | member
    · exact noZeroBefore c member
    · decide
    · rw [all c member]
      decide
    · exact noZero c member
  · rw [Path.components_join isName nonempty] at member
    rcases List.mem_append.mp member with member | member
    · exact shortBefore other member
    · rw [List.mem_singleton.mp member]
      exact short

end Files

namespace Artifact

theorem of_mem_hexText {bytes : List UInt8} {c : Char} (member : c ∈ (Keccak.hexText bytes).toList) :
    ∃ digit : Fin 16, c = Nat.digitChar digit := by
  simp only [Keccak.hexText, String.toList_ofList, List.mem_flatMap, List.mem_cons, List.not_mem_nil,
    or_false] at member
  obtain ⟨byte, -, rfl | rfl⟩ := member
  · exact ⟨⟨byte.toNat / 16, by have := byte.toNat_lt; omega⟩, rfl⟩
  · exact ⟨⟨byte.toNat % 16, Nat.mod_lt _ (by decide)⟩, rfl⟩

theorem length_hash256 (message : List UInt8) : (Keccak.hash256 message).length = 32 := by
  simp [Keccak.hash256, Keccak.wordBytes, List.length_flatMap]

/-- A key is 64 digits. -/
theorem length_key (path : List UInt8) : (key path).toList.length = 64 := by
  simp [key, Keccak.hexText, List.length_flatMap, length_hash256]

theorem utf8Len_of_ascii {chars : List Char} (ascii : ∀ c ∈ chars, c.utf8Size = 1) :
    String.utf8Len chars = chars.length := by
  induction chars with
  | nil => rfl
  | cons c rest ih =>
    obtain ⟨first, others⟩ := List.forall_mem_cons.mp ascii
    rw [String.utf8Len_cons, first, ih others, List.length_cons]

section

variable (path : List UInt8)

theorem utf8ByteSize_key : (key path).utf8ByteSize = 64 := by
  have ascii : ∀ c ∈ (key path).toList, c.utf8Size = 1 := by
    intro c member
    obtain ⟨digit, rfl⟩ := of_mem_hexText member
    exact (by decide : ∀ digit : Fin 16, (Nat.digitChar digit).utf8Size = 1) digit
  have size := utf8Len_of_ascii ascii
  rw [← String.utf8ByteSize_ofList, String.ofList_toList, length_key] at size
  exact size

theorem ne_zero_of_mem_key {c : Char} (member : c ∈ (key path).toList) : c.toNat ≠ 0 := by
  obtain ⟨digit, rfl⟩ := of_mem_hexText member
  exact (by decide : ∀ digit : Fin 16, (Nat.digitChar digit).toNat ≠ 0) digit

theorem key_isName : Path.IsName (key path) where
  nonempty := by
    intro empty
    have size := length_key path
    rw [empty] at size
    cases size
  noSlash := by
    intro member
    obtain ⟨digit, same⟩ := of_mem_hexText member
    exact (by decide : ∀ digit : Fin 16, '/' ≠ Nat.digitChar digit) digit same

theorem key_ne_of_length {name : String} (other : name.toList.length ≠ 64) : key path ≠ name := by
  rintro rfl
  exact other (length_key path)

end

end Artifact

end LedgerCapture
