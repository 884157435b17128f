import LedgerCapture.Artifact.Basic
import LedgerCapture.Proofs.Files.Extension
import LedgerCapture.Proofs.Files.Listing
import Mathlib.Data.List.Perm.Basic

/-!
What a compiler must leave to count as an artifact: one file of bytecode and one that describes the
interface, in any order, and nothing besides. Anything else is refused, for a file of neither kind or for the
numbers of files.
-/
namespace LedgerCapture.Artifact

variable {source output bytecode interface : String} {names : List String}

theorem not_isInterfaceName_of_isBytecodeName {name : String} (isBytecode : isBytecodeName name) :
    isInterfaceName name = false := by
  simp_all [isBytecodeName, isInterfaceName]

theorem not_isBytecodeName_of_isInterfaceName {name : String} (isInterface : isInterfaceName name) :
    isBytecodeName name = false := by
  simp_all [isBytecodeName, isInterfaceName]

/-- Names of both kinds, sorted by kind. -/
theorem perm_of_known (known : ∀ name ∈ names, isBytecodeName name ∨ isInterfaceName name) :
    names.Perm (names.filter isBytecodeName ++ names.filter isInterfaceName) := by
  have others : names.filter (fun name => !isBytecodeName name) = names.filter isInterfaceName := by
    apply List.filter_congr
    intro name member
    rcases known name member with isBytecode | isInterface
    · simp [isBytecode, not_isInterfaceName_of_isBytecodeName isBytecode]
    · simp [isInterface, not_isBytecodeName_of_isInterfaceName isInterface]
  rw [← others]
  exact (List.filter_append_perm isBytecodeName names).symm

theorem filter_of_perm (isBytecode : isBytecodeName bytecode) (isInterface : isInterfaceName interface)
    (perm : names.Perm [bytecode, interface]) :
    names.filter isBytecodeName = [bytecode] ∧ names.filter isInterfaceName = [interface] := by
  have notInterface := not_isInterfaceName_of_isBytecodeName isBytecode
  have notBytecode := not_isBytecodeName_of_isInterfaceName isInterface
  constructor
  · have same := perm.filter isBytecodeName
    rwa [List.filter_cons_of_pos isBytecode, List.filter_cons_of_neg (by simp [notBytecode]), List.filter_nil,
      List.perm_singleton] at same
  · have same := perm.filter isInterfaceName
    rwa [List.filter_cons_of_neg (by simp [notInterface]), List.filter_cons_of_pos isInterface, List.filter_nil,
      List.perm_singleton] at same

theorem find?_unknown_eq_none_iff :
    names.find? (fun name => !isBytecodeName name && !isInterfaceName name) = none ↔
      ∀ name ∈ names, isBytecodeName name ∨ isInterfaceName name := by
  simp only [List.find?_eq_none, Bool.and_eq_true, Bool.not_eq_true', not_and, Bool.not_eq_false]
  refine forall₂_congr fun name _ => ?_
  cases isBytecodeName name <;> simp

/-- Names make an artifact if there are two of them, one of each kind. -/
theorem collect_eq_ok_iff {artifact : Artifact} :
    collect source output names = .ok artifact ↔
      ∃ bytecode interface, names.Perm [bytecode, interface] ∧ isBytecodeName bytecode ∧ isInterfaceName interface ∧
        artifact = ⟨source, Path.join output bytecode, Path.join output interface⟩ := by
  constructor
  · intro collected
    unfold collect at collected
    split at collected
    · cases collected
    · next none =>
      have perm := perm_of_known (find?_unknown_eq_none_iff.mp none)
      split at collected
      · next bytecode interface bytecodes interfaces =>
        cases collected
        rw [bytecodes, interfaces] at perm
        refine ⟨bytecode, interface, perm, ?_, ?_, rfl⟩
        · exact (List.mem_filter.mp (bytecodes ▸ List.mem_singleton_self bytecode)).2
        · exact (List.mem_filter.mp (interfaces ▸ List.mem_singleton_self interface)).2
      · cases collected
  · rintro ⟨bytecode, interface, perm, isBytecode, isInterface, rfl⟩
    have known : ∀ name ∈ names, isBytecodeName name ∨ isInterfaceName name := by
      intro name member
      have listed := perm.mem_iff.mp member
      simp only [List.mem_cons, List.not_mem_nil, or_false] at listed
      rcases listed with rfl | rfl
      · exact .inl isBytecode
      · exact .inr isInterface
    obtain ⟨bytecodes, interfaces⟩ := filter_of_perm isBytecode isInterface perm
    unfold collect
    rw [find?_unknown_eq_none_iff.mpr known]
    dsimp only
    rw [bytecodes, interfaces]

/-- Where every name is of one of the kinds but no artifact comes of them, they are counted. -/
theorem collect_of_known (known : ∀ name ∈ names, isBytecodeName name ∨ isInterfaceName name)
    (incomplete : ¬∃ bytecode interface,
      names.Perm [bytecode, interface] ∧ isBytecodeName bytecode ∧ isInterfaceName interface) :
    collect source output names =
      .error (.mismatch source (names.countP isBytecodeName) (names.countP isInterfaceName)) := by
  cases collected : collect source output names with
  | ok artifact =>
    obtain ⟨bytecode, interface, perm, isBytecode, isInterface, -⟩ := collect_eq_ok_iff.mp collected
    exact absurd ⟨bytecode, interface, perm, isBytecode, isInterface⟩ incomplete
  | error fault =>
    unfold collect at collected
    rw [find?_unknown_eq_none_iff.mpr known] at collected
    dsimp only at collected
    split at collected
    · cases collected
    · cases collected
      rw [List.countP_eq_length_filter, List.countP_eq_length_filter]

/-- A name of neither kind is an obstacle, and the first one is told. -/
theorem collect_of_unknown (source output : String)
    (unknown : ∃ name ∈ names, isBytecodeName name = false ∧ isInterfaceName name = false) :
    ∃ earlier name later, names = earlier ++ name :: later ∧
      (isBytecodeName name = false ∧ isInterfaceName name = false) ∧
      (∀ other ∈ earlier, isBytecodeName other ∨ isInterfaceName other) ∧
      collect source output names = .error (.unexpected (Path.join output name)) := by
  cases found : names.find? (fun name => !isBytecodeName name && !isInterfaceName name) with
  | none =>
    obtain ⟨name, member, notBytecode, notInterface⟩ := unknown
    have known := find?_unknown_eq_none_iff.mp found name member
    simp [notBytecode, notInterface] at known
  | some name =>
    obtain ⟨isUnknown, earlier, later, split, before⟩ := List.find?_eq_some_iff_append.mp found
    refine ⟨earlier, name, later, split, by simpa using isUnknown, fun other member => by simpa using before other member,
      ?_⟩
    unfold collect
    rw [found]

/-- The order of known names makes no difference. -/
theorem collect_eq_of_perm {others : List String} (known : ∀ name ∈ names, isBytecodeName name ∨ isInterfaceName name)
    (perm : names.Perm others) : collect source output names = collect source output others := by
  by_cases complete : ∃ bytecode interface,
      names.Perm [bytecode, interface] ∧ isBytecodeName bytecode ∧ isInterfaceName interface
  · obtain ⟨bytecode, interface, pair, isBytecode, isInterface⟩ := complete
    rw [collect_eq_ok_iff.mpr ⟨bytecode, interface, pair, isBytecode, isInterface, rfl⟩,
      collect_eq_ok_iff.mpr ⟨bytecode, interface, perm.symm.trans pair, isBytecode, isInterface, rfl⟩]
  · rw [collect_of_known known complete, collect_of_known (fun name member => known name (perm.mem_iff.mpr member)),
      perm.countP_eq, perm.countP_eq]
    rintro ⟨bytecode, interface, pair, kinds⟩
    exact complete ⟨bytecode, interface, perm.trans pair, kinds⟩

/-! ### A directory in any order -/

section Directory

open Files (Lists)

variable {name : String} {listing : List String} {entries : Finset String}

theorem isBytecodeName_iff (name : String) : isBytecodeName name = true ↔ Path.HasExtension name "bin" := by
  rw [isBytecodeName, beq_iff_eq, Path.extension?_eq_some_iff]

theorem isInterfaceName_iff (name : String) : isInterfaceName name = true ↔ Path.HasExtension name "abi" := by
  rw [isInterfaceName, beq_iff_eq, Path.extension?_eq_some_iff]

/-- Neither bytecode nor an interface: the name has another extension, or none. -/
def IsForeign (name : String) : Prop :=
  ¬Path.HasExtension name "bin" ∧ ¬Path.HasExtension name "abi"

instance (name : String) : Decidable (IsForeign name) :=
  inferInstanceAs (Decidable (_ ∧ _))

theorem isForeign_iff : IsForeign name ↔ isBytecodeName name = false ∧ isInterfaceName name = false := by
  rw [IsForeign, ← isBytecodeName_iff, ← isInterfaceName_iff, Bool.not_eq_true, Bool.not_eq_true]

theorem not_isForeign_iff : ¬IsForeign name ↔ isBytecodeName name ∨ isInterfaceName name := by
  rw [isForeign_iff, not_and_or, Bool.not_eq_false, Bool.not_eq_false]

theorem isForeign_of_dotFile {rest : String} (noDot : '.' ∉ rest.toList) : IsForeign ("." ++ rest) :=
  ⟨Path.not_hasExtension_of_dotFile noDot "bin", Path.not_hasExtension_of_dotFile noDot "abi"⟩

example : IsForeign ".bin" := by decide

structure ArePair (entries : Finset String) (bytecode interface : String) : Prop where
  exactly : entries = {bytecode, interface}
  isBytecode : Path.HasExtension bytecode "bin"
  isInterface : Path.HasExtension interface "abi"

theorem ne_of_hasExtension (isBytecode : Path.HasExtension bytecode "bin")
    (isInterface : Path.HasExtension interface "abi") : bytecode ≠ interface := by
  rintro rfl
  exact absurd (isBytecode.eq isInterface) (by decide)

theorem arePair_iff (lists : Lists listing entries) :
    ArePair entries bytecode interface ↔
      listing.Perm [bytecode, interface] ∧ isBytecodeName bytecode ∧ isInterfaceName interface := by
  rw [isBytecodeName_iff, isInterfaceName_iff]
  constructor
  · rintro ⟨exactly, isBytecode, isInterface⟩
    have different := ne_of_hasExtension isBytecode isInterface
    exact ⟨(lists.perm_pair_iff different).mpr exactly, isBytecode, isInterface⟩
  · rintro ⟨perm, isBytecode, isInterface⟩
    have different := ne_of_hasExtension isBytecode isInterface
    exact ⟨(lists.perm_pair_iff different).mp perm, isBytecode, isInterface⟩

theorem known_of_lists (lists : Lists listing entries) (known : ∀ name ∈ entries, ¬IsForeign name) :
    ∀ name ∈ listing, isBytecodeName name ∨ isInterfaceName name := by
  intro name member
  exact not_isForeign_iff.mp (known name ((lists.mem_iff name).mp member))

/-- What a compiler has left in its directory is one artifact, or it is refused: for an unknown file if there is any,
which is told by its name, and otherwise for the numbers of files. Without unknown files every order in which the
directory is listed leads to the same. -/
theorem collect_decided_by_entries (source output : String) (entries : Finset String) :
    (∀ files : Files, files.Distinct → files.Holds output entries →
      ∃ listing, files.list output = .ok listing ∧ Lists listing entries) ∧
    (∀ rest : String, '.' ∉ rest.toList → IsForeign ("." ++ rest)) ∧
    ∀ listing, Lists listing entries →
      (∀ artifact, collect source output listing = .ok artifact ↔
        ∃ bytecode interface, ArePair entries bytecode interface ∧
          artifact = ⟨source, Path.join output bytecode, Path.join output interface⟩) ∧
      ((∃ name ∈ entries, IsForeign name) →
        ∃ earlier name later, listing = earlier ++ name :: later ∧ name ∈ entries ∧ IsForeign name ∧
          (∀ other ∈ earlier, ¬IsForeign other) ∧
          collect source output listing = .error (.unexpected (Path.join output name))) ∧
      ((∀ name ∈ entries, ¬IsForeign name) →
        ((¬∃ bytecode interface, ArePair entries bytecode interface) →
          collect source output listing =
            .error (.mismatch source (entries.filter (Path.HasExtension · "bin")).card
              (entries.filter (Path.HasExtension · "abi")).card)) ∧
        ∀ others, Lists others entries → collect source output others = collect source output listing) := by
  refine ⟨fun files distinct holds => holds.exists_listing distinct, fun rest noDot => isForeign_of_dotFile noDot,
    fun listing lists => ⟨fun artifact => ?succeeds, fun foreign => ?unexpected, fun known => ⟨fun incomplete => ?mismatch,
      fun others more => ?order⟩⟩⟩
  case succeeds =>
    simp only [collect_eq_ok_iff, arePair_iff lists, and_assoc]
  case unexpected =>
    obtain ⟨name, member, isForeign⟩ := foreign
    obtain ⟨earlier, first, later, split, isUnknown, before, refused⟩ :=
      collect_of_unknown source output ⟨name, (lists.mem_iff name).mpr member, isForeign_iff.mp isForeign⟩
    have listed : first ∈ listing := by simp [split]
    exact ⟨earlier, first, later, split, (lists.mem_iff first).mp listed, isForeign_iff.mpr isUnknown,
      fun other isEarlier => not_isForeign_iff.mpr (before other isEarlier), refused⟩
  case mismatch =>
    rw [← lists.countP_eq_card isBytecodeName_iff, ← lists.countP_eq_card isInterfaceName_iff]
    refine collect_of_known (known_of_lists lists known) ?_
    rintro ⟨bytecode, interface, pair⟩
    exact incomplete ⟨bytecode, interface, (arePair_iff lists).mpr pair⟩
  case order =>
    exact collect_eq_of_perm (known_of_lists more known) (more.perm lists)

/-- A directory with two files of bytecode and one that describes an interface, in whatever order it is listed. -/
theorem collect_decided_by_entries_of_two_bytecodes :
    let files : Files := ⟨[(["out"], .directory), (["out", "B.bin"], .file .empty), (["out", "A.abi"], .file .empty),
      (["out", "A.bin"], .file .empty), (["out.bin"], .file .empty)], []⟩
    let entries : Finset String := {"A.bin", "A.abi", "B.bin"}
    files.Distinct ∧ files.Holds "/out" entries ∧ (∃ listing, files.list "/out" = .ok listing ∧ Lists listing entries) ∧
      (∀ name ∈ entries, ¬IsForeign name) ∧
      ∀ listing, Lists listing entries → collect "/A.sol" "/out" listing = .error (.mismatch "/A.sol" 2 1) := by
  intro files entries
  have distinct : files.Distinct := by
    unfold Files.Distinct
    decide
  have found : files.find "/out" = .ok (["out"], .directory) :=
    Files.find_of_isDirectory (by decide +kernel) (by decide +kernel)
  have names : files.namesAt ["out"] = ["B.bin", "A.abi", "A.bin"] := by
    decide
  have holds : files.Holds "/out" entries := by
    refine ⟨["out"], found, fun name => ?_⟩
    rw [← Files.mem_namesAt_iff, names]
    simp only [entries, Finset.mem_insert, Finset.mem_singleton, List.mem_cons, List.not_mem_nil, or_false]
    tauto
  have known : ∀ name ∈ entries, ¬IsForeign name := by
    decide +kernel
  have incomplete : ¬∃ bytecode interface, ArePair entries bytecode interface := by
    rintro ⟨bytecode, interface, pair⟩
    have two : entries.card ≤ 2 := pair.exactly ▸ Finset.card_le_two
    exact absurd two (by decide)
  obtain ⟨listed, -, decided⟩ := collect_decided_by_entries "/A.sol" "/out" entries
  refine ⟨distinct, holds, listed files distinct holds, known, fun listing lists => ?_⟩
  exact ((decided listing lists).2.2 known).1 incomplete

end Directory

end LedgerCapture.Artifact
