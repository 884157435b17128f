import LedgerCapture.Proofs.Artifact.History
import LedgerCapture.Proofs.Files.Path
import LedgerCapture.Proofs.Text.Utf8
import LedgerCapture.Rehearsal.Compiler
import LedgerCapture.Rehearsal.Outside

/-!
What the key of a source tells apart. Paths that are texts are hashed as they are, so that a request is only answered
with what was made of its own source, as far as the hashes tell the paths apart. Of a path that is no text only the
text that it shows is hashed, and another path may show the same.
-/
namespace LedgerCapture

namespace Text

def IsText (bytes : List UInt8) : Prop :=
  ∃ text : String, text.toUTF8.toList = bytes

theorem ofList_decodeLossy_toUTF8 (text : String) : String.ofList (decodeLossy text.toUTF8.toList) = text :=
  lossy_toUTF8 text

theorem toUTF8_toList_injective {text other : String} (same : text.toUTF8.toList = other.toUTF8.toList) :
    text = other := by
  rw [← ofList_decodeLossy_toUTF8 text, same, ofList_decodeLossy_toUTF8]

end Text

namespace Artifact

open Text (IsText)

variable {path other : List UInt8}

/-! ### What is hashed -/

theorem isText_keyBytes (path : List UInt8) : IsText (keyBytes path) :=
  ⟨_, rfl⟩

theorem keyBytes_eq_self_iff : keyBytes path = path ↔ IsText path := by
  constructor
  · intro same
    exact same ▸ isText_keyBytes path
  · rintro ⟨text, rfl⟩
    rw [keyBytes, Text.ofList_decodeLossy_toUTF8]

/-- Texts are hashed as they are. Any other path shares what is hashed with a text that is not the path. -/
theorem keyBytes_shared_iff :
    (∃ other, IsText other ∧ other ≠ path ∧ keyBytes other = keyBytes path) ↔ ¬IsText path := by
  constructor
  · rintro ⟨other, isText, different, same⟩ isTextToo
    rw [keyBytes_eq_self_iff.mpr isText, keyBytes_eq_self_iff.mpr isTextToo] at same
    exact different same
  · intro noText
    exact ⟨keyBytes path, isText_keyBytes path, fun same => noText (keyBytes_eq_self_iff.mp same),
      keyBytes_eq_self_iff.mpr (isText_keyBytes path)⟩

/-- Two files with names that are no texts, and that show the same. -/
theorem keyBytes_of_broken_names :
    ([0x2F, 0xFE, 0x2E, 0x73, 0x6F, 0x6C] : List UInt8) ≠ [0x2F, 0xFF, 0x2E, 0x73, 0x6F, 0x6C] ∧
      keyBytes [0x2F, 0xFE, 0x2E, 0x73, 0x6F, 0x6C] = keyBytes [0x2F, 0xFF, 0x2E, 0x73, 0x6F, 0x6C] := by
  decide +kernel

theorem digitChar_injective {digit another : Nat} (small : digit < 16) (smallToo : another < 16)
    (same : Nat.digitChar digit = Nat.digitChar another) : digit = another :=
  congrArg Fin.val ((by decide : ∀ digit another : Fin 16, Nat.digitChar digit = Nat.digitChar another →
    digit = another) ⟨digit, small⟩ ⟨another, smallToo⟩ same)

theorem hexText_injective {bytes more : List UInt8} (same : Keccak.hexText bytes = Keccak.hexText more) :
    bytes = more := by
  have digits := congrArg String.toList same
  rw [Keccak.hexText, Keccak.hexText, String.toList_ofList, String.toList_ofList] at digits
  clear same
  induction bytes generalizing more with
  | nil =>
    cases more with
    | nil => rfl
    | cons byte rest => cases digits
  | cons byte rest ih =>
    cases more with
    | nil => cases digits
    | cons other others =>
      obtain ⟨first, digits⟩ := List.cons.inj digits
      obtain ⟨second, digits⟩ := List.cons.inj digits
      have inRange := byte.toNat_lt
      have inRangeToo := other.toNat_lt
      have high := digitChar_injective (by omega) (by omega) first
      have low := digitChar_injective (by omega) (by omega) second
      have whole : byte = other := UInt8.toNat_inj.mp (by omega)
      rw [whole, ih digits]

/-- Sources with the same key have the same hash. -/
theorem hash256_eq_of_keyOfText {source another : String} (same : keyOfText source = keyOfText another) :
    Keccak.hash256 (keyBytes source.toUTF8.toList) = Keccak.hash256 (keyBytes another.toUTF8.toList) :=
  hexText_injective same

end Artifact

/-! ### What is answered -/

/-- The hashes tell apart what is hashed for the paths that the requests led to. -/
def HashesApart (history : List Served) : Prop :=
  ∀ first ∈ history, ∀ later ∈ history, ∀ path other, first.Resolves path → later.Resolves other →
    Keccak.hash256 (Artifact.keyBytes path.toUTF8.toList) = Keccak.hash256 (Artifact.keyBytes other.toUTF8.toList) →
    Artifact.keyBytes path.toUTF8.toList = Artifact.keyBytes other.toUTF8.toList

/-- The artifact that a request is answered with was made of the source that it led to, unless two different paths
have the same hash. What is hashed differs for different paths, as long as they are texts. -/
theorem answered_from_own_source (compiler : Compiler) (scope : Scope) (registry : Registry) (outside : Outside)
    (world : World) (requests : List Request)
    (apart : HashesApart (serve outside ⟨registry, .empty compiler scope⟩ world requests)) :
    (∀ path, (∃ other, Text.IsText other ∧ other ≠ path ∧ Artifact.keyBytes other = Artifact.keyBytes path) ↔
      ¬Text.IsText path) ∧
    ∀ past served rest, serve outside ⟨registry, .empty compiler scope⟩ world requests = past ++ served :: rest →
      ∀ path artifact, served.Resolves path → served.result = .ok artifact →
        artifact.source = path ∧
          ∃ maker ∈ past ++ [served], maker.Makes (Path.join scope.path (Artifact.keyOfText path)) artifact := by
  refine ⟨fun path => Artifact.keyBytes_shared_iff, fun past served rest same path artifact resolves answered => ?_⟩
  have inHistory : ∀ maker ∈ past ++ [served],
      maker ∈ serve outside ⟨registry, .empty compiler scope⟩ world requests := by
    intro maker member
    rw [same, List.append_cons]
    exact List.mem_append_left rest member
  have member := inHistory served (List.mem_append_right past (List.mem_singleton_self served))
  have found := (done_of_mem member).lookup resolves answered
  obtain ⟨before, more, entries, -⟩ := List.lookup_eq_some_iff.mp found
  have cached : (Artifact.keyOfText path, artifact) ∈ served.after.store.cached :=
    entries ▸ List.mem_append_right before (List.mem_cons_self ..)
  rcases cached_of_eq same cached with earlier | ⟨maker, made, key, makes⟩
  · cases earlier
  · have bytes := apart served member maker (inHistory maker made) path artifact.source resolves makes.2.1
      (Artifact.hash256_eq_of_keyOfText key)
    rw [Artifact.keyBytes_eq_self_iff.mpr ⟨path, rfl⟩, Artifact.keyBytes_eq_self_iff.mpr ⟨artifact.source, rfl⟩] at bytes
    exact ⟨(Text.toUTF8_toList_injective bytes).symm, maker, made, makes⟩

theorem Served.resolves_ofRequest_iff {source path : String} {session : Session} {outside : Outside} {world : World} :
    (ofRequest source session outside world).Resolves path ↔
      ∃ place : Place, world.files.canonical source = .ok place ∧ place.path = path :=
  Iff.rfl

/-- Two sources, of which the second one is asked for after the files were put back as they had been. -/
def twoSources (world : World) : List Request :=
  [⟨"A.sol", fun _ => world⟩, ⟨"./B.sol", fun _ => world⟩]

theorem answered_from_own_source_of_two :
    let files : Files := ⟨[(["A.sol"], .file .empty), (["B.sol"], .file .empty), (["scope"], .directory)], []⟩
    let history := serve (Rehearsal.outside files "/tmp" [])
      ⟨.empty, .empty (Rehearsal.compiler []) ⟨"/scope", ["scope"]⟩⟩ ⟨files, []⟩ (twoSources ⟨files, []⟩)
    HashesApart history ∧ ∀ served ∈ history, ∀ path artifact, served.Resolves path →
      served.result = .ok artifact → artifact.source = path := by
  intro files history
  have found : ∀ served ∈ history, ∀ path, served.Resolves path → path = "/A.sol" ∨ path = "/B.sol" := by
    have resolved : files.canonical "A.sol" = .ok ["A.sol"] ∧ files.canonical "./B.sol" = .ok ["B.sol"] := by
      decide +kernel
    intro served member path leads
    rcases List.mem_cons.mp member with rfl | member
    · obtain ⟨place, canonical, rfl⟩ := Served.resolves_ofRequest_iff.mp leads
      cases resolved.1.symm.trans canonical
      exact .inl (by decide +kernel)
    · obtain rfl := List.mem_singleton.mp member
      obtain ⟨place, canonical, rfl⟩ := Served.resolves_ofRequest_iff.mp leads
      cases resolved.2.symm.trans canonical
      exact .inr (by decide +kernel)
  have hashes : Keccak.hash256 (Artifact.keyBytes "/A.sol".toUTF8.toList) ≠
      Keccak.hash256 (Artifact.keyBytes "/B.sol".toUTF8.toList) := by
    decide +kernel
  have apart : HashesApart history := by
    intro first memberFirst later memberLater path other leads leadsLater same
    rcases found first memberFirst path leads with rfl | rfl <;>
      rcases found later memberLater other leadsLater with rfl | rfl
    · rfl
    · exact absurd same hashes
    · exact absurd same.symm hashes
    · rfl
  refine ⟨apart, fun served member path artifact leads answered => ?_⟩
  obtain ⟨past, rest, same⟩ := List.append_of_mem member
  exact ((answered_from_own_source _ _ _ _ _ _ apart).2 past served rest same path artifact leads answered).1

end LedgerCapture
