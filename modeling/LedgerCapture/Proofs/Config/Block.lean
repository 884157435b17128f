import LedgerCapture.Config.Block
import LedgerCapture.Proofs.Result
import Mathlib.Data.List.Basic

/-!
What a block configuration that was accepted can be relied on for.
-/
namespace LedgerCapture

namespace BlockConfig

theorem duplicate?_eq_none_iff (seen : List ContractId) (contracts : List Contract) :
    duplicate? seen contracts = none ↔
      (contracts.map (·.id)).Nodup ∧ ∀ contract ∈ contracts, contract.id ∉ seen := by
  induction contracts generalizing seen with
  | nil => simp [duplicate?]
  | cons contract rest ih =>
    unfold duplicate?
    by_cases known : contract.id ∈ seen
    · simp [known]
    · rw [if_neg known, ih, List.map_cons, List.nodup_cons]
      constructor
      · rintro ⟨distinct, apart⟩
        refine ⟨⟨?_, distinct⟩, ?_⟩
        · intro member
          obtain ⟨other, there, same⟩ := List.mem_map.mp member
          exact apart other there (by rw [same]; exact List.mem_cons_self ..)
        · intro other member
          rcases List.mem_cons.mp member with rfl | member
          · exact known
          · exact fun old => apart other member (List.mem_cons_of_mem _ old)
      · rintro ⟨⟨new, distinct⟩, apart⟩
        refine ⟨distinct, fun other member old => ?_⟩
        rcases List.mem_cons.mp old with same | old
        · exact new (same ▸ List.mem_map_of_mem member)
        · exact apart other (List.mem_cons_of_mem _ member) old

theorem exists_of_duplicate? {seen : List ContractId} {contracts : List Contract} {id : ContractId}
    (repeated : duplicate? seen contracts = some id) :
    ∃ before contract after, contracts = before ++ contract :: after ∧ contract.id = id ∧
      duplicate? seen before = none ∧ (id ∈ seen ∨ id ∈ before.map (·.id)) := by
  induction contracts generalizing seen with
  | nil => cases repeated
  | cons contract rest ih =>
    unfold duplicate? at repeated
    by_cases known : contract.id ∈ seen
    · rw [if_pos known] at repeated
      cases repeated
      exact ⟨[], contract, rest, rfl, rfl, rfl, .inl known⟩
    · rw [if_neg known] at repeated
      obtain ⟨before, other, after, rfl, rfl, new, old⟩ := ih repeated
      refine ⟨contract :: before, other, after, rfl, rfl, by rw [duplicate?, if_neg known, new], ?_⟩
      rcases old with old | old
      · exact (List.mem_cons.mp old).elim (fun same => .inr (same ▸ List.mem_cons_self ..)) .inl
      · exact .inr (List.mem_cons_of_mem _ old)

theorem ids_nodup_of_ofDocument {document : Json} {config : BlockConfig}
    (accepted : ofDocument document = .ok config) : (config.contracts.map (·.id)).Nodup := by
  unfold ofDocument at accepted
  obtain ⟨-, -, accepted⟩ := bind_eq_ok_iff.mp accepted
  obtain ⟨read, -, accepted⟩ := bind_eq_ok_iff.mp accepted
  cases repeated : duplicate? [] read.contracts with
  | some id => rw [repeated] at accepted; cases accepted
  | none =>
    rw [repeated] at accepted
    cases accepted
    exact ((duplicate?_eq_none_iff [] _).mp repeated).1

theorem ids_nodup_of_parse {text : String} {config : BlockConfig} (accepted : parse text = .ok config) :
    (config.contracts.map (·.id)).Nodup := by
  obtain ⟨document, -, read⟩ := bind_eq_ok_iff.mp accepted
  exact ids_nodup_of_ofDocument read

end BlockConfig

end LedgerCapture
