import LedgerCapture.Proofs.Registry.Sound
import Mathlib.Data.List.Induction

/-!
Registries as their history makes them: any operations in any order, of which some fail. The main
statement tells what such a registry holds and how it answers, in terms of the contracts that were ever
registered.
-/
namespace LedgerCapture

theorem eraseDups_concat {α : Type} [BEq α] [LawfulBEq α] (items : List α) (item : α) :
    (items ++ [item]).eraseDups =
      if item ∈ items then items.eraseDups else items.eraseDups ++ [item] := by
  rw [List.eraseDups_append]
  split
  · next present => simp [List.removeAll, present]
  · next absent => simp [List.removeAll, absent, List.eraseDups_cons]

namespace Registry

inductive Operation where
  | register (contract : Contract)
  | markCompiled (id : ContractId) (artifact : Artifact)
  | markDeployed (id : ContractId) (address : Ledger.Address)

namespace Operation

def perform : Operation → Registry → Except RegistryError Registry
  | register contract, registry => registry.register contract
  | markCompiled id artifact, registry => registry.markCompiled id artifact
  | markDeployed id address, registry => registry.markDeployed id address

def registers? : Operation → Option ContractId
  | register contract => some contract.id
  | _ => none

theorem perform_sound {operation : Operation} {registry after : Registry} (sound : registry.Sound)
    (done : operation.perform registry = .ok after) : after.Sound := by
  cases operation with
  | register contract => exact register_sound sound done
  | markCompiled id artifact => exact amend_sound sound (compiled_advances artifact) done
  | markDeployed id address => exact amend_sound sound (deployed_advances address) done

end Operation

/-- The registry after an operation. One that fails leaves it as it was. -/
def apply (registry : Registry) (operation : Operation) : Registry :=
  match operation.perform registry with
  | .ok after => after
  | .error _ => registry

def after (operations : List Operation) : Registry :=
  operations.foldl apply empty

def registrations (operations : List Operation) : List ContractId :=
  operations.filterMap Operation.registers?

def Reachable (registry : Registry) : Prop :=
  ∃ operations, registry = after operations

theorem after_concat (operations : List Operation) (operation : Operation) :
    after (operations ++ [operation]) = (after operations).apply operation := by
  simp [after]

theorem apply_sound {registry : Registry} (sound : registry.Sound) (operation : Operation) :
    (registry.apply operation).Sound := by
  unfold apply
  split
  · next done => exact operation.perform_sound sound done
  · exact sound

theorem after_sound (operations : List Operation) : (after operations).Sound := by
  induction operations using List.reverseRecOn with
  | nil => exact empty_sound
  | append_singleton operations operation ih =>
    rw [after_concat]
    exact apply_sound ih operation

theorem Reachable.sound {registry : Registry} (reachable : registry.Reachable) : registry.Sound := by
  obtain ⟨operations, rfl⟩ := reachable
  exact after_sound operations

/-- An operation adds at most the id that it asks to register, at the end and only if it is new. -/
theorem ids_of_apply {registry : Registry} (sound : registry.Sound) (operation : Operation) :
    (registry.apply operation).ids =
      match operation.registers? with
      | some id => if id ∈ registry.ids then registry.ids else registry.ids ++ [id]
      | none => registry.ids := by
  unfold apply
  cases operation with
  | register contract =>
    simp only [Operation.perform, Operation.registers?]
    cases done : registry.register contract with
    | ok after =>
      have fresh := ((register_eq_ok_iff sound).mp done).1
      rw [if_neg fresh]
      exact ids_of_register sound done
    | error fault =>
      have known : contract.id ∈ registry.ids := by
        by_contra fresh
        rw [(register_eq_ok_iff sound).mpr ⟨fresh, rfl⟩] at done
        cases done
      rw [if_pos known]
  | markCompiled id artifact =>
    simp only [Operation.perform, Operation.registers?]
    cases done : registry.markCompiled id artifact with
    | ok after => exact ids_of_amend sound (compiled_advances artifact) done
    | error fault => rfl
  | markDeployed id address =>
    simp only [Operation.perform, Operation.registers?]
    cases done : registry.markDeployed id address with
    | ok after => exact ids_of_amend sound (deployed_advances address) done
    | error fault => rfl

theorem ids_after (operations : List Operation) :
    (after operations).ids = (registrations operations).eraseDups := by
  induction operations using List.reverseRecOn with
  | nil => rfl
  | append_singleton operations operation ih =>
    rw [after_concat, ids_of_apply (after_sound operations), registrations, List.filterMap_append,
      ← registrations]
    cases asked : operation.registers? with
    | none => simpa [asked, registrations] using ih
    | some id =>
      rw [List.filterMap_cons_some asked, List.filterMap_nil, eraseDups_concat]
      simp only [ih, List.mem_eraseDups]

/-! ### Registries of contracts -/

/-- Contracts have just been registered, and nothing else has been done. -/
structure Fresh (registry : Registry) (contracts : List Contract) : Prop where
  sound : registry.Sound
  entries : registry.entries = contracts.map Entry.ofContract

namespace Fresh

variable {registry : Registry} {contracts : List Contract} {id : ContractId}

theorem ids_eq (fresh : registry.Fresh contracts) : registry.ids = contracts.map (·.id) := by
  rw [ids, fresh.entries, List.map_map]
  rfl

theorem not_deployed (fresh : registry.Fresh contracts) (found : Ledger.Address × Artifact) :
    registry.deployed id ≠ .ok found := by
  intro deployed
  obtain ⟨entry, present, progress⟩ := deployed_eq_ok_iff.mp deployed
  have member := ((get_eq_ok_iff fresh.sound).mp present).1
  rw [fresh.entries] at member
  obtain ⟨contract, -, rfl⟩ := List.mem_map.mp member
  cases progress

theorem pending_eq (fresh : registry.Fresh contracts) : registry.pending = contracts.map (·.id) := by
  have all : (contracts.map Entry.ofContract).filter (!·.isDeployed) = contracts.map Entry.ofContract := by
    apply List.filter_eq_self.mpr
    intro entry member
    obtain ⟨contract, -, rfl⟩ := List.mem_map.mp member
    rfl
  rw [pending, fresh.entries, all, List.map_map]
  rfl

end Fresh

theorem ofContracts_concat (contracts : List Contract) (contract : Contract) :
    ofContracts (contracts ++ [contract]) = ofContracts contracts >>= (·.register contract) := by
  simp only [ofContracts, List.foldlM_append, List.foldlM_cons, List.foldlM_nil, bind_pure]

theorem ofContracts_fresh {contracts : List Contract} {registry : Registry}
    (made : ofContracts contracts = .ok registry) : registry.Fresh contracts := by
  induction contracts using List.reverseRecOn generalizing registry with
  | nil =>
    cases made
    exact ⟨empty_sound, rfl⟩
  | append_singleton contracts contract ih =>
    rw [ofContracts_concat] at made
    cases before : ofContracts contracts with
    | error fault => rw [before] at made; cases made
    | ok earlier =>
      rw [before] at made
      have registered : earlier.register contract = .ok registry := made
      have known := ih before
      refine ⟨register_sound known.sound registered, ?_⟩
      rw [((register_eq_ok_iff known.sound).mp registered).2, known.entries, List.map_append]
      rfl

theorem exists_ofContracts {contracts : List Contract} (distinct : (contracts.map (·.id)).Nodup) :
    ∃ registry, ofContracts contracts = .ok registry := by
  induction contracts using List.reverseRecOn with
  | nil => exact ⟨empty, rfl⟩
  | append_singleton contracts contract ih =>
    rw [List.map_append, List.nodup_append] at distinct
    obtain ⟨earlier, made⟩ := ih distinct.1
    have known := ofContracts_fresh made
    have new : contract.id ∉ earlier.ids := by
      rw [known.ids_eq]
      intro member
      exact distinct.2.2 contract.id member contract.id (by simp) rfl
    have registered := (register_eq_ok_iff known.sound).mpr ⟨new, rfl⟩
    exact ⟨_, by rw [ofContracts_concat, made]; exact registered⟩

/-! ### What the history tells -/

/-- What a registry holds after some operations, and how it answers. -/
structure Records (operations : List Operation) (registry : Registry) : Prop where
  /-- The entries stand in the order of their registration. -/
  order : registry.ids = (registrations operations).eraseDups
  distinct : registry.ids.Nodup
  /-- The index knows the registered ids, each with the place of its entry, and no others. -/
  indexed : ∀ id place, registry.index.lookup id = some place ↔
    ∃ entry, registry.entries[place]? = some entry ∧ entry.id = id
  known : ∀ id, (registry.index.lookup id).isSome ↔ id ∈ registrations operations
  found : ∀ id entry, registry.get id = .ok entry ↔ entry ∈ registry.entries ∧ entry.id = id
  foundIff : ∀ id, (∃ entry, registry.get id = .ok entry) ↔ id ∈ registrations operations
  artifact : ∀ entry ∈ registry.entries, entry.progress.artifact?.isSome ↔
    entry.progress.phase = .compiled ∨ entry.progress.phase = .deployed
  address : ∀ entry ∈ registry.entries, entry.progress.address?.isSome ↔
    entry.progress.phase = .deployed
  deployed : ∀ id, (∃ found, registry.deployed id = .ok found) ↔
    ∃ entry, registry.get id = .ok entry ∧ entry.progress.phase = .deployed
  /-- What is pending is what has not been deployed, in the order of registration. -/
  pending : ∀ id, id ∈ registry.pending ↔
    ∃ entry, registry.get id = .ok entry ∧ entry.progress.phase ≠ .deployed
  pendingOrder : registry.pending.Sublist registry.ids
  pendingDistinct : registry.pending.Nodup

/-- Whatever is done to a registry, and whatever of it fails, its entries, its index and what has been
noted of each contract stay in step. -/
theorem after_records (operations : List Operation) : Records operations (after operations) := by
  have sound := after_sound operations
  have order := ids_after operations
  have members : ∀ id, id ∈ (after operations).ids ↔ id ∈ registrations operations := by
    intro id
    rw [order, List.mem_eraseDups]
  exact {
    order := order
    distinct := sound.distinct
    indexed := fun id place => by
      rw [sound.indexed, ids, List.getElem?_map, Option.map_eq_some_iff]
    known := fun id => (contains_iff sound).trans (members id)
    found := fun id entry => get_eq_ok_iff sound
    foundIff := fun id => (exists_get_iff sound).trans (members id)
    artifact := fun entry member => (sound.consistent entry member).artifact
    address := fun entry member => (sound.consistent entry member).address
    deployed := fun id => exists_deployed_iff sound
    pending := fun id => mem_pending_iff sound
    pendingOrder := pending_sublist
    pendingDistinct := sound.distinct.sublist pending_sublist }

end Registry

end LedgerCapture
