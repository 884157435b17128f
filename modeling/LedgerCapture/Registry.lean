import LedgerCapture.Artifact.Basic
import LedgerCapture.Contract
import LedgerCapture.Ledger.Address

/-!
The contracts of a run and how far each of them is: registered, then compiled, then deployed. A deployed
contract stays as it is.
-/
namespace LedgerCapture

inductive Phase where
  | registered
  | compiled
  | deployed
  deriving DecidableEq, Repr

namespace Phase

def text : Phase → String
  | registered => "registered"
  | compiled => "compiled"
  | deployed => "deployed"

def next : Phase → List Phase
  | registered => [compiled]
  | compiled => [deployed]
  | deployed => []

end Phase

/-- How far a contract is, and what has been noted of it on the way. -/
structure Progress where
  phase : Phase
  artifact? : Option Artifact
  address? : Option Ledger.Address
  deriving DecidableEq

structure Registry.Entry where
  contract : Contract
  progress : Progress
  deriving DecidableEq

inductive RegistryError where
  | duplicateContract (id : ContractId)
  | unknownContract (id : ContractId)
  | notDeployed (id : ContractId)
  | alreadyDeployed (id : ContractId)
  | invalidTransition (id : ContractId) (source target : Phase)
  deriving DecidableEq, Repr

def RegistryError.message : RegistryError → String
  | duplicateContract id => "Duplicated contract id: " ++ id.text
  | unknownContract id => "Contract id " ++ id.text ++ " is not defined"
  | notDeployed id => "Contract id " ++ id.text ++ " is not deployed"
  | alreadyDeployed id => "Contract id " ++ id.text ++ " is already deployed"
  | invalidTransition id source target =>
    "Invalid state transition for contract " ++ id.text ++ " from " ++ source.text ++ " to " ++ target.text

namespace Registry.Entry

def ofContract (contract : Contract) : Entry :=
  ⟨contract, ⟨.registered, none, none⟩⟩

def id (entry : Entry) : ContractId :=
  entry.contract.id

def isDeployed (entry : Entry) : Bool :=
  entry.progress.phase == .deployed

def enter (entry : Entry) (target : Phase) : Except RegistryError Entry :=
  if target ∈ entry.progress.phase.next then .ok { entry with progress.phase := target }
  else if entry.progress.phase = .deployed then .error (.alreadyDeployed entry.id)
  else .error (.invalidTransition entry.id entry.progress.phase target)

def compiled (artifact : Artifact) (entry : Entry) : Except RegistryError Entry := do
  return { ← entry.enter .compiled with progress.artifact? := some artifact }

def deployed (address : Ledger.Address) (entry : Entry) : Except RegistryError Entry := do
  return { ← entry.enter .deployed with progress.address? := some address }

end Registry.Entry

/-- The contracts of a run in the order of their registration. The index tells the place of each. -/
structure Registry where
  entries : List Registry.Entry
  index : List (ContractId × Nat)
  deriving DecidableEq

namespace Registry

def empty : Registry := ⟨[], []⟩

def locate? (registry : Registry) (id : ContractId) : Option (Nat × Entry) := do
  let place ← registry.index.lookup id
  let entry ← registry.entries[place]?
  return (place, entry)

def contains (registry : Registry) (id : ContractId) : Bool :=
  (registry.index.lookup id).isSome

def get (registry : Registry) (id : ContractId) : Except RegistryError Entry :=
  match registry.locate? id with
  | some (_, entry) => .ok entry
  | none => .error (.unknownContract id)

def register (registry : Registry) (contract : Contract) : Except RegistryError Registry :=
  if registry.contains contract.id then .error (.duplicateContract contract.id)
  else .ok ⟨registry.entries ++ [.ofContract contract],
    (contract.id, registry.entries.length) :: registry.index⟩

def ofContracts (contracts : List Contract) : Except RegistryError Registry :=
  contracts.foldlM register empty

def pending (registry : Registry) : List ContractId :=
  (registry.entries.filter (!·.isDeployed)).map Entry.id

def deployed (registry : Registry) (id : ContractId) : Except RegistryError (Ledger.Address × Artifact) := do
  match (← registry.get id).progress with
  | ⟨.deployed, some artifact, some address⟩ => return (address, artifact)
  | _ => throw (.notDeployed id)

/-- Changes the entry of a contract, or nothing if the entry cannot be changed so. -/
def amend (registry : Registry) (id : ContractId) (change : Entry → Except RegistryError Entry) :
    Except RegistryError Registry :=
  match registry.locate? id with
  | none => .error (.unknownContract id)
  | some (place, entry) => do
    return { registry with entries := registry.entries.set place (← change entry) }

def markCompiled (registry : Registry) (id : ContractId) (artifact : Artifact) :
    Except RegistryError Registry :=
  registry.amend id (Entry.compiled artifact)

def markDeployed (registry : Registry) (id : ContractId) (address : Ledger.Address) :
    Except RegistryError Registry :=
  registry.amend id (Entry.deployed address)

end Registry

end LedgerCapture
