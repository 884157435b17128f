import LedgerCapture.Proofs.Config.Block
import LedgerCapture.Proofs.Engine.Capture

/-!
Which faults of the registry a capture can report. A block configuration that was accepted has each number
once, and the stages ask the registry only for what the stages before them have done.
-/
namespace LedgerCapture

def Run.FailsWith {ε α : Type} (blame : ε → Prop) (run : Run ε α) : Prop :=
  ∀ outside world fault final, run outside world = (.error fault, final) → blame fault

namespace Run.FailsWith

variable {ε ε' α β : Type} {blame : ε → Prop}

theorem pure (value : α) : Run.FailsWith blame (Pure.pure value : Run ε α) := by
  intro outside world fault final ran
  cases ran

theorem bind {first : Run ε α} {next : α → Run ε β} (fails : Run.FailsWith blame first)
    (failsNext : ∀ value, Run.FailsWith blame (next value)) : Run.FailsWith blame (first >>= next) := by
  intro outside world fault final ran
  cases before : first outside world with
  | mk result between =>
    cases result with
    | error earlier =>
      rw [Run.bind_of_error before] at ran
      cases ran
      exact fails outside world fault final before
    | ok value =>
      rw [Run.bind_of_ok before] at ran
      exact failsNext value outside between fault final ran

theorem mapError {change : ε' → ε} (blamed : ∀ fault, blame (change fault)) (run : Run ε' α) :
    Run.FailsWith blame (run.mapError change) := by
  intro outside world fault final ran
  cases before : run outside world with
  | mk result between =>
    cases result with
    | error earlier =>
      rw [Run.mapError_of_error before] at ran
      cases ran
      exact blamed earlier
    | ok value =>
      rw [Run.mapError_of_ok before] at ran
      cases ran

end Run.FailsWith

/-- A failure with no fault of the registry behind it. -/
def EngineError.Harmless (error : EngineError) : Prop :=
  error.registryFault? = none

namespace Engine

variable {engine : Engine} {request : CaptureRequest} {scope : Scope} {outside : Outside} {world final : World}

/-- What holds of all that can go wrong with the outside behind the outputs. -/
structure Outer (blame : EngineError → Prop) : Prop where
  gateway : ∀ fault, blame (.gateway fault)
  artifact : ∀ fault, blame (.artifact fault)
  output : ∀ fault, blame (.output fault)

/-- What holds of all that can go wrong behind the outputs, apart from the registry. -/
structure Outward (blame : EngineError → Prop) : Prop extends Outer blame where
  format : ∀ fault, blame (.format fault)

theorem harmless_outward : Outward EngineError.Harmless :=
  ⟨⟨fun _ => rfl, fun _ => rfl, fun _ => rfl⟩, fun _ => rfl⟩

section

variable {blame : EngineError → Prop}

section

variable (outer : Outer blame)
include outer

theorem fetchBlock_failsWith (engine : Engine) (request : CaptureRequest) (location : Ledger.Location) :
    Run.FailsWith blame (engine.fetchBlock request location) := by
  unfold fetchBlock
  split
  · exact Run.FailsWith.bind (Run.FailsWith.mapError outer.gateway _) fun _ => Run.FailsWith.pure _
  · exact Run.FailsWith.pure _

theorem writeBlockFile_failsWith (request : CaptureRequest) (block : Option Json) :
    Run.FailsWith blame (writeBlockFile request block) := by
  unfold writeBlockFile
  split
  · exact Run.FailsWith.bind (Run.FailsWith.mapError outer.output _) fun _ => Run.FailsWith.pure _
  · exact Run.FailsWith.pure _

theorem writeStateFile_failsWith (engine : Engine) (request : CaptureRequest) (last : LastCall)
    (location : Ledger.Location) :
    Run.FailsWith blame (engine.writeStateFile request last location) := by
  unfold writeStateFile
  split
  · apply Run.FailsWith.bind (Run.FailsWith.mapError outer.gateway _)
    intro state
    exact Run.FailsWith.bind (Run.FailsWith.mapError outer.output _) fun _ => Run.FailsWith.pure _
  · exact Run.FailsWith.pure _

end

variable (outward : Outward blame)
include outward

/-- The legacy files are written for the contract of the last call, which is deployed. -/
theorem writeLegacyFiles_failsWith {registry : Registry} {last : LastCall}
    {found : Ledger.Address × Artifact} (engine : Engine) (request : CaptureRequest)
    (block : Option Json) (deployed : registry.deployed last.contract = .ok found) :
    Run.FailsWith blame (engine.writeLegacyFiles request registry last block) := by
  unfold writeLegacyFiles
  split
  · rw [deployed]
    apply Run.FailsWith.bind
    · intro outside world fault final ran
      cases ran
    intro found
    apply Run.FailsWith.bind (Run.FailsWith.mapError outward.artifact _)
    intro bytecode
    apply Run.FailsWith.bind (Run.FailsWith.mapError outward.gateway _)
    intro wallet
    apply Run.FailsWith.bind (Run.FailsWith.mapError outward.output _)
    intro _
    apply Run.FailsWith.bind (Run.FailsWith.mapError outward.format _)
    intro legacy
    exact Run.FailsWith.bind (Run.FailsWith.mapError outward.output _) fun _ => Run.FailsWith.pure _
  · exact Run.FailsWith.pure _

theorem writeOutputs_failsWith {registry : Registry} {last : LastCall}
    {found : Ledger.Address × Artifact} (engine : Engine) (request : CaptureRequest)
    (location : Ledger.Location) (deployed : registry.deployed last.contract = .ok found) :
    Run.FailsWith blame (engine.writeOutputs request registry last location) := by
  apply Run.FailsWith.bind (fetchBlock_failsWith outward.toOuter engine request location)
  intro block
  apply Run.FailsWith.bind (writeBlockFile_failsWith outward.toOuter request block)
  intro blockFiles
  apply Run.FailsWith.bind (writeStateFile_failsWith outward.toOuter engine request last location)
  intro stateFiles
  exact Run.FailsWith.bind (writeLegacyFiles_failsWith outward engine request block deployed)
    fun _ => Run.FailsWith.pure _

end

theorem Staged.registryFault {error : EngineError} {fault : RegistryError}
    (distinct : (request.block.contracts.map (·.id)).Nodup)
    (staged : Staged engine request scope outside world (.error error) final)
    (blamed : error.registryFault? = some fault) :
    ∃ call ∈ request.block.calls, fault = .unknownContract call.contract ∧
      call.contract ∉ request.block.contracts.map (·.id) := by
  generalize same : (Except.error error : Except EngineError Report) = result at staged
  cases staged with
  | unregistered refused =>
    obtain ⟨registry, made⟩ := Registry.exists_ofContracts distinct
    rw [refused] at made
    cases made
  | unreplayed made ran =>
    cases same
    obtain ⟨steps, ids, replayed⟩ := replayed_of_ran made ran
    exact replayed.fault error fault rfl blamed
  | uncalled made ran =>
    cases same
    cases blamed
  | unfetched made ran answered =>
    cases same
    cases blamed
  | lost made ran answered absent =>
    cases same
    cases blamed
  | @located registry last session between fetched final receipt execution files made ran answered present
      written =>
    obtain ⟨steps, ids, replayed⟩ := replayed_of_ran made ran
    obtain ⟨call, artifact, -, -, contract, deployed⟩ := replayed.handle last rfl
    rw [← contract] at deployed
    cases files with
    | ok files => cases same
    | error error =>
      cases same
      have harmless := writeOutputs_failsWith harmless_outward engine request execution.location deployed
        outside fetched error final written
      rw [EngineError.Harmless, blamed] at harmless
      cases harmless

theorem outcome_eq_error {α : Type} {worked : Except EngineError α} {stopped : Except NodeError Unit}
    {error : EngineError} (same : outcome worked stopped = .error error) :
    worked = .error error ∨ ∃ fault, error = .node fault := by
  cases worked with
  | error earlier => exact .inl same
  | ok value =>
    cases stopped with
    | error fault => exact .inr ⟨fault, (Except.error.inj same).symm⟩
    | ok done => cases same

/-- A capture of an accepted block configuration reports a fault of the registry only for a call of a
contract that is not listed. -/
theorem capture_registryFault (engine : Engine) (request : CaptureRequest) (outside : Outside)
    (world : World) {text : String} {error : EngineError} {fault : RegistryError}
    (accepted : BlockConfig.parse text = .ok request.block)
    (failed : (engine.capture request outside world).1 = .error error)
    (blamed : error.registryFault? = some fault) :
    ∃ call ∈ request.block.calls, fault = .unknownContract call.contract ∧
      call.contract ∉ request.block.contracts.map (·.id) := by
  obtain ⟨result, final, ran, goes⟩ := engine.withNode_cases (engine.captureWork request) outside world
  rw [capture, ran] at failed
  generalize failed' : result = result' at goes
  cases goes with
  | unready silent =>
    cases failed'
    cases failed
    cases blamed
  | @worked start finish final worked stopped before work after =>
    subst failed'
    rcases outcome_eq_error failed with same | ⟨cause, rfl⟩
    · subst same
      rcases engine.captureWork_cases request outside start with ⟨cause, between, again, -⟩ |
        ⟨scope, opened, result, closing, closed, again, -, staged, -⟩
      · rw [work] at again
        cases again
        cases blamed
      · rw [work] at again
        cases again
        exact staged.registryFault (BlockConfig.ids_nodup_of_parse accepted) blamed
    · cases blamed

/-- The list has no contract at all. -/
theorem capture_of_unlisted_contract :
    let text := "\x7b\"contracts\": [], \"transactions\": [\x7b\"contractId\": 7, \"methodName\": \"mint\"\x7d]\x7d"
    let call : Call := ⟨⟨7⟩, "mint", []⟩
    let engine : Engine :=
      ⟨⟨⟨false, "nil", [], ⟨500, 1⟩, 0⟩, ⟨"", "wallet", "lookup", []⟩, ⟨"solc", []⟩, none, .lazy, {}⟩,
        Rehearsal.gateway [], Rehearsal.compiler []⟩
    let request : CaptureRequest := ⟨⟨[], [call]⟩, .lazy, none, none, none⟩
    let files : Files := ⟨[(["tmp"], .directory)], []⟩
    let run := engine.capture request (Rehearsal.outside files "/tmp" []) ⟨files, []⟩
    let error : EngineError := .submission (.registry (.unknownContract ⟨7⟩))
    BlockConfig.parse text = .ok request.block ∧ run.1 = .error error ∧
      ∃ called ∈ request.block.calls, RegistryError.unknownContract ⟨7⟩ = .unknownContract called.contract ∧
        called.contract ∉ request.block.contracts.map (·.id) := by
  intro text call engine request files run error
  have accepted : BlockConfig.parse text = .ok request.block := by decide +kernel
  have failed : run.1 = .error error := by decide +kernel
  exact ⟨accepted, failed, capture_registryFault engine request _ _ accepted failed rfl⟩

end Engine

end LedgerCapture
