import LedgerCapture.Proofs.Engine.Fault
import LedgerCapture.Proofs.Session

/-!
The classes of failures. The configuration is blamed for a list of contracts that has a number twice, and the
registry is made only when the node is up; that no accepted list comes so far is what has to be shown.
-/
namespace LedgerCapture

namespace EngineError

/-- A failure that the configuration is not blamed for. -/
def Operational (error : EngineError) : Prop :=
  error.category ≠ .configuration

theorem registryFault_of_category {error : EngineError} (configuration : error.category = .configuration)
    (read : ∀ fault, error ≠ .config fault) :
    ∃ id, error.registryFault? = some (.duplicateContract id) := by
  have duplicate : ∀ {fault : RegistryError}, fault.category = .configuration →
      ∃ id, fault = .duplicateContract id := by
    intro fault same
    cases fault with
    | duplicateContract id => exact ⟨id, rfl⟩
    | _ => cases same
  have ofDeployment : ∀ {fault : DeploymentError}, fault.category = .configuration →
      ∃ id, fault.registryFault? = some (.duplicateContract id) := by
    intro fault same
    cases fault with
    | registry fault =>
      obtain ⟨id, rfl⟩ := duplicate same
      exact ⟨id, rfl⟩
    | _ => cases same
  cases error with
  | config fault => exact absurd rfl (read fault)
  | registry fault =>
    obtain ⟨id, rfl⟩ := duplicate configuration
    exact ⟨id, rfl⟩
  | deployment fault => exact ofDeployment configuration
  | submission fault =>
    cases fault with
    | registry fault =>
      obtain ⟨id, rfl⟩ := duplicate configuration
      exact ⟨id, rfl⟩
    | deployment fault => exact ofDeployment configuration
    | gateway index method fault => cases configuration
  | resolve fault => cases fault <;> cases configuration
  | _ => cases configuration

end EngineError

namespace Engine

variable {engine : Engine} {request : CaptureRequest}

theorem operational_outward : Outward EngineError.Operational :=
  ⟨⟨fun _ => nofun, fun _ => nofun, fun _ => nofun⟩, fun _ => nofun⟩

/-- The block configuration was read before the replay. -/
theorem replay_failsWith (engine : Engine) (request : CaptureRequest) (session : Session) :
    Run.FailsWith (fun error => ∀ fault, error ≠ .config fault) ((engine.replay request).run session) := by
  have submitted : ∀ session, Run.FailsWith (fun error => ∀ fault, error ≠ .config fault)
      (((Submission.submit engine.gateway request.mode request.block.calls).mapError
        EngineError.submission).run session) := by
    intro session
    rw [Stage.run_mapError]
    exact Run.FailsWith.mapError (fun _ _ => nofun) _
  unfold replay
  split
  · rw [Stage.run_bind, Stage.run_mapError]
    exact Run.FailsWith.bind (Run.FailsWith.mapError (fun _ _ => nofun) _) fun _ => submitted _
  · exact submitted _

theorem Staged.operational {scope : Scope} {outside : Outside} {world final : World} {error : EngineError}
    (distinct : (request.block.contracts.map (·.id)).Nodup)
    (staged : Staged engine request scope outside world (.error error) final) : error.Operational := by
  generalize same : (Except.error error : Except EngineError Report) = result at staged
  cases staged with
  | unregistered refused =>
    obtain ⟨registry, made⟩ := Registry.exists_ofContracts distinct
    rw [refused] at made
    cases made
  | unreplayed made ran =>
    cases same
    intro configuration
    obtain ⟨id, duplicate⟩ := EngineError.registryFault_of_category configuration
      (engine.replay_failsWith request _ outside world error final (Stage.run_of_error ran))
    obtain ⟨steps, ids, replayed⟩ := replayed_of_ran made ran
    obtain ⟨call, -, unknown, -⟩ := replayed.fault error _ rfl duplicate
    cases unknown
  | uncalled made ran => cases same; nofun
  | unfetched made ran answered => cases same; nofun
  | lost made ran answered absent => cases same; nofun
  | @located registry last session between fetched final receipt execution files made ran answered present
      written =>
    obtain ⟨steps, ids, replayed⟩ := replayed_of_ran made ran
    obtain ⟨call, artifact, -, -, contract, deployed⟩ := replayed.handle last rfl
    rw [← contract] at deployed
    cases files with
    | ok files => cases same
    | error error =>
      cases same
      exact writeOutputs_failsWith operational_outward engine request execution.location deployed
        outside fetched error final written

theorem withNode_failsWith {α : Type} (engine : Engine) {work : Run EngineError α}
    (fails : Run.FailsWith EngineError.Operational work) :
    Run.FailsWith EngineError.Operational (engine.withNode work) := by
  intro outside world error final ran
  obtain ⟨result, after, again, goes⟩ := engine.withNode_cases work outside world
  rw [ran] at again
  obtain ⟨rfl, rfl⟩ := Prod.mk.inj again
  generalize failed : (Except.error error : Except EngineError α) = result at goes
  cases goes with
  | unready silent => cases failed; nofun
  | worked before work after =>
    rcases outcome_eq_error failed.symm with rfl | ⟨fault, rfl⟩
    · exact fails _ _ _ _ work
    · nofun

/-- A capture of contracts with distinct numbers does not blame the configuration. -/
theorem capture_failsWith (engine : Engine) (distinct : (request.block.contracts.map (·.id)).Nodup) :
    Run.FailsWith EngineError.Operational (engine.capture request) := by
  apply engine.withNode_failsWith
  intro outside world error final ran
  rcases engine.captureWork_cases request outside world with ⟨fault, after, again, -⟩ |
    ⟨scope, start, result, finish, after, again, -, staged, -⟩
  · rw [ran] at again
    cases again
    nofun
  · rw [ran] at again
    cases again
    exact staged.operational distinct

theorem makeConfig_failsWith (engine : Engine) (path : String) :
    Run.FailsWith EngineError.Operational (engine.makeConfig path) := by
  have gateway := fun {α : Type} => Run.FailsWith.mapError (α := α) operational_outward.gateway
  have cleared : Run.FailsWith EngineError.Operational (clearPath path) := by
    have seen : Run.FailsWith EngineError.Operational World.now := by
      intro outside world error final ran
      cases ran
    apply Run.FailsWith.bind seen
    intro world
    split
    · exact Run.FailsWith.mapError (fun _ => nofun) _
    · exact Run.FailsWith.pure _
  apply Run.FailsWith.bind cleared
  intro _
  apply Run.FailsWith.bind (gateway _)
  intro _
  apply Run.FailsWith.bind (Run.FailsWith.bind (gateway _) fun _ => Run.FailsWith.pure _)
  intro _
  exact engine.withNode_failsWith (gateway _)

theorem writeBlock_failsWith (engine : Engine) (shard : Ledger.ShardId) (block : Ledger.BlockHash)
    (path : String) : Run.FailsWith EngineError.Operational (engine.writeBlock shard block path) :=
  engine.withNode_failsWith (Run.FailsWith.bind (Run.FailsWith.mapError operational_outward.gateway _)
    fun _ => Run.FailsWith.mapError operational_outward.output _)

end Engine

end LedgerCapture
