import LedgerCapture.Proofs.Gateway.Failure
import LedgerCapture.Proofs.Session
import LedgerCapture.Submission

/-!
Compiling, deploying and calling stop at the first failure. The position of the failure does not matter: each
loop goes on only behind a part that went well, and the stages do not exchange the compiler.
-/
namespace LedgerCapture

def Compiler.GivesUp (compiler : Compiler) : Prop :=
  ∀ source output, (compiler.compile source output).GivesUp

theorem Compiler.build_stops {compiler : Compiler} (givesUp : compiler.GivesUp) (source output : String) :
    (compiler.build source output).StopsAtFailure :=
  (givesUp source output).recorded (.compiled source output) (fun _ => rfl)
    (fun _ => exists_error_of_not_isOk) fun _ _ => rfl

namespace ArtifactStore

theorem compileNew_stops {store : ArtifactStore} (givesUp : store.compiler.GivesUp) (source key : String) :
    (store.compileNew source key).StopsAtFailure := by
  unfold compileNew
  apply Run.StopsAtFailure.bind (.mapError _ (.inspect _))
  intro present
  have rest : Run.StopsAtFailure (do
      (store.compiler.build source (store.directory key)).mapError (.compilation source)
      let names ← (World.inspect (·.list (store.directory key))).mapError ArtifactError.inaccessible
      Run.lift (Artifact.collect source (store.directory key) names)) := by
    apply Run.StopsAtFailure.bind (.mapError _ (store.compiler.build_stops givesUp _ _))
    intro _
    exact .bind (.mapError _ (.inspect _)) fun _ => .lift _
  split
  · exact .bind (.throw _) fun _ => rest
  · exact rest

theorem compile_stops {store : ArtifactStore} (givesUp : store.compiler.GivesUp) (source : String) :
    (store.compile source).StopsAtFailure := by
  apply Run.StopsAtFailure.bind (.mapError _ (.inspect _))
  intro place
  dsimp only
  split
  · exact .pure _
  · exact .bind (store.compileNew_stops givesUp _ _) fun _ => .pure _

theorem compiler_of_compile {store later : ArtifactStore} {source : String} {artifact : Artifact}
    {outside : Outside} {world final : World}
    (compiled : store.compile source outside world = (.ok (artifact, later), final)) :
    later.compiler = store.compiler := by
  obtain ⟨place, between, -, looked⟩ := Run.bind_eq_ok compiled
  cases cached : store.cached.lookup (Artifact.keyOfText place.path) with
  | some known =>
    simp only [cached] at looked
    cases looked
    rfl
  | none =>
    simp only [cached] at looked
    obtain ⟨made, after, -, kept⟩ := Run.bind_eq_ok looked
    cases kept
    rfl

end ArtifactStore

/-- A stage that stops at its first failure, and leaves the compiler alone. -/
def Stage.StopsAtFailure {ε α : Type} (stage : Stage ε α) : Prop :=
  ∀ session, session.store.compiler.GivesUp → (stage.run session).StopsAtFailure ∧
    ∀ outside world value after final, stage.run session outside world = (.ok (value, after), final) →
      after.store.compiler = session.store.compiler

namespace Stage.StopsAtFailure

variable {ε ε' α β : Type}

theorem pure (value : α) : (Pure.pure value : Stage ε α).StopsAtFailure := by
  intro session givesUp
  refine ⟨.pure _, fun outside world reached after final ran => ?_⟩
  cases ran
  rfl

theorem fail (fault : ε) : (Stage.fail fault : Stage ε α).StopsAtFailure := by
  intro session givesUp
  refine ⟨.fail _, fun outside world reached after final ran => ?_⟩
  cases ran

theorem bind {first : Stage ε α} {next : α → Stage ε β} (stops : first.StopsAtFailure)
    (stopsNext : ∀ value, (next value).StopsAtFailure) : (first >>= next).StopsAtFailure := by
  intro session givesUp
  obtain ⟨stopsFirst, kept⟩ := stops session givesUp
  rw [Stage.run_bind]
  constructor
  · apply Run.StopsAtFailure.bind_of stopsFirst
    intro outside world reached final ran
    exact (stopsNext reached.1 reached.2 (by rw [kept _ _ _ _ _ ran]; exact givesUp)).1
  · intro outside world value after final ran
    obtain ⟨reached, between, before, later⟩ := Run.bind_eq_ok ran
    have same := kept _ _ _ _ _ before
    rw [← same]
    exact (stopsNext reached.1 reached.2 (by rw [same]; exact givesUp)).2 _ _ _ _ _ later

theorem discard {stage : Stage ε α} (stops : stage.StopsAtFailure) :
    (Functor.discard stage).StopsAtFailure :=
  bind stops fun _ => pure ()

theorem mapError {stage : Stage ε α} (change : ε → ε') (stops : stage.StopsAtFailure) :
    (stage.mapError change).StopsAtFailure := by
  intro session givesUp
  obtain ⟨stopsInner, kept⟩ := stops session givesUp
  rw [Stage.run_mapError]
  refine ⟨.mapError change stopsInner, fun outside world value after final ran => ?_⟩
  cases before : stage.run session outside world with
  | mk result between =>
    cases result with
    | error fault => rw [Run.mapError_of_error before] at ran; cases ran
    | ok reached =>
      rw [Run.mapError_of_ok before] at ran
      cases ran
      exact kept _ _ _ _ _ before

theorem ofRun {run : Run ε α} (stops : run.StopsAtFailure) : (Stage.ofRun run).StopsAtFailure := by
  intro session givesUp
  rw [Stage.run_ofRun]
  refine ⟨.bind stops fun _ => .pure _, fun outside world value after final ran => ?_⟩
  obtain ⟨reached, between, -, kept⟩ := Run.bind_eq_ok ran
  cases kept
  rfl

theorem consult (look : Registry → Except ε α) : (Stage.consult look).StopsAtFailure := by
  intro session givesUp
  rw [Stage.run_consult]
  refine ⟨.lift _, fun outside world value after final ran => ?_⟩
  cases found : look session.registry with
  | error fault => rw [found] at ran; cases ran
  | ok value => rw [found] at ran; cases ran; rfl

theorem revise (change : Registry → Except ε Registry) : (Stage.revise change).StopsAtFailure := by
  intro session givesUp
  rw [Stage.run_revise]
  refine ⟨.lift _, fun outside world value after final ran => ?_⟩
  cases revised : change session.registry with
  | error fault => rw [revised] at ran; cases ran
  | ok registry => rw [revised] at ran; cases ran; rfl

theorem compile (source : String) : (Stage.compile source).StopsAtFailure := by
  intro session givesUp
  rw [Stage.run_compile]
  refine ⟨.bind (session.store.compile_stops givesUp source) fun _ => .pure _, ?_⟩
  intro outside world value after final ran
  obtain ⟨⟨artifact, store⟩, between, compiled, kept⟩ := Run.bind_eq_ok ran
  cases kept
  exact ArtifactStore.compiler_of_compile compiled

end Stage.StopsAtFailure

/-! ### Deploying and calling -/

section

variable {gateway : Gateway}

namespace Deployment

theorem artifactOf_stops (entry : Registry.Entry) : (artifactOf entry).StopsAtFailure := by
  unfold artifactOf
  split
  · exact .pure _
  · apply Stage.StopsAtFailure.bind (.mapError _ (.compile _))
    intro artifact
    exact .bind (.mapError _ (.revise _)) fun _ => .pure _

theorem deploy_stops (givesUp : gateway.GivesUp) (id : ContractId) :
    (deploy gateway id).StopsAtFailure := by
  apply Stage.StopsAtFailure.bind (.mapError _ (.consult _))
  intro entry
  split
  · exact .fail _
  · apply Stage.StopsAtFailure.bind (artifactOf_stops entry)
    intro artifact
    apply Stage.StopsAtFailure.bind (.ofRun (.exchange (fun _ => rfl) fun _ => rfl))
    intro salt
    apply Stage.StopsAtFailure.bind (.ofRun (.mapError _ (gateway.command_stops givesUp _)))
    intro address
    exact .bind (.mapError _ (.revise _)) fun _ => .pure _

theorem deployEach_stops (givesUp : gateway.GivesUp) (ids : List ContractId) :
    (deployEach gateway ids).StopsAtFailure := by
  induction ids with
  | nil => exact .pure _
  | cons id rest ih => exact .bind (.discard (deploy_stops givesUp id)) fun _ => ih

theorem deployAll_stops (givesUp : gateway.GivesUp) : (deployAll gateway).StopsAtFailure :=
  .bind (.consult _) fun ids => deployEach_stops givesUp ids

end Deployment

namespace Submission

open Config (DeploymentMode)

theorem ensureDeployed_stops (givesUp : gateway.GivesUp) (mode : DeploymentMode) (id : ContractId) :
    (ensureDeployed gateway mode id).StopsAtFailure := by
  apply Stage.StopsAtFailure.bind (.mapError _ (.consult _))
  intro entry
  split
  · exact .pure _
  · cases mode with
    | eager => exact .fail _
    | «lazy» => exact .discard (.mapError _ (Deployment.deploy_stops givesUp id))

theorem send_stops (givesUp : gateway.GivesUp) (mode : DeploymentMode) (index : Nat) (call : Call) :
    (send gateway mode index call).StopsAtFailure := by
  apply Stage.StopsAtFailure.bind (ensureDeployed_stops givesUp mode _)
  intro _
  apply Stage.StopsAtFailure.bind (.mapError _ (.consult _))
  intro found
  exact .bind (.ofRun (.mapError _ (gateway.command_stops givesUp _))) fun _ => .pure _

theorem submitFrom_stops (givesUp : gateway.GivesUp) (mode : DeploymentMode) (index : Nat)
    (last : Option LastCall) (calls : List Call) :
    (submitFrom gateway mode index last calls).StopsAtFailure := by
  induction calls generalizing index last with
  | nil => exact .pure _
  | cons call rest ih => exact .bind (send_stops givesUp mode index call) fun _ => ih _ _

theorem submit_stops (givesUp : gateway.GivesUp) (mode : DeploymentMode) (calls : List Call) :
    (submit gateway mode calls).StopsAtFailure :=
  submitFrom_stops givesUp mode 0 none calls

end Submission

end

end LedgerCapture
