import LedgerCapture.Proofs.Engine.Capture
import LedgerCapture.Proofs.Session

/-!
What the work of each mode exchanges with the outside. Whatever it is, the node is left to others: work neither
launches a node nor watches, probes or stops one, and it never waits.
-/
namespace LedgerCapture

/-- Whether an event can belong to the work that a node is needed for. -/
def Event.isWork : Event → Bool
  | lookup .probe _ | launched _ _ | checked _ | terminated _ | killed _ | slept _ => false
  | _ => true

theorem Event.isWork_of_isCarrier (event : Event) (carrier : event.isCarrier) : event.isWork := by
  cases event <;> first | rfl | simp [isCarrier] at carrier

theorem Event.isWork_of_isCompiling (event : Event) (compiling : event.isCompiling) : event.isWork := by
  cases event <;> first | rfl | simp [isCompiling, isCarrier] at compiling

def Stage.Adds {ε α : Type} (kind : Event → Bool) (stage : Stage ε α) : Prop :=
  ∀ session, Run.Adds kind (stage.run session)

namespace Stage.Adds

variable {ε ε' α β : Type} {kind : Event → Bool}

theorem pure (value : α) : Stage.Adds kind (Pure.pure value : Stage ε α) :=
  fun _ _ world => .refl world

theorem fail (fault : ε) : Stage.Adds kind (Stage.fail fault : Stage ε α) :=
  fun _ _ world => .refl world

theorem bind {first : Stage ε α} {next : α → Stage ε β} (adds : Stage.Adds kind first)
    (addsNext : ∀ value, Stage.Adds kind (next value)) : Stage.Adds kind (first >>= next) := by
  intro session
  rw [run_bind]
  exact Run.Adds.bind (adds session) fun reached => addsNext reached.1 reached.2

theorem discard {stage : Stage ε α} (adds : Stage.Adds kind stage) : Stage.Adds kind (Functor.discard stage) :=
  bind adds fun _ => pure ()

theorem mapError {stage : Stage ε α} (change : ε → ε') (adds : Stage.Adds kind stage) :
    Stage.Adds kind (stage.mapError change) := by
  intro session
  rw [run_mapError]
  exact Run.Adds.mapError change (adds session)

theorem ofRun {run : Run ε α} (adds : Run.Adds kind run) : Stage.Adds kind (Stage.ofRun run) := by
  intro session
  rw [run_ofRun]
  exact Run.Adds.bind adds fun _ => Run.Adds.pure _

theorem consult (look : Registry → Except ε α) : Stage.Adds kind (Stage.consult look) := by
  intro session
  rw [run_consult]
  exact Run.Adds.lift _

theorem revise (change : Registry → Except ε Registry) : Stage.Adds kind (Stage.revise change) := by
  intro session
  rw [run_revise]
  exact Run.Adds.lift _

theorem compile (compiling : ∀ event, event.isCompiling → kind event) (source : String) :
    Stage.Adds kind (Stage.compile source) := by
  intro session
  rw [run_compile]
  exact Run.Adds.bind ((session.store.compile_adds source).mono compiling) fun _ => Run.Adds.pure _

end Stage.Adds

/-! ### Deployments and calls -/

namespace Event

/-- A kind of events that takes in what is exchanged while contracts are deployed and called. -/
structure Calling (kind : Event → Bool) : Prop where
  compiling : ∀ event, event.isCompiling → kind event
  salt : ∀ value, kind (.salt value)
  deploy : ∀ asked answer, kind (.wallet (.deploy asked) answer)
  send : ∀ asked answer, kind (.wallet (.send asked) answer)

/-- A kind of events that takes in what is exchanged while contracts are deployed and called, and all other commands
of the wallet. -/
structure Replaying (kind : Event → Bool) : Prop where
  compiling : ∀ event, event.isCompiling → kind event
  salt : ∀ value, kind (.salt value)
  wallet : ∀ command answer, kind (.wallet command answer)

theorem Calling.carriers {kind : Event → Bool} (calling : Calling kind) (event : Event) (carrier : event.isCarrier) :
    kind event :=
  calling.compiling event (event.isCompiling_of_isCarrier carrier)

theorem Replaying.calling {kind : Event → Bool} (replaying : Replaying kind) : Calling kind :=
  ⟨replaying.compiling, replaying.salt, fun asked => replaying.wallet (.deploy asked),
    fun asked => replaying.wallet (.send asked)⟩

end Event

theorem Gateway.command_replays {kind : Event → Bool} (replaying : Event.Replaying kind) (gateway : Gateway)
    (command : WalletCommand) : Run.Adds kind (gateway.command command) :=
  command_adds replaying.calling.carriers (replaying.wallet command)

section

variable {kind : Event → Bool} (calling : Event.Calling kind) (gateway : Gateway)
include calling

namespace Deployment

theorem artifactOf_replays (entry : Registry.Entry) : Stage.Adds kind (artifactOf entry) := by
  unfold artifactOf
  split
  · exact .pure _
  · apply Stage.Adds.bind (.mapError _ (.compile calling.compiling _))
    intro artifact
    exact .bind (.mapError _ (.revise _)) fun _ => .pure _

theorem deploy_replays (id : ContractId) : Stage.Adds kind (deploy gateway id) := by
  apply Stage.Adds.bind (.mapError _ (.consult _))
  intro entry
  split
  · exact .fail _
  · apply Stage.Adds.bind (artifactOf_replays calling entry)
    intro artifact
    apply Stage.Adds.bind (.ofRun (World.exchange_adds calling.salt))
    intro salt
    apply Stage.Adds.bind (.ofRun (Run.Adds.mapError _ (Gateway.command_adds calling.carriers (calling.deploy _))))
    intro address
    exact .bind (.mapError _ (.revise _)) fun _ => .pure _

theorem deployEach_replays (ids : List ContractId) : Stage.Adds kind (deployEach gateway ids) := by
  induction ids with
  | nil => exact .pure _
  | cons id rest ih => exact .bind (.discard (deploy_replays calling gateway id)) fun _ => ih

theorem deployAll_replays : Stage.Adds kind (deployAll gateway) :=
  .bind (.consult _) fun _ => deployEach_replays calling gateway _

end Deployment

namespace Submission

variable (mode : Config.DeploymentMode)

theorem ensureDeployed_replays (id : ContractId) : Stage.Adds kind (ensureDeployed gateway mode id) := by
  apply Stage.Adds.bind (.mapError _ (.consult _))
  intro entry
  split
  · exact .pure _
  · cases mode with
    | eager => exact .fail _
    | «lazy» => exact .discard (.mapError _ (Deployment.deploy_replays calling gateway id))

theorem send_replays (index : Nat) (call : Call) : Stage.Adds kind (send gateway mode index call) := by
  apply Stage.Adds.bind (ensureDeployed_replays calling gateway mode call.contract)
  intro _
  apply Stage.Adds.bind (.mapError _ (.consult _))
  intro deployed
  exact .bind (.ofRun (Run.Adds.mapError _ (Gateway.command_adds calling.carriers (calling.send _)))) fun _ => .pure _

theorem submitFrom_replays (index : Nat) (last : Option LastCall) (calls : List Call) :
    Stage.Adds kind (submitFrom gateway mode index last calls) := by
  induction calls generalizing index last with
  | nil => exact .pure _
  | cons call rest ih => exact .bind (send_replays calling gateway mode index call) fun _ => ih _ _

end Submission

namespace Engine

theorem replay_adds (engine : Engine) (request : CaptureRequest) : Stage.Adds kind (engine.replay request) := by
  have submitted : ∀ mode, Stage.Adds kind (Submission.submit engine.gateway mode request.block.calls) :=
    fun mode => Submission.submitFrom_replays calling engine.gateway mode _ _ _
  unfold replay
  cases request.mode with
  | eager => exact .bind (.mapError _ (Deployment.deployAll_replays calling _)) fun _ => .mapError _ (submitted _)
  | «lazy» => exact .mapError _ (submitted _)

end Engine

end

/-! ### The work of the modes -/

namespace Engine

theorem recording_work : Recording Event.isWork where
  carriers := Event.isWork_of_isCarrier
  block _ _ _ := rfl
  state _ _ _ := rfl
  wallet _ := rfl

theorem replaying_work : Event.Replaying Event.isWork where
  compiling := Event.isWork_of_isCompiling
  salt _ := rfl
  wallet _ _ := rfl

theorem resolve_works (gateway : Gateway) (last : Option LastCall) :
    Run.Adds Event.isWork (Resolution.resolve gateway last) := by
  cases last with
  | none => exact Run.Adds.fail _
  | some last =>
    refine Run.Adds.bind (Run.Adds.bind ?_ fun receipt => ?_) fun _ => Run.Adds.pure _
    · exact Run.Adds.mapError _ (Gateway.ask_adds Event.isWork_of_isCarrier fun _ => rfl)
    · split
      · exact Run.Adds.pure _
      · exact Run.Adds.throw _

theorem captureWork_works (engine : Engine) (request : CaptureRequest) :
    Run.Adds Event.isWork (engine.captureWork request) := by
  apply Run.Adds.bind (Run.Adds.mapError _ (scope_adds _))
  intro scope
  have within : Run.Adds Event.isWork (engine.captureWithin request scope) := by
    apply Run.Adds.bind (Run.Adds.mapError _ (Run.Adds.lift _))
    intro registry
    apply Run.Adds.bind (engine.replay_adds replaying_work.calling request _)
    intro replayed
    apply Run.Adds.bind (Run.Adds.mapError _ (resolve_works engine.gateway _))
    intro resolved
    exact Run.Adds.bind (writeOutputs_adds recording_work engine request _ _ _) fun _ => Run.Adds.pure _
  -- Removing the scope is no matter of the journal.
  exact within

theorem writeBlockWork_works (engine : Engine) (shard : Ledger.ShardId) (block : Ledger.BlockHash)
    (path : String) : Run.Adds Event.isWork (engine.writeBlockWork shard block path) :=
  Run.Adds.bind (engine.ask_adds Event.isWork_of_isCarrier fun _ => rfl) fun _ =>
    Run.Adds.mapError _ (writeDocument_adds _ _)

end Engine

end LedgerCapture
