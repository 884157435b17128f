import LedgerCapture.Proofs.Artifact.Collect
import LedgerCapture.Proofs.Artifact.Store
import LedgerCapture.Proofs.Engine.Capture
import LedgerCapture.Proofs.Registry.Sound
import LedgerCapture.Proofs.Session

/-!
What a capture does while its scope is open, told action by action. What is compiled goes into the scope, code is
only read from there, and the legacy state is written with code that has been read before. Each part of a capture
goes on with such a history, however it ends.
-/
namespace LedgerCapture

namespace Engine

/-- What a capture does while its scope is open. -/
inductive Action where
  | wallet (command : WalletCommand)
  | lookup (command : LookupCommand)
  | salt
  | compile (source output : String)
  /-- reads the code of an artifact -/
  | read (artifact : Artifact) (code : String)
  | write (path : String) (document : Json)
  /-- writes the legacy state with the code of the contract -/
  | writeState (start : String) (contract sender : Ledger.Address) (code : String)

def Action.Takes (engine : Engine) (outside : Outside) (world after : World) : Action → Prop
  | .wallet command => after = (engine.gateway.command command outside world).2
  | .lookup command => after = (engine.gateway.ask command outside world).2
  | .salt => after = world.record (.salt (outside.salt world.journal))
  | .compile source output => after = (engine.compiler.build source output outside world).2
  | .read artifact code => artifact.readBytecode outside world = (.ok code, after)
  | .write path document => after = (writeDocument path document outside world).2
  | .writeState start contract sender code => writeDocument (Legacy.statePath start)
      (Legacy.State.initial engine.config.legacy contract sender code).toJson outside world = (.ok (), after)

end Engine

def Scope.output (scope : Scope) (source : String) : String :=
  Path.join scope.path (Artifact.keyOfText source)

def Artifact.Within (artifact : Artifact) (scope : Scope) : Prop :=
  ∃ bytecode interface, artifact.bytecode = Path.join (scope.output artifact.source) bytecode ∧
    artifact.interface = Path.join (scope.output artifact.source) interface

inductive CaptureRequest.Asks (request : CaptureRequest) : String → Prop where
  | block {path : String} (asked : request.blockOutput = some path) : Asks request path
  | state {path : String} (asked : request.stateOutput = some path) : Asks request path
  | legacy {start : String} (asked : request.legacyStart = some start) : Asks request (Legacy.blockPath start)

namespace Engine

def Action.Allowed (request : CaptureRequest) (scope : Scope) (history : List Action) : Action → Prop
  | .wallet _ | .lookup _ | .salt => True
  | .compile source output => output = scope.output source
  | .read artifact _ => artifact.Within scope
  | .write path _ => request.Asks path
  | .writeState start _ _ code => request.legacyStart = some start ∧ ∃ artifact, .read artifact code ∈ history

/-- The worlds that can be reached from the one in which the scope is opened, with the history that leads there. -/
inductive Reaches (engine : Engine) (request : CaptureRequest) (scope : Scope) (outside : Outside) (opened : World) :
    List Action → World → Prop where
  | opened : Reaches engine request scope outside opened [] opened
  | step {history : List Action} {world after : World} {action : Action}
      (reaches : Reaches engine request scope outside opened history world)
      (allowed : action.Allowed request scope history) (takes : action.Takes engine outside world after) :
      Reaches engine request scope outside opened (history ++ [action]) after

/-- What stands in a history was done in a world that had been reached before. -/
theorem Reaches.exists_takes {engine : Engine} {request : CaptureRequest} {scope : Scope} {outside : Outside}
    {opened world : World} {history : List Action} {action : Action}
    (reaches : engine.Reaches request scope outside opened history world)
    (listed : action ∈ history) : ∃ earlier before after, earlier <+: history ∧
      engine.Reaches request scope outside opened earlier before ∧ action.Allowed request scope earlier ∧
      action.Takes engine outside before after := by
  induction reaches with
  | opened => cases listed
  | @step history world after last reaches allowed takes ih =>
    rcases List.mem_append.mp listed with listed | listed
    · obtain ⟨earlier, before, later, way, rest⟩ := ih listed
      exact ⟨earlier, before, later, way.trans (List.prefix_append _ _), rest⟩
    · cases List.mem_singleton.mp listed
      exact ⟨history, world, after, List.prefix_append _ _, reaches, allowed, takes⟩

end Engine

/-! ### Runs that go on with a history -/

open Engine (Action)

/-- After a history as required the run goes on with it, however it ends; if it ends well, what is ensured holds. -/
def Run.Acts {ε α : Type} (engine : Engine) (request : CaptureRequest) (scope : Scope)
    (requires : List Action → Prop) (run : Run ε α) (ensures : α → List Action → Prop) : Prop :=
  ∀ outside opened history world, engine.Reaches request scope outside opened history world → requires history →
    ∃ after, engine.Reaches request scope outside opened after (run outside world).2 ∧
      ∀ value, (run outside world).1 = .ok value → ensures value after

abbrev Always (_ : List Action) : Prop :=
  True

namespace Run.Acts

variable {ε ε' α β : Type} {engine : Engine} {request : CaptureRequest} {scope : Scope}
  {requires : List Action → Prop} {run : Run ε α}
  {ensures : α → List Action → Prop}

theorem lift {result : Except ε α} (ensured : ∀ value history, result = .ok value → requires history →
    ensures value history) : (Run.lift result).Acts engine request scope requires ensures :=
  fun _ _ history _ reaches required => ⟨history, reaches, fun value same => ensured value history same required⟩

theorem pure {value : α} (ensured : ∀ history, requires history → ensures value history) :
    (Pure.pure value : Run ε α).Acts engine request scope requires ensures :=
  fun _ _ history _ reaches required =>
    ⟨history, reaches, fun found same => by cases same; exact ensured history required⟩

theorem throw (fault : ε) : (MonadExcept.throw fault : Run ε α).Acts engine request scope requires ensures :=
  fun _ _ history _ reaches _ => ⟨history, reaches, fun found same => by cases same⟩

/-- A run that is one action. -/
theorem action (action : Action) (allowed : ∀ history, requires history → action.Allowed request scope history)
    (takes : ∀ outside world, action.Takes engine outside world (run outside world).2)
    (ensured : ∀ value history, requires history → ensures value (history ++ [action])) :
    run.Acts engine request scope requires ensures :=
  fun outside _ history world reaches required =>
    ⟨history ++ [action], reaches.step (allowed history required) (takes outside world),
      fun value _ => ensured value history required⟩

theorem bind {first : Run ε α} {next : α → Run ε β} {between : α → List Action → Prop}
    {finally' : β → List Action → Prop} (acts : first.Acts engine request scope requires between)
    (actsNext : ∀ value, (next value).Acts engine request scope (between value) finally') :
    (first >>= next).Acts engine request scope requires finally' := by
  intro outside opened history world reaches required
  obtain ⟨middle, reachesMiddle, ensured⟩ := acts outside opened history world reaches required
  cases ran : first outside world with
  | mk result final =>
    rw [ran] at reachesMiddle ensured
    cases result with
    | error fault =>
      rw [bind_of_error ran]
      exact ⟨middle, reachesMiddle, nofun⟩
    | ok value =>
      rw [bind_of_ok ran]
      exact actsNext value outside opened middle final reachesMiddle (ensured value rfl)

/-- What is known of the value does not depend on the history. -/
theorem bind_known {first : Run ε α} {next : α → Run ε β} {known : α → Prop}
    {finally' : β → List Action → Prop} (acts : first.Acts engine request scope requires fun value _ => known value)
    (actsNext : ∀ value, known value → (next value).Acts engine request scope Always finally') :
    (first >>= next).Acts engine request scope requires finally' :=
  bind acts fun value outside opened history world reaches isKnown =>
    actsNext value isKnown outside opened history world reaches trivial

theorem mapError (change : ε → ε') (acts : run.Acts engine request scope requires ensures) :
    (run.mapError change).Acts engine request scope requires ensures := by
  intro outside opened history world reaches required
  obtain ⟨after, reachesAfter, ensured⟩ := acts outside opened history world reaches required
  cases ran : run outside world with
  | mk result final =>
    rw [ran] at reachesAfter ensured
    cases result with
    | error fault =>
      rw [mapError_of_error ran]
      exact ⟨after, reachesAfter, nofun⟩
    | ok value =>
      rw [mapError_of_ok ran]
      exact ⟨after, reachesAfter, fun found same => ensured found (by cases same; rfl)⟩

end Run.Acts

/-! ### Sessions -/

def Registry.Within (registry : Registry) (scope : Scope) : Prop :=
  ∀ entry ∈ registry.entries, ∀ artifact, entry.progress.artifact? = some artifact → artifact.Within scope

/-- The session compiles into the scope, and all artifacts that it knows are there. -/
structure Session.Within (session : Session) (engine : Engine) (scope : Scope) : Prop where
  compiler : session.store.compiler = engine.compiler
  inScope : session.store.scope = scope
  cached : ∀ key artifact, session.store.cached.lookup key = some artifact → artifact.Within scope
  noted : session.registry.Within scope

namespace Registry

variable {registry after : Registry} {scope : Scope} {id : ContractId}

theorem mem_of_locate {place : Nat} {entry : Entry} (located : registry.locate? id = some (place, entry)) :
    entry ∈ registry.entries := by
  simp only [locate?, Option.bind_eq_bind, Option.bind_eq_some_iff, Option.pure_def, Option.some.injEq,
    Prod.mk.injEq] at located
  obtain ⟨_, -, _, there, -, rfl⟩ := located
  exact List.mem_of_getElem? there

theorem within_of_fresh {contracts : List Contract} (fresh : registry.Fresh contracts) : registry.Within scope := by
  intro entry member artifact known
  rw [fresh.entries] at member
  obtain ⟨contract, -, rfl⟩ := List.mem_map.mp member
  cases known

theorem Within.deployed {address : Ledger.Address} {artifact : Artifact} (within : registry.Within scope)
    (found : registry.deployed id = .ok (address, artifact)) : artifact.Within scope := by
  obtain ⟨entry, there, progress⟩ := deployed_eq_ok_iff.mp found
  obtain ⟨place, located⟩ := get_eq_ok_iff_locate.mp there
  exact within entry (mem_of_locate located) artifact (by rw [progress])

theorem Within.amend {change : Entry → Except RegistryError Entry} (within : registry.Within scope)
    (keeps : ∀ entry changed, change entry = .ok changed →
      (∀ artifact, entry.progress.artifact? = some artifact → artifact.Within scope) →
      ∀ artifact, changed.progress.artifact? = some artifact → artifact.Within scope)
    (done : registry.amend id change = .ok after) : after.Within scope := by
  obtain ⟨place, entry, changed, located, made, rfl⟩ := amend_eq_ok done
  intro other member
  rcases List.mem_or_eq_of_mem_set member with member | rfl
  · exact within other member
  · exact keeps entry other made (within entry (mem_of_locate located))

theorem Within.markCompiled {artifact : Artifact} (within : registry.Within scope) (inside : artifact.Within scope)
    (done : registry.markCompiled id artifact = .ok after) : after.Within scope := by
  refine within.amend (fun entry changed made _ other known => ?_) done
  obtain ⟨-, rfl⟩ := Entry.compiled_eq_ok_iff.mp made
  cases known
  exact inside

theorem Within.markDeployed {address : Ledger.Address} (within : registry.Within scope)
    (done : registry.markDeployed id address = .ok after) : after.Within scope := by
  refine within.amend (fun entry changed made before => ?_) done
  obtain ⟨-, rfl⟩ := Entry.deployed_eq_ok_iff.mp made
  exact before

end Registry

/-- A stage that goes on with a history and keeps the session within the scope; if it ends well, what is ensured
holds. -/
def Stage.Acts {ε α : Type} (engine : Engine) (request : CaptureRequest) (scope : Scope) (stage : Stage ε α)
    (ensures : α → Prop) : Prop :=
  ∀ session : Session, session.Within engine scope →
    (stage.run session).Acts engine request scope Always fun reached _ =>
      ensures reached.1 ∧ reached.2.Within engine scope

namespace Stage.Acts

variable {ε ε' α β : Type} {engine : Engine} {request : CaptureRequest} {scope : Scope} {ensures : α → Prop}

theorem pure {value : α} (ensured : ensures value) : (Pure.pure value : Stage ε α).Acts engine request scope ensures :=
  fun _ within => Run.Acts.pure fun _ _ => ⟨ensured, within⟩

theorem fail (fault : ε) : (Stage.fail fault : Stage ε α).Acts engine request scope ensures :=
  fun _ _ => Run.Acts.throw fault

theorem bind {first : Stage ε α} {next : α → Stage ε β} {finally' : β → Prop}
    (acts : first.Acts engine request scope ensures)
    (actsNext : ∀ value, ensures value → (next value).Acts engine request scope finally') :
    (first >>= next).Acts engine request scope finally' := by
  intro session within
  rw [run_bind]
  exact Run.Acts.bind_known (acts session within) fun reached ensured =>
    actsNext reached.1 ensured.1 reached.2 ensured.2

theorem mapError {stage : Stage ε α} (change : ε → ε') (acts : stage.Acts engine request scope ensures) :
    (stage.mapError change).Acts engine request scope ensures := by
  intro session within
  rw [run_mapError]
  exact Run.Acts.mapError change (acts session within)

theorem discard {stage : Stage ε α} (acts : stage.Acts engine request scope ensures) :
    (Functor.discard stage).Acts engine request scope fun _ => True :=
  bind acts fun _ _ => pure trivial

theorem ofRun {run : Run ε α} (acts : run.Acts engine request scope Always fun value _ => ensures value) :
    (Stage.ofRun run).Acts engine request scope ensures := by
  intro session within
  rw [run_ofRun]
  exact Run.Acts.bind acts fun value => Run.Acts.pure fun _ ensured => ⟨ensured, within⟩

theorem consult {look : Registry → Except ε α}
    (ensured : ∀ registry value, look registry = .ok value → ensures value) :
    (Stage.consult look).Acts engine request scope ensures := by
  intro session within
  rw [run_consult]
  refine Run.Acts.lift fun reached _ found _ => ?_
  cases looked : look session.registry with
  | error fault =>
    rw [looked] at found
    cases found
  | ok value =>
    rw [looked] at found
    cases found
    exact ⟨ensured _ value looked, within⟩

theorem revise {change : Registry → Except ε Registry} (keeps : ∀ registry after, registry.Within scope →
    change registry = .ok after → after.Within scope) :
    (Stage.revise change).Acts engine request scope fun _ => True := by
  intro session within
  rw [run_revise]
  refine Run.Acts.lift fun reached _ found _ => ?_
  cases changed : change session.registry with
  | error fault =>
    rw [changed] at found
    cases found
  | ok registry =>
    rw [changed] at found
    cases found
    exact ⟨trivial, within.compiler, within.inScope, within.cached, keeps _ _ within.noted changed⟩

end Stage.Acts

theorem Artifact.within_of_collect {scope : Scope} {source : String} {names : List String} {artifact : Artifact}
    (collected : Artifact.collect source (scope.output source) names = .ok artifact) : artifact.Within scope := by
  obtain ⟨bytecode, interface, -, -, -, rfl⟩ := Artifact.collect_eq_ok_iff.mp collected
  exact ⟨bytecode, interface, rfl, rfl⟩

section

variable {engine : Engine} {request : CaptureRequest} {scope : Scope} {session : Session}

theorem Session.Within.add {artifact : Artifact} (within : session.Within engine scope) (inside : artifact.Within scope)
    (key : String) : ({ session with store := session.store.add key artifact } : Session).Within engine scope where
  compiler := within.compiler
  inScope := within.inScope
  cached other known found := by
    rw [ArtifactStore.add, List.lookup_cons] at found
    split at found
    · cases found
      exact inside
    · exact within.cached other known found
  noted := within.noted

/-- An artifact is known to be in the scope, or it is compiled into it. -/
theorem ArtifactStore.compile_acts (within : session.Within engine scope) (source : String) :
    (session.store.compile source).Acts engine request scope Always fun made _ =>
      made.1.Within scope ∧ ({ session with store := made.2 } : Session).Within engine scope := by
  intro outside opened history world reaches _
  obtain ⟨result, final, ran, outcome⟩ := session.store.compile_outcome source outside world
  have directory (place : Place) : session.store.directory place.key = scope.output place.path := by
    rw [ArtifactStore.directory, within.inScope, Scope.output]
  have built {place : Place} {result : Except String Unit} {final : World}
      (builds : session.store.Builds place outside world result final) :
      engine.Reaches request scope outside opened (history ++ [.compile place.path (scope.output place.path)])
        final := by
    rw [Builds, within.compiler, directory] at builds
    exact reaches.step rfl (congrArg Prod.snd builds).symm
  rw [ran]
  cases outcome with
  | unresolved missing => exact ⟨history, reaches, fun made same => by cases same⟩
  | known resolved found =>
    refine ⟨history, reaches, fun made same => ?_⟩
    cases same
    exact ⟨within.cached _ _ found, within⟩
  | blocked resolved missing present => exact ⟨history, reaches, fun made same => by cases same⟩
  | failed starts builds => exact ⟨_, built builds, fun made same => by cases same⟩
  | useless starts builds => exact ⟨_, built builds, fun made same => by cases same⟩
  | compiled starts builds listed collected =>
    rw [directory] at collected
    have inside := Artifact.within_of_collect collected
    refine ⟨_, built builds, fun made same => ?_⟩
    cases same
    exact ⟨inside, within.add inside _⟩

end

namespace Stage.Acts

variable {ε α : Type} {engine : Engine} {request : CaptureRequest} {scope : Scope}

theorem compile (source : String) : (Stage.compile source).Acts engine request scope (·.Within scope) := by
  intro session within
  rw [run_compile]
  exact Run.Acts.bind (ArtifactStore.compile_acts within source) fun made => Run.Acts.pure fun _ ensured => ensured

end Stage.Acts

/-! ### Actions of their own -/

/-- What holds of a history whatever is done after it. -/
def Lasting (requires : List Action → Prop) : Prop :=
  ∀ history action, requires history → requires (history ++ [action])

theorem lasting_always : Lasting Always :=
  fun _ _ _ => trivial

theorem lasting_mem (action : Action) : Lasting (action ∈ ·) :=
  fun _ _ listed => List.mem_append_left _ listed

section

variable {engine : Engine} {request : CaptureRequest} {scope : Scope} {requires : List Action → Prop}
  (lasting : Lasting requires)
include lasting

theorem Gateway.command_acts (command : WalletCommand) :
    (engine.gateway.command command).Acts engine request scope requires fun _ => requires :=
  Run.Acts.action (.wallet command) (fun _ _ => trivial) (fun _ _ => rfl) fun _ history => lasting history _

theorem Gateway.ask_acts (command : LookupCommand) :
    (engine.gateway.ask command).Acts engine request scope requires fun _ => requires :=
  Run.Acts.action (.lookup command) (fun _ _ => trivial) (fun _ _ => rfl) fun _ history => lasting history _

theorem writeDocument_acts {path : String} (asked : request.Asks path) (document : Json) :
    (writeDocument path document).Acts engine request scope requires fun _ => requires :=
  Run.Acts.action (.write path document) (fun _ _ => asked) (fun _ _ => rfl) fun _ history => lasting history _

end

section

variable {engine : Engine} {request : CaptureRequest} {scope : Scope}

theorem salt_acts {ε : Type} :
    (World.exchange Outside.salt Event.salt : Run ε UInt64).Acts engine request scope Always fun _ => Always :=
  Run.Acts.action .salt (fun _ _ => trivial) (fun _ _ => rfl) fun _ _ _ => trivial

theorem writeDocument_world_of_error {path : String} {document : Json} {outside : Outside} {world after : World}
    {error : OutputError} (ran : writeDocument path document outside world = (.error error, after)) :
    after = world := by
  simp only [writeDocument, Run.mapError, World.alter] at ran
  cases written : world.files.write path document.fileText.toUTF8 with
  | error fault =>
    rw [written] at ran
    cases ran
    rfl
  | ok files =>
    rw [written] at ran
    cases ran

theorem Artifact.readBytecode_world {artifact : Artifact} {outside : Outside} {world after : World}
    {result : Except ArtifactError String} (ran : artifact.readBytecode outside world = (result, after)) :
    after = world := by
  unfold readBytecode at ran
  cases found : world.files.readText artifact.bytecode with
  | error fault =>
    rw [Run.bind_of_error (Run.mapError_of_error (World.inspect_of found))] at ran
    cases ran
    rfl
  | ok content =>
    rw [Run.bind_of_ok (Run.mapError_of_ok (World.inspect_of found))] at ran
    cases ran
    rfl

/-- Code that was read is known from then on. -/
theorem Artifact.readBytecode_acts {artifact : Artifact} (inside : artifact.Within scope) :
    artifact.readBytecode.Acts engine request scope Always fun code history => .read artifact code ∈ history := by
  intro outside opened history world reaches _
  cases ran : artifact.readBytecode outside world with
  | mk result final =>
    cases result with
    | error fault =>
      cases Artifact.readBytecode_world ran
      exact ⟨history, reaches, nofun⟩
    | ok code =>
      have allowed : (Action.read artifact code).Allowed request scope history := inside
      have takes : (Action.read artifact code).Takes engine outside world final := ran
      refine ⟨history ++ [.read artifact code], reaches.step allowed takes, fun found same => ?_⟩
      cases same
      exact List.mem_append_right _ (List.mem_singleton_self _)

end

namespace Deployment

variable {engine : Engine} {request : CaptureRequest} {scope : Scope}

theorem artifactOf_acts (entry : Registry.Entry) : (artifactOf entry).Acts engine request scope fun _ => True := by
  unfold artifactOf
  split
  · exact .pure trivial
  · apply Stage.Acts.bind (.mapError _ (.compile _))
    intro artifact inside
    refine .bind (.mapError _ (.revise fun registry after within done => ?_)) fun _ _ => .pure trivial
    exact within.markCompiled inside done

theorem deploy_acts (id : ContractId) : (deploy engine.gateway id).Acts engine request scope fun _ => True := by
  apply Stage.Acts.bind (.mapError _ (.consult fun _ _ _ => trivial))
  intro entry _
  split
  · exact .fail _
  · apply Stage.Acts.bind (artifactOf_acts entry)
    intro artifact _
    apply Stage.Acts.bind (.ofRun salt_acts)
    intro salt _
    apply Stage.Acts.bind (.ofRun (.mapError _ (Gateway.command_acts lasting_always _)))
    intro address _
    refine .bind (.mapError _ (.revise fun registry after within done => ?_)) fun _ _ => .pure trivial
    exact within.markDeployed done

theorem deployEach_acts (ids : List ContractId) :
    (deployEach engine.gateway ids).Acts engine request scope fun _ => True := by
  induction ids with
  | nil => exact .pure trivial
  | cons id rest ih => exact .bind (.discard (deploy_acts id)) fun _ _ => ih

theorem deployAll_acts : (deployAll engine.gateway).Acts engine request scope fun _ => True :=
  .bind (.consult fun _ _ _ => trivial) fun _ _ => deployEach_acts _

end Deployment

namespace Submission

variable {engine : Engine} {request : CaptureRequest} {scope : Scope} (mode : Config.DeploymentMode)

theorem ensureDeployed_acts (id : ContractId) :
    (ensureDeployed engine.gateway mode id).Acts engine request scope fun _ => True := by
  apply Stage.Acts.bind (.mapError _ (.consult fun _ _ _ => trivial))
  intro entry _
  split
  · exact .pure trivial
  · cases mode with
    | eager => exact .fail _
    | «lazy» => exact .discard (.mapError _ (Deployment.deploy_acts id))

theorem send_acts (index : Nat) (call : Call) :
    (send engine.gateway mode index call).Acts engine request scope fun _ => True := by
  apply Stage.Acts.bind (ensureDeployed_acts mode call.contract)
  intro _ _
  apply Stage.Acts.bind (.mapError _ (.consult fun _ _ _ => trivial))
  intro deployed _
  exact .bind (.ofRun (.mapError _ (Gateway.command_acts lasting_always _))) fun _ _ => .pure trivial

theorem submitFrom_acts (index : Nat) (last : Option LastCall) (calls : List Call) :
    (submitFrom engine.gateway mode index last calls).Acts engine request scope fun _ => True := by
  induction calls generalizing index last with
  | nil => exact .pure trivial
  | cons call rest ih => exact .bind (send_acts mode index call) fun _ _ => ih _ _

end Submission

/-! ### A capture -/

def CaptureRequest.StateWritten (request : CaptureRequest) (contract : Ledger.Address) (history : List Action) : Prop :=
  ∀ start, request.legacyStart = some start → ∃ sender code, .writeState start contract sender code ∈ history

namespace Engine

variable {scope : Scope} (engine : Engine) (request : CaptureRequest)

theorem replay_acts : (engine.replay request).Acts engine request scope fun _ => True := by
  have submitted (mode : Config.DeploymentMode) :
      (Submission.submit engine.gateway mode request.block.calls).Acts engine request scope fun _ => True :=
    Submission.submitFrom_acts mode _ _ _
  unfold replay
  cases request.mode with
  | eager => exact .bind (.mapError _ Deployment.deployAll_acts) fun _ _ => .mapError _ (submitted _)
  | «lazy» => exact .mapError _ (submitted _)

theorem resolve_acts (last : Option LastCall) :
    (Resolution.resolve engine.gateway last).Acts engine request scope Always fun _ => Always := by
  cases last with
  | none => exact Run.Acts.throw _
  | some last =>
    have found : (Resolution.resolveMessage engine.gateway last.message last.address).Acts engine request scope Always
        fun _ => Always := by
      apply Run.Acts.bind (.mapError _ (Gateway.ask_acts lasting_always _))
      intro receipt
      split
      · exact Run.Acts.pure fun _ _ => trivial
      · exact Run.Acts.throw _
    exact Run.Acts.bind found fun _ => Run.Acts.pure fun _ _ => trivial

/-- The legacy files are made of a block, so it is fetched for them. -/
theorem fetchBlock_acts (location : Ledger.Location) :
    (engine.fetchBlock request location).Acts engine request scope Always fun block _ =>
      request.legacyStart.isSome → block.isSome := by
  unfold fetchBlock
  split
  · exact Run.Acts.bind (.mapError _ (Gateway.ask_acts lasting_always _)) fun _ => Run.Acts.pure fun _ _ _ => rfl
  · next unwanted =>
    refine Run.Acts.pure fun _ _ wanted => absurd ?_ unwanted
    rw [wanted, Bool.or_true]

theorem writeBlockFile_acts (block : Option Json) :
    (writeBlockFile request block).Acts engine request scope Always fun _ => Always := by
  unfold writeBlockFile
  split
  · next path document asked =>
    exact Run.Acts.bind (.mapError _ (writeDocument_acts lasting_always (.block asked) _)) fun _ =>
      Run.Acts.pure fun _ => id
  · exact Run.Acts.pure fun _ => id

theorem writeStateFile_acts (last : LastCall) (location : Ledger.Location) :
    (engine.writeStateFile request last location).Acts engine request scope Always fun _ => Always := by
  unfold writeStateFile
  split
  · next path asked =>
    refine Run.Acts.bind (.mapError _ (Gateway.ask_acts lasting_always _)) fun state => ?_
    exact Run.Acts.bind (.mapError _ (writeDocument_acts lasting_always (.state asked) _)) fun _ =>
      Run.Acts.pure fun _ => id
  · exact Run.Acts.pure fun _ => id

theorem writeState_acts {start : String} (asked : request.legacyStart = some start) (contract sender : Ledger.Address)
    {artifact : Artifact} {code : String} : (writeDocument (Legacy.statePath start)
      (Legacy.State.initial engine.config.legacy contract sender code).toJson).Acts engine request scope
      (.read artifact code ∈ ·) fun _ history => .writeState start contract sender code ∈ history := by
  intro outside opened history world reaches listed
  cases ran : writeDocument (Legacy.statePath start)
    (Legacy.State.initial engine.config.legacy contract sender code).toJson outside world with
  | mk result after =>
    cases result with
    | error fault =>
      cases writeDocument_world_of_error ran
      exact ⟨history, reaches, nofun⟩
    | ok done =>
      have allowed : (Action.writeState start contract sender code).Allowed request scope history :=
        ⟨asked, artifact, listed⟩
      have takes : (Action.writeState start contract sender code).Takes engine outside world after := ran
      exact ⟨_, reaches.step allowed takes, fun _ _ => List.mem_append_right _ (List.mem_singleton_self _)⟩

/-- The code is read before the legacy state is written with it. -/
theorem writeLegacyFiles_acts {registry : Registry} (within : registry.Within scope) (last : LastCall)
    {block : Option Json} (fetched : request.legacyStart.isSome → block.isSome) :
    (engine.writeLegacyFiles request registry last block).Acts engine request scope Always
      fun _ => request.StateWritten last.address := by
  unfold writeLegacyFiles
  split
  · next start document wanted =>
    have deployed : (Run.lift (registry.deployed last.contract)).Acts engine request scope Always
        fun found _ => found.2.Within scope := .lift fun found _ same _ => within.deployed same
    refine Run.Acts.bind_known (.mapError _ deployed) fun found inside => ?_
    apply Run.Acts.bind (.mapError _ (Artifact.readBytecode_acts inside))
    intro code
    apply Run.Acts.bind (.mapError _ (Gateway.command_acts (lasting_mem _) _))
    intro sender
    apply Run.Acts.bind (.mapError _ (engine.writeState_acts request wanted last.address sender))
    intro _
    have formatted : (Run.lift (Legacy.Block.ofDocument engine.config.legacy document)).Acts engine request scope
        (.writeState start last.address sender code ∈ ·)
        fun _ history => .writeState start last.address sender code ∈ history := .lift fun _ _ _ => id
    apply Run.Acts.bind (.mapError _ formatted)
    intro legacy
    apply Run.Acts.bind (.mapError _ (writeDocument_acts (lasting_mem _) (.legacy wanted) _))
    intro _
    refine Run.Acts.pure fun _ listed other asked => ?_
    rw [wanted] at asked
    cases asked
    exact ⟨sender, code, listed⟩
  · next none =>
    refine Run.Acts.pure fun _ _ start wanted => ?_
    rw [wanted] at fetched
    obtain ⟨document, there⟩ := Option.isSome_iff_exists.mp (fetched rfl)
    exact absurd there (none start document wanted)

theorem writeOutputs_acts {registry : Registry} (within : registry.Within scope) (last : LastCall)
    (location : Ledger.Location) : (engine.writeOutputs request registry last location).Acts engine request scope Always
      fun _ => request.StateWritten last.address := by
  refine Run.Acts.bind_known (engine.fetchBlock_acts request location) fun block fetched => ?_
  apply Run.Acts.bind (engine.writeBlockFile_acts request block)
  intro blockFiles
  apply Run.Acts.bind (engine.writeStateFile_acts request last location)
  intro stateFiles
  exact Run.Acts.bind (engine.writeLegacyFiles_acts request within last fetched) fun _ => Run.Acts.pure fun _ => id

theorem captureWithin_acts (scope : Scope) : (engine.captureWithin request scope).Acts engine request scope Always
    fun report => request.StateWritten report.contract := by
  have made : (Run.lift (Registry.ofContracts request.block.contracts)).Acts engine request scope Always
      fun registry _ => registry.Within scope :=
    .lift fun registry _ made _ => Registry.within_of_fresh (Registry.ofContracts_fresh made)
  refine Run.Acts.bind_known (.mapError _ made) fun registry within => ?_
  have session : Session.Within ⟨registry, .empty engine.compiler scope⟩ engine scope :=
    ⟨rfl, rfl, nofun, within⟩
  refine Run.Acts.bind_known (engine.replay_acts request _ session) fun reached ensured => ?_
  apply Run.Acts.bind (.mapError _ (engine.resolve_acts request _))
  intro found
  exact Run.Acts.bind (engine.writeOutputs_acts request ensured.2.noted found.1 found.2) fun _ =>
    Run.Acts.pure fun _ => id

/-- A replay that ends well leads on, and all artifacts that it has noted are in the scope. -/
theorem replay_reaches {engine : Engine} {request : CaptureRequest} {outside : Outside} {opened between : World}
    {registry : Registry} {session : Session} {last : Option LastCall}
    (made : Registry.ofContracts request.block.contracts = .ok registry)
    (ran : engine.replay request ⟨registry, .empty engine.compiler scope⟩ outside opened =
      (.ok last, session, between)) :
    ∃ history, engine.Reaches request scope outside opened history between ∧ session.registry.Within scope := by
  have fresh : Session.Within ⟨registry, .empty engine.compiler scope⟩ engine scope :=
    ⟨rfl, rfl, nofun, Registry.within_of_fresh (Registry.ofContracts_fresh made)⟩
  obtain ⟨history, reaches, ensured⟩ := engine.replay_acts request _ fresh outside opened [] opened .opened trivial
  rw [Stage.run_of_ok ran] at reaches ensured
  exact ⟨history, reaches, (ensured _ rfl).2.noted⟩

end Engine

end LedgerCapture
