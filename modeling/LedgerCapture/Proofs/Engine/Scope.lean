import LedgerCapture.Proofs.Artifact.Confined
import LedgerCapture.Proofs.Engine.History
import LedgerCapture.Proofs.Engine.Supervision
import LedgerCapture.Rehearsal.Outside

/-!
The scope of a capture stands until the capture is over, and then it is removed. Nothing that an engine of the settings
does in between takes anything away, and a compiler that keeps to its output directory stays below the scope. Whether
the scope is gone then is up to the system, which may be unable to take away what lies in it.
-/
namespace LedgerCapture

open Engine (Action)

/-- Whether an event is not a compilation, or one into the scope. -/
def Event.isInside (scope : Scope) (event : Event) : Bool :=
  event.compilation?.all fun (source, output, _) => output == scope.output source

def Event.isUncompiled (event : Event) : Bool :=
  event.compilation?.isNone

/-- Whether an event can belong to what is done around the work with a node. -/
def Event.isAround (event : Event) : Bool :=
  event.isCarrier || !event.isWork

namespace Event

variable {scope : Scope} {event : Event}

theorem isInside_of_isUncompiled (uncompiled : event.isUncompiled) : event.isInside scope := by
  rw [isInside, Option.isNone_iff_eq_none.mp uncompiled]
  rfl

theorem isUncompiled_of_isCarrier (event : Event) (carrier : event.isCarrier) : event.isUncompiled := by
  cases event <;> first | rfl | simp [isCarrier] at carrier

theorem isAround_of_isWaiting (event : Event) (waiting : event.isWaiting) : event.isAround := by
  cases event <;> first | rfl | simp [isWaiting, isCarrier] at waiting

end Event

/-! ### Around the work -/

namespace Node

theorem launching_around (settings : Config.Node) : ∀ event ∈ launching settings, event.isAround := by
  unfold launching
  split
  · exact List.forall_mem_singleton.mpr rfl
  · nofun

theorem Waited.around {attempts : Nat} {lastError : String} {events : Journal} {result : Except NodeError Unit}
    (waited : Waited attempts lastError events result) : ∀ event ∈ events, event.isAround := by
  induction waited with
  | ready | ended | unseen => exact List.forall_mem_singleton.mpr rfl
  | exhausted => nofun
  | passing waiting _ ih => exact List.forall_mem_cons.mpr ⟨Event.isAround_of_isWaiting _ waiting, ih⟩
  | refused _ ih => exact List.forall_mem_cons.mpr ⟨rfl, ih⟩

theorem Stopped.around {owned : Bool} {events : Journal} {result : Except NodeError Unit}
    (stopped : Stopped owned events result) : ∀ event ∈ events, event.isAround := by
  cases stopped <;> simp [Event.isAround, Event.isCarrier, Event.isWork]

end Node

namespace Engine

variable {α : Type} {engine : Engine}

/-- Some work with a node is left undone, whatever it is, or it is done once the node is ready. Before the work the
files are changed by probes only, and after it not at all. -/
theorem withNode_rel {relation : Files → Files → Prop} (refl : ∀ files, relation files files)
    (trans : ∀ {files between after}, relation files between → relation between after → relation files after)
    {outside : Outside}
    (probes : ∀ world : World, relation world.files (engine.gateway.ask .probe outside world).2.files)
    (world : World) :
    (∃ fault final, World.Adds Event.isAround world final ∧
      ∀ work : Run EngineError α, engine.withNode work outside world = (.error (.node fault), final)) ∨
    ∃ start, World.Adds Event.isAround world start ∧ relation world.files start.files ∧
      ∀ work : Run EngineError α, ∃ stop final,
      engine.withNode work outside world = (outcome (work outside start).1 stop, final) ∧
      final.files = (work outside start).2.files ∧ World.Adds Event.isAround (work outside start).2 final := by
  rcases Node.start_cases engine.config.node outside world with
    ⟨fault, launches, started⟩ | ⟨node, launched, started, owned, journal⟩
  · exact .inl ⟨_, _, .record world rfl, fun work => withNode_of_unlaunched work started⟩
  have launching : World.Adds Event.isAround world launched := ⟨_, journal, Node.launching_around _⟩
  have launchedFiles := Node.start_keepsFiles engine.config.node outside world
  have probed := node.probe_rel refl trans probes engine.config.node.readiness
    engine.config.node.readiness.maxAttempts.toNat "no probe attempted" launched
  rw [started] at launchedFiles
  cases waiting : node.waitReady engine.gateway engine.config.node.readiness outside launched with
  | mk ready start =>
    obtain ⟨events, waitedFor, waited⟩ := node.waitReady_waits _ _ waiting
    have begun : World.Adds Event.isAround world start := launching.trans ⟨events, waitedFor, waited.around⟩
    rw [← Node.waitReady, waiting, launchedFiles] at probed
    cases ready with
    | error fault =>
      obtain ⟨stop, final, stopping, stopped, -, stoppedFor, how⟩ := node.shutdown_stopped outside start
      exact .inl ⟨fault, final, begun.trans ⟨stopping, stoppedFor, how.around⟩, fun work =>
        withNode_of_unready work started waiting stopped⟩
    | ok done =>
      refine .inr ⟨start, begun, probed, fun work => ?_⟩
      obtain ⟨stop, final, stopping, stopped, untouched, stoppedFor, how⟩ :=
        node.shutdown_stopped outside (work outside start).2
      exact ⟨stop, final, withNode_of_ready started waiting rfl stopped, untouched, stopping, stoppedFor, how.around⟩

end Engine

theorem World.alter_eq_ok {ε : Type} {change : Files → Except SystemError Files} {wrap : SystemError → ε} {done : Unit}
    {outside : Outside} {world after : World}
    (ran : (World.alter change).mapError wrap outside world = (.ok done, after)) :
    change world.files = .ok after.files := by
  simp only [Run.mapError, World.alter] at ran
  cases changed : change world.files with
  | error fault =>
    rw [changed] at ran
    cases ran
  | ok files =>
    rw [changed] at ran
    cases ran
    rfl

/-- A scope has the first of the names that is not taken. -/
theorem Scope.firstFree_eq_ok {files : Files} {parent : String} {names : List String} {scope : Scope}
    (found : firstFree files parent names = .ok scope) : ∃ earlier name later, names = earlier ++ name :: later ∧
      (∀ taken ∈ earlier, files.vacant (Path.join parent taken) = .error .present) ∧
      scope.path = Path.join parent name ∧ files.vacant scope.path = .ok scope.place := by
  have opened : (names.findSome? fun name => openAt? files (Path.join parent name)) = some (.ok scope) := by
    unfold firstFree at found
    cases drawn : names.findSome? fun name => openAt? files (Path.join parent name) with
    | none =>
      rw [drawn] at found
      cases found
    | some result =>
      rw [drawn] at found
      exact congrArg some found
  obtain ⟨earlier, name, later, rfl, here, before⟩ := List.findSome?_eq_some_iff.mp opened
  refine ⟨earlier, name, later, rfl, fun taken listed => ?_, ?_⟩
  · have refused := before taken listed
    unfold openAt? at refused
    split at refused
    · cases refused
    · next present => exact present
    · cases refused
  · unfold openAt? at here
    split at here
    · next place vacant =>
      cases here
      exact ⟨rfl, vacant⟩
    · cases here
    · cases here

/-- A scope is made where nothing was, after the directories above it. -/
theorem Scope.create_made {base : Option String} {scope : Scope} {outside : Outside} {start opened : World}
    (created : Scope.create base outside start = (.ok scope, opened)) :
    ∃ before : Files, (before = start.files ∨ ∃ path, start.files.makeDirectories path = .ok before) ∧
      Path.isAbsolute scope.path = true ∧ before.vacant scope.path = .ok scope.place ∧
      opened.files = before.put scope.place .directory := by
  have free {files : Files} {parent : String} {names : List String} {scope : Scope}
      (found : firstFree files (Path.join files.current.path parent) names = .ok scope) :
      Path.isAbsolute scope.path = true ∧ files.vacant scope.path = .ok scope.place := by
    obtain ⟨-, name, -, -, -, path, vacant⟩ := firstFree_eq_ok found
    exact ⟨path ▸ Path.isAbsolute_join (Path.isAbsolute_join (Path.isAbsolute_place _) _) _, vacant⟩
  cases base with
  | none =>
    dsimp only [create] at created
    split at created
    · next found =>
      cases created
      obtain ⟨absolute, vacant⟩ := free found
      exact ⟨start.files, .inl rfl, absolute, vacant, rfl⟩
    · cases created
  | some base =>
    obtain ⟨done, ready, made, created⟩ := Run.bind_eq_ok created
    dsimp only at created
    split at created
    · next found =>
      cases created
      obtain ⟨absolute, vacant⟩ := free found
      exact ⟨ready.files, .inr ⟨base, World.alter_eq_ok made⟩, absolute, vacant, rfl⟩
    · cases created

theorem Scope.create_opens {base : Option String} {scope : Scope} {outside : Outside} {start opened : World}
    (tree : start.files.IsTree) (created : Scope.create base outside start = (.ok scope, opened)) :
    ∃ before : Files, before.Opens scope.path scope.place ∧ opened.files = before.put scope.place .directory := by
  obtain ⟨before, rfl | ⟨path, made⟩, absolute, vacant, put⟩ := create_made created
  · exact ⟨_, ⟨tree, absolute, vacant⟩, put⟩
  · exact ⟨before, ⟨tree.makeDirectories made, absolute, vacant⟩, put⟩

/-! ### While the scope stands -/

namespace Engine

section

variable {engine : Engine} {request : CaptureRequest} {scope : Scope} {outside : Outside} {before : Files}
  {opened world after : World} {history : List Action} {action : Action}

/-- Where a source is compiled to is a place of its own in the scope. -/
theorem resolve_output (opens : before.Opens scope.path scope.place) (stands : before.Stands scope.place world.files)
    (source : String) : ∃ entry,
      world.files.resolve false (scope.output source) = .ok ⟨scope.place ++ [Artifact.keyOfText source], entry⟩ := by
  have proper : Files.IsProper (Artifact.keyOfText source) :=
    ⟨Artifact.key_ne_of_length _ (by decide), Artifact.key_ne_of_length _ (by decide)⟩
  have short : (Artifact.keyOfText source).utf8ByteSize ≤ 255 := by
    rw [Artifact.keyOfText, Artifact.utf8ByteSize_key]
    decide
  have isName := Artifact.key_isName source.toUTF8.toList
  exact ⟨_, opens.resolve_join stands isName proper
    (opens.checkNames_join isName (fun _ => Artifact.ne_zero_of_mem_key _) short) nofun⟩

theorem build_apart (confined : engine.compiler.Confined outside) (opens : before.Opens scope.path scope.place)
    (stands : before.Stands scope.place world.files) (source : String) :
    ∀ other, ¬ scope.place ++ [Artifact.keyOfText source] <+: other →
      (engine.compiler.build source (scope.output source) outside world).2.files.entry? other =
        world.files.entry? other := by
  obtain ⟨entry, resolved⟩ := resolve_output opens stands source
  exact confined.around source _ _ world _ entry opens.absolute (Artifact.key_isName _) stands.tree resolved

/-- Each action leaves the scope standing. -/
theorem Action.Takes.stands (spares : engine.gateway.Spares) (confined : engine.compiler.Confined outside)
    (opens : before.Opens scope.path scope.place) (stands : before.Stands scope.place world.files)
    (allowed : action.Allowed request scope history) (takes : action.Takes engine outside world after) :
    before.Stands scope.place after.files := by
  cases action with
  | wallet command =>
    subst takes
    exact stands.grow (spares.command command outside world)
  | lookup command =>
    subst takes
    exact stands.grow (spares.ask command outside world)
  | salt =>
    subst takes
    exact stands
  | compile source output =>
    subst takes
    cases allowed
    exact stands.within (confined.isTree _ _ world stands.tree) (build_apart confined opens stands source)
  | read artifact code =>
    cases Artifact.readBytecode_world takes
    exact stands
  | write path document =>
    subst takes
    exact stands.grow (writeDocument_spares _ _ outside world)
  | writeState start contract sender code =>
    exact stands.grow ((writeDocument_spares _ _).of_ran takes)

/-- The scope stands in every world that is reached. -/
theorem Reaches.stands (spares : engine.gateway.Spares) (confined : engine.compiler.Confined outside)
    (opens : before.Opens scope.path scope.place) (stands : before.Stands scope.place opened.files)
    (reaches : engine.Reaches request scope outside opened history world) : before.Stands scope.place world.files := by
  induction reaches with
  | opened => exact stands
  | step _ allowed takes ih => exact takes.stands spares confined opens ih allowed

theorem Action.Takes.adds (allowed : action.Allowed request scope history)
    (takes : action.Takes engine outside world after) : World.Adds (Event.isInside scope) world after := by
  have carriers (event : Event) (carrier : event.isCarrier) : event.isInside scope :=
    Event.isInside_of_isUncompiled (event.isUncompiled_of_isCarrier carrier)
  cases action with
  | wallet command =>
    subst takes
    exact Gateway.command_adds carriers (fun _ => rfl) outside world
  | lookup command =>
    subst takes
    exact Gateway.ask_adds carriers (fun _ => rfl) outside world
  | salt =>
    subst takes
    exact .record world rfl
  | compile source output =>
    subst takes
    cases allowed
    refine ((engine.compiler.compile_adds _ _ outside world).mono carriers).trans (.record _ ?_)
    exact beq_self_eq_true (scope.output source)
  | read artifact code =>
    cases Artifact.readBytecode_world takes
    exact .refl world
  | write path document =>
    subst takes
    exact writeDocument_adds path document outside world
  | writeState start contract sender code =>
    exact (writeDocument_adds _ _).of_ran takes

theorem Reaches.adds (reaches : engine.Reaches request scope outside opened history world) :
    World.Adds (Event.isInside scope) opened world := by
  induction reaches with
  | opened => exact .refl opened
  | step _ allowed takes ih => exact ih.trans (takes.adds allowed)

/-- The legacy state of a contract has been written, with code that had been read from the scope before. -/
def Recorded (engine : Engine) (request : CaptureRequest) (scope : Scope) (outside : Outside) (opened : World)
    (history : List Action) (start : String) (contract sender : Ledger.Address) (code : String) : Prop :=
  ∃ (artifact : Artifact) (earlier later : List Action) (reached writing written : World),
    earlier <+: later ∧ later <+: history ∧ engine.Reaches request scope outside opened earlier reached ∧
    artifact.Within scope ∧ artifact.readBytecode outside reached = (.ok code, reached) ∧
    engine.Reaches request scope outside opened later writing ∧ writeDocument (Legacy.statePath start)
      (Legacy.State.initial engine.config.legacy contract sender code).toJson outside writing = (.ok (), written)

theorem Reaches.recorded {start code : String} {contract sender : Ledger.Address}
    (reaches : engine.Reaches request scope outside opened history world)
    (listed : .writeState start contract sender code ∈ history) :
    engine.Recorded request scope outside opened history start contract sender code := by
  obtain ⟨later, writing, written, way, reachesWriting, ⟨-, artifact, known⟩, takes⟩ := reaches.exists_takes listed
  obtain ⟨earlier, reached, same, wayBefore, reachesRead, inside, read⟩ := reachesWriting.exists_takes known
  cases Artifact.readBytecode_world read
  exact ⟨artifact, earlier, later, _, writing, written, wayBefore, way, reachesRead, inside, read, reachesWriting,
    takes⟩

end

/-! ### A whole capture -/

section

variable {engine : Engine} {request : CaptureRequest} {scope : Scope} {outside : Outside}
  {start opened closing final : World} {worked : Except EngineError Report}

theorem captureWork_of_error {fault : ArtifactError} (request : CaptureRequest)
    (created : Scope.create engine.config.artifactDirectory outside start = (.error fault, opened)) :
    engine.captureWork request outside start = (.error (.artifact fault), opened) :=
  Run.bind_of_error (Run.mapError_of_error created)

theorem captureWork_of_ok (created : Scope.create engine.config.artifactDirectory outside start = (.ok scope, opened))
    (ran : engine.captureWithin request scope outside opened = (worked, closing)) :
    engine.captureWork request outside start = (worked, scope.discard outside closing) := by
  rw [captureWork, Run.bind_of_ok (Run.mapError_of_ok created)]
  simp only [Run.andFinally, ran]

end

end Engine

/-- In a rehearsal the compiler is confined, if the script gives its files proper names. -/
theorem Rehearsal.ofProgram_confined {files : Files} {temporaryDirectory : String} {script : List ScriptedProcess}
    (settings : Config.Compiler) (named : ∀ process ∈ script, ∀ left, process.files = some left →
      ∀ file ∈ left, Path.IsName file.1 ∧ Files.IsProper file.1) :
    (Compiler.ofProgram settings).Confined (outside files temporaryDirectory script) := by
  apply Compiler.ofProgram_confined
  intro journal source output left directory ran made
  obtain ⟨program, -, started⟩ := bind_eq_ok_iff.mp ran
  cases program with
  | known course stdout =>
    cases started
    cases made
  | scripted =>
    cases started
    obtain ⟨deposited, there, same⟩ := Option.bind_eq_some_iff.mp made
    cases same
    refine ⟨rfl, ?_⟩
    rw [nextProcess, List.getD_eq_getElem?_getD] at there
    cases next : script[(journal.filterMap scriptedStart?).length]? with
    | none =>
      rw [next] at there
      cases there
    | some process =>
      rw [next] at there
      exact named process (List.mem_of_getElem? next) deposited there

namespace Engine

end Engine

end LedgerCapture
