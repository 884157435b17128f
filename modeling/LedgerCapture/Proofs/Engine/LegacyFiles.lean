import LedgerCapture.Proofs.Engine.Fault
import LedgerCapture.Proofs.Engine.Scope
import LedgerCapture.Proofs.Files.Content
import Mathlib.Logic.Relation

/-!
The legacy files of a capture whose block cannot be translated. The state does not depend on the block and is written
before the block is translated, so it can be left behind alone. Nothing is written for the block, and up to the state
the capture goes on as one that is not asked for legacy files.
-/
namespace LedgerCapture

open Engine (Action)

/-! ### Blocks in the journal -/

namespace Event

def block? : Event → Option Json
  | lookup (.block _ _) (.ok document) => some document
  | _ => none

def isBlockless (event : Event) : Bool :=
  event.block?.isNone

theorem isBlockless_of_block (event : Event) {document : Json} (block : event.block? = some document) :
    event.isBlockless = false := by
  rw [isBlockless, block]
  rfl

theorem isBlockless_of_isCompiling (event : Event) (compiling : event.isCompiling) : event.isBlockless := by
  cases event <;> first | rfl | simp [isCompiling, isCarrier] at compiling

theorem isBlockless_of_isCarrier (event : Event) (carrier : event.isCarrier) : event.isBlockless :=
  event.isBlockless_of_isCompiling (event.isCompiling_of_isCarrier carrier)

theorem isBlockless_of_isAround (event : Event) (around : event.isAround) : event.isBlockless := by
  cases event with
  | lookup command answer => cases command <;> first | rfl | simp [isAround, isCarrier, isWork] at around
  | _ => rfl

theorem replaying_blockless : Replaying isBlockless where
  compiling := isBlockless_of_isCompiling
  salt _ := rfl
  wallet _ _ := rfl

end Event

def Journal.blocks (journal : Journal) : List Json :=
  journal.filterMap Event.block?

namespace World

variable {kind kind' : Event → Bool} {first second third : World} {event : Event}

theorem Adds.since_append (left : Adds kind first second) (right : Adds kind' second third) :
    first.since third = first.since second ++ second.since third := by
  obtain ⟨events, journal, -⟩ := left
  obtain ⟨more, later, -⟩ := right
  simp [since, later, journal, List.append_assoc]

theorem Adds.not_mem_since (adds : Adds kind first second) (other : kind event = false) :
    event ∉ first.since second := by
  obtain ⟨events, journal, ofKind⟩ := adds
  rw [since, journal, List.drop_left]
  intro listed
  rw [ofKind event listed] at other
  cases other

theorem Adds.later (left : Adds kind first second) (right : Adds kind' second third) (other : kind event = false)
    (entered : event ∈ first.since third) : event ∈ second.since third := by
  rw [left.since_append right] at entered
  exact (List.mem_append.mp entered).resolve_left (left.not_mem_since other)

theorem Adds.earlier (left : Adds kind first second) (right : Adds kind' second third) (other : kind' event = false)
    (entered : event ∈ first.since third) : event ∈ first.since second := by
  rw [left.since_append right] at entered
  exact (List.mem_append.mp entered).resolve_right (right.not_mem_since other)

/-- An event of another kind than all others around it is the one that was recorded among them. -/
theorem Adds.eq_recorded {recorded : Event} (left : Adds kind first second)
    (right : Adds kind (second.record recorded) third) (other : kind event = false)
    (entered : event ∈ first.since third) : event = recorded := by
  have single : Adds (fun _ => true) second (second.record recorded) := .record second rfl
  have alone : second.since (second.record recorded) = [recorded] := List.drop_left ..
  have here := single.earlier right other (left.later (single.trans (right.mono fun _ _ => rfl)) other entered)
  rw [alone] at here
  exact List.mem_singleton.mp here

end World

namespace Engine

theorem writing_blockless : Writing Event.isBlockless where
  carriers := Event.isBlockless_of_isCarrier
  state _ _ _ := rfl
  wallet _ := rfl

section

variable {engine : Engine} {command : LookupCommand} {outside : Outside} {world after : World}
  {answer : Except GatewayError command.Reply}
  (answered : engine.gateway.ask command outside world = (answer, after))
include answered

/-- The answer to a question is entered last. -/
theorem ask_records : ∃ carried, World.Adds Event.isCarrier world carried ∧
    after = carried.record (.lookup command answer) := by
  simp only [Gateway.ask, Prod.mk.injEq] at answered
  obtain ⟨rfl, rfl⟩ := answered
  exact ⟨_, engine.gateway.lookup.perform_adds command outside world, rfl⟩

theorem Reaches.lookup {request : CaptureRequest} {scope : Scope} {opened : World} {history : List Action}
    (reaches : engine.Reaches request scope outside opened history world) :
    engine.Reaches request scope outside opened (history ++ [.lookup command]) after :=
  reaches.step trivial (congrArg Prod.snd answered).symm

end

end Engine

/-! ### Half of the legacy files -/

def CaptureRequest.withoutLegacy (request : CaptureRequest) : CaptureRequest :=
  { request with legacyStart := none }

namespace Engine

def Untranslating (error : EngineError) : Prop :=
  ∀ fault, error ≠ .format fault

theorem outer_untranslating : Outer Untranslating :=
  ⟨fun _ => nofun, fun _ => nofun, fun _ => nofun⟩

/-- What is left of the legacy files when the block cannot be translated: none of them is written, and something
else has failed, or the state is written as the last thing, with code that was read before. -/
inductive Halfway (engine : Engine) (request : CaptureRequest) (start : String) (fault : Legacy.FormatError)
    (scope : Scope) (outside : Outside) (opened : World) : EngineError → World → Prop where
  | unwritten {error : EngineError} {history : List Action} {closing : World}
      (reaches : engine.Reaches request.withoutLegacy scope outside opened history closing)
      (earlier : Untranslating error) : Halfway engine request start fault scope outside opened error closing
  | stateOnly {history : List Action} {before closing : World} {artifact : Artifact} {code : String}
      {contract sender : Ledger.Address}
      (reaches : engine.Reaches request.withoutLegacy scope outside opened history before)
      (read : .read artifact code ∈ history)
      (takes : (Action.writeState start contract sender code).Takes engine outside before closing) :
      Halfway engine request start fault scope outside opened (.format fault) closing

section

variable {engine : Engine} {request : CaptureRequest} {start : String} {fault : Legacy.FormatError} {scope : Scope}
  {outside : Outside} {opened world closing : World} {history : List Action} {α β : Type}

def EndsHalfway (engine : Engine) (request : CaptureRequest) (start : String) (fault : Legacy.FormatError)
    (scope : Scope) (outside : Outside) (opened : World) (ended : Except EngineError α × World) : Prop :=
  ∃ error, ended.1 = .error error ∧ Halfway engine request start fault scope outside opened error ended.2

/-- A step that fails is the end, with nothing written; otherwise the rest has to end halfway. -/
theorem endsHalfway_bind {first : Run EngineError α} {next : α → Run EngineError β} {requires : List Action → Prop}
    {ensures : α → List Action → Prop} (acts : first.Acts engine request.withoutLegacy scope requires ensures)
    (fails : first.FailsWith Untranslating)
    (reaches : engine.Reaches request.withoutLegacy scope outside opened history world) (required : requires history)
    (onward : ∀ value later between, engine.Reaches request.withoutLegacy scope outside opened later between →
      ensures value later → EndsHalfway engine request start fault scope outside opened (next value outside between)) :
    EndsHalfway engine request start fault scope outside opened ((first >>= next) outside world) := by
  obtain ⟨later, reachesLater, ensured⟩ := acts outside opened history world reaches required
  cases ran : first outside world with
  | mk result between =>
    rw [ran] at reachesLater ensured
    cases result with
    | error error =>
      rw [Run.bind_of_error ran]
      exact ⟨error, rfl, .unwritten reachesLater (fails outside world error between ran)⟩
    | ok value =>
      rw [Run.bind_of_ok ran]
      exact onward value later between reachesLater (ensured value rfl)

variable {document : Json} {registry : Registry} (asked : request.legacyStart = some start)
  (untranslatable : Legacy.Block.ofDocument engine.config.legacy document = .error fault)
  (within : registry.Within scope)
  (reaches : engine.Reaches request.withoutLegacy scope outside opened history world)
include asked untranslatable within reaches

theorem writeLegacyFiles_halfway (last : LastCall) : EndsHalfway engine request start fault scope outside opened
    (engine.writeLegacyFiles request registry last (some document) outside world) := by
  unfold writeLegacyFiles
  rw [asked]
  dsimp only
  have deployed : (Run.lift (registry.deployed last.contract)).Acts engine request.withoutLegacy scope Always
      fun found _ => found.2.Within scope := .lift fun found _ same _ => within.deployed same
  have registered (fault : RegistryError) : Untranslating (.registry fault) := nofun
  refine endsHalfway_bind (.mapError _ deployed) (.mapError registered _) reaches trivial ?_
  intro found later between reaches inside
  refine endsHalfway_bind (.mapError _ (Artifact.readBytecode_acts inside)) (.mapError outer_untranslating.artifact _)
    reaches trivial ?_
  intro code later between reaches read
  refine endsHalfway_bind (.mapError _ (Gateway.command_acts (lasting_mem _) _))
    (.mapError outer_untranslating.gateway _) reaches read ?_
  intro sender later between reaches read
  cases ran : writeDocument (Legacy.statePath start)
    (Legacy.State.initial engine.config.legacy last.address sender code).toJson outside between with
  | mk result after =>
    cases result with
    | error error =>
      cases writeDocument_world_of_error ran
      rw [Run.bind_of_error (Run.mapError_of_error ran)]
      exact ⟨_, rfl, .unwritten reaches nofun⟩
    | ok done =>
      rw [Run.bind_of_ok (Run.mapError_of_ok ran), untranslatable]
      exact ⟨_, rfl, .stateOnly reaches read ran⟩

theorem writeFetched_halfway (last : LastCall) (location : Ledger.Location) :
    EndsHalfway engine request start fault scope outside opened
      (engine.writeFetched request registry last location (some document) outside world) := by
  refine endsHalfway_bind (engine.writeBlockFile_acts request.withoutLegacy _)
    (writeBlockFile_failsWith outer_untranslating request _) reaches trivial ?_
  intro blockFiles later between reaches _
  refine endsHalfway_bind (engine.writeStateFile_acts request.withoutLegacy last location)
    (writeStateFile_failsWith outer_untranslating engine request last location) reaches trivial ?_
  intro stateFiles later between reaches _
  obtain ⟨error, failed, halfway⟩ := writeLegacyFiles_halfway asked untranslatable within reaches last
  cases ran : engine.writeLegacyFiles request registry last (some document) outside between with
  | mk result after =>
    rw [ran] at failed halfway
    cases failed
    rw [Run.bind_of_error ran]
    exact ⟨error, rfl, halfway⟩

omit asked untranslatable within reaches in
theorem fetchBlock_of_answer {location : Ledger.Location} {answer : Except GatewayError Json} {between : World}
    (asked : request.legacyStart.isSome)
    (answered : engine.gateway.ask (.block location.shard location.block) outside world = (answer, between)) :
    engine.fetchBlock request location outside world = ((answer.map some).mapError .gateway, between) := by
  rw [fetchBlock, asked, Bool.or_true, if_pos rfl]
  cases answer with
  | error error => exact Run.bind_of_error (Run.mapError_of_error answered)
  | ok found => exact Run.bind_of_ok (Run.mapError_of_ok answered)

omit untranslatable in
/-- The block that was answered is the one that is fetched for the files. -/
theorem writeOutputs_halfway {last : LastCall} {location : Ledger.Location} {event : Event}
    {files : Except EngineError (List String)} (written : engine.writeOutputs request registry last location outside
      world = (files, closing)) (entered : event ∈ world.since closing) (block : event.block? = some document)
    (untranslatable : Legacy.Block.ofDocument engine.config.legacy document = .error fault) :
    EndsHalfway engine request start fault scope outside opened (files, closing) := by
  have brings := event.isBlockless_of_block block
  rw [writeOutputs_eq] at written
  cases answered : engine.gateway.ask (.block location.shard location.block) outside world with
  | mk answer between =>
    have fetched := fetchBlock_of_answer (Option.isSome_iff_exists.mpr ⟨start, asked⟩) answered
    obtain ⟨carried, carries, rfl⟩ := ask_records answered
    have carrying : World.Adds Event.isBlockless world carried := carries.mono Event.isBlockless_of_isCarrier
    cases answer with
    | error error =>
      rw [Run.bind_of_error fetched] at written
      cases written
      rw [carrying.eq_recorded (.refl _) brings entered] at block
      cases block
    | ok found =>
      rw [Run.bind_of_ok fetched] at written
      have rest := (writeFetched_adds writing_blockless engine request registry last location _).of_ran written
      rw [carrying.eq_recorded rest brings entered] at block
      cases block
      rw [← written]
      exact writeFetched_halfway asked untranslatable within (reaches.lookup answered) last location

omit within reaches untranslatable in
/-- Before the outputs are written no block is fetched, and after them no other one. -/
theorem Staged.endsHalfway {event : Event} {result : Except EngineError Report}
    (staged : Staged engine request scope outside opened result closing) (entered : event ∈ opened.since closing)
    (block : event.block? = some document)
    (untranslatable : Legacy.Block.ofDocument engine.config.legacy document = .error fault) :
    EndsHalfway engine request start fault scope outside opened (result, closing) := by
  have brings := event.isBlockless_of_block block
  have absent {kind : Event → Bool} (adds : World.Adds kind opened closing) (other : kind event = false) :
      EndsHalfway engine request start fault scope outside opened (result, closing) :=
    absurd entered (adds.not_mem_since other)
  have replaying (session : Session) := (engine.replay_adds Event.replaying_blockless.calling request) session
  have asking {message : Ledger.MessageHash} : Run.Adds Event.isBlockless (engine.gateway.ask (.receipt message)) :=
    Gateway.ask_adds Event.isBlockless_of_isCarrier fun _ => rfl
  cases staged with
  | unregistered refused => exact absent (.refl _) brings
  | unreplayed made ran => exact absent ((replaying _).of_ran (Stage.run_of_error ran)) brings
  | uncalled made ran => exact absent ((replaying _).of_ran (Stage.run_of_ok ran)) brings
  | unfetched made ran answered =>
    exact absent (((replaying _).of_ran (Stage.run_of_ok ran)).trans (asking.of_ran answered)) brings
  | lost made ran answered unfound =>
    exact absent (((replaying _).of_ran (Stage.run_of_ok ran)).trans (asking.of_ran answered)) brings
  | @located registry last session between fetched _ receipt execution files made ran answered present written =>
    have replayed := Stage.run_of_ok ran
    have fetching := ((replaying _).of_ran replayed).trans (asking.of_ran answered)
    obtain ⟨history, reaches, within⟩ : ∃ history,
        engine.Reaches request.withoutLegacy scope outside opened history between ∧ session.registry.Within scope :=
      replay_reaches made ran
    have writing := (writeOutputs_adds recording_work engine request _ _ _).of_ran written
    obtain ⟨error, failed, halfway⟩ := writeOutputs_halfway asked within (reaches.lookup answered) written
      (fetching.later writing brings entered) block untranslatable
    cases failed
    exact ⟨error, rfl, halfway⟩

end

/-! ### Files that are left alone -/

/-- Whether an action is up to a program, a node or the compiler. -/
def Action.isForeign : Action → Bool
  | .wallet _ | .lookup _ | .compile _ _ => true
  | _ => false

def LeadsTo (engine : Engine) (request : CaptureRequest) (scope : Scope) (outside : Outside) (opened : World)
    (path : String) (place : Place) : Prop :=
  ∃ history world entry, engine.Reaches request scope outside opened history world ∧
    world.files.resolve true path = .ok ⟨place, entry⟩

/-- No document that is asked for goes to the place, and others leave it alone as well. -/
structure Apart (engine : Engine) (request : CaptureRequest) (scope : Scope) (outside : Outside) (opened : World)
    (place : Place) : Prop where
  outOfScope : ¬ scope.place <+: place
  probes : ∀ world : World,
    (engine.gateway.ask .probe outside world).2.files.contentAt? place = world.files.contentAt? place
  foreign : ∀ history (world : World) (action : Action) (after : World),
    engine.Reaches request scope outside opened history world → action.Allowed request scope history →
    action.isForeign → action.Takes engine outside world after →
    after.files.contentAt? place = world.files.contentAt? place
  unasked : ∀ path, request.Asks path → ¬ engine.LeadsTo request scope outside opened path place

section

variable {engine : Engine} {request : CaptureRequest} {scope : Scope} {outside : Outside} {opened world : World}
  {history : List Action} {place : Place}

theorem writeDocument_contentAt? {path : String} {document : Json} {after : World}
    (ran : writeDocument path document outside world = (.ok (), after)) (unled : ∀ entry,
      world.files.resolve true path ≠ .ok ⟨place, entry⟩) :
    after.files.contentAt? place = world.files.contentAt? place := by
  obtain ⟨found, resolved, -, others⟩ := Files.contentAt?_write (World.alter_eq_ok ran)
  refine others place ?_
  rintro rfl
  exact unled found.entry resolved

theorem Reaches.contentAt? (apart : engine.Apart request.withoutLegacy scope outside opened place)
    (reaches : engine.Reaches request.withoutLegacy scope outside opened history world) :
    world.files.contentAt? place = opened.files.contentAt? place := by
  induction reaches with
  | opened => rfl
  | @step history world after action reaches allowed takes ih =>
    refine Eq.trans ?_ ih
    cases action with
    | wallet | lookup | compile => exact apart.foreign _ _ _ _ reaches allowed rfl takes
    | salt =>
      subst takes
      rfl
    | read artifact code =>
      cases Artifact.readBytecode_world takes
      rfl
    | write path document =>
      subst takes
      cases ran : writeDocument path document outside world with
      | mk result after =>
        cases result with
        | error error =>
          cases writeDocument_world_of_error ran
          rfl
        | ok done =>
          exact writeDocument_contentAt? ran fun entry leads => apart.unasked path allowed ⟨_, _, entry, reaches, leads⟩
    | writeState start => cases allowed.1

theorem apart_of_confined {before : Files} (spares : engine.gateway.Spares)
    (confined : engine.compiler.Confined outside)
    (opens : before.Opens scope.path scope.place) (stands : before.Stands scope.place opened.files)
    (outOfScope : ¬ scope.place <+: place)
    (commands : ∀ command (world : World),
      (engine.gateway.command command outside world).2.files.contentAt? place = world.files.contentAt? place)
    (asks : ∀ command (world : World),
      (engine.gateway.ask command outside world).2.files.contentAt? place = world.files.contentAt? place)
    (unasked : ∀ path, request.Asks path → ¬ engine.LeadsTo request scope outside opened path place) :
    engine.Apart request scope outside opened place where
  outOfScope := outOfScope
  probes := asks .probe
  unasked := unasked
  foreign history world action after reaches allowed isForeign takes := by
    cases action with
    | wallet command =>
      subst takes
      exact commands command world
    | lookup command =>
      subst takes
      exact asks command world
    | compile source output =>
      subst takes
      cases allowed
      have around := build_apart confined opens (reaches.stands spares confined opens stands) source place
      exact Files.contentAt?_congr (around fun below => outOfScope ((List.prefix_append _ _).trans below))
    | salt | read | write | writeState => cases isForeign

end

/-! ### A whole capture -/

/-- What probes can make of the files, one after the other. -/
def Probed (engine : Engine) (outside : Outside) : Files → Files → Prop :=
  Relation.ReflTransGen fun files after =>
    ∃ journal, (engine.gateway.ask .probe outside ⟨files, journal⟩).2.files = after

/-- How a capture goes whose block cannot be translated: a scope is made once the node answers, the capture ends
halfway, and the scope is removed. -/
structure Untranslated (engine : Engine) (request : CaptureRequest) (start : String) (fault : Legacy.FormatError)
    (outside : Outside) (world : World) (scope : Scope) (begun opened closing : World) (error : EngineError)
    (final : World) : Prop where
  probed : engine.Probed outside world.files begun.files
  created : Scope.create engine.config.artifactDirectory outside begun = (.ok scope, opened)
  halfway : Halfway engine request start fault scope outside opened error closing
  removed : final.files = (scope.discard outside closing).files
  /-- No file has been made or changed that nothing else leads to. In this the legacy block is like any other file, and
  so is the legacy state, if it has not been written. -/
  kept : ∀ place, engine.Apart request.withoutLegacy scope outside opened place →
    (∀ fault, error = .format fault →
      ¬ engine.LeadsTo request.withoutLegacy scope outside opened (Legacy.statePath start) place) →
    final.files.contentAt? place = world.files.contentAt? place

section

variable {engine : Engine} {request : CaptureRequest} {start : String} {fault : Legacy.FormatError} {scope : Scope}
  {outside : Outside} {world begun opened closing : World} {error : EngineError} {place : Place}

theorem Probed.contentAt? {files after : Files} (probed : engine.Probed outside files after)
    (probes : ∀ world : World,
      (engine.gateway.ask .probe outside world).2.files.contentAt? place = world.files.contentAt? place) :
    after.contentAt? place = files.contentAt? place := by
  induction probed with
  | refl => rfl
  | tail _ step ih =>
    obtain ⟨journal, rfl⟩ := step
    exact (probes _).trans ih

theorem scope_contentAt? {base : Option String}
    (created : Scope.create base outside begun = (.ok scope, opened)) :
    scope.place ≠ [] ∧ opened.files.contentAt? place = begun.files.contentAt? place := by
  obtain ⟨before, made, -, vacant, put⟩ := Scope.create_made created
  have absent := Files.entry_of_vacant vacant
  refine ⟨fun root => ?_, ?_⟩
  · rw [root] at absent
    cases absent
  · rw [put, Files.contentAt?_putDirectory absent]
    rcases made with rfl | ⟨path, made⟩
    · rfl
    · exact Files.contentAt?_makeDirectories made

/-- No file that was there before is in the scope. -/
theorem outOfScope_of_file {base : Option String} {content : ByteArray} (tree : begun.files.IsTree)
    (created : Scope.create base outside begun = (.ok scope, opened))
    (there : begun.files.contentAt? place = some content) : ¬ scope.place <+: place := by
  intro below
  obtain ⟨before, opens, put⟩ := Scope.create_opens tree created
  have absent := opens.tree.absent_below opens.absent below
  rw [← (scope_contentAt? created).2, put, Files.contentAt?_putDirectory opens.absent, Files.contentAt?,
    absent] at there
  cases there

theorem Halfway.contentAt? (halfway : Halfway engine request start fault scope outside opened error closing)
    (apart : engine.Apart request.withoutLegacy scope outside opened place)
    (unled : ∀ fault, error = .format fault →
      ¬ engine.LeadsTo request.withoutLegacy scope outside opened (Legacy.statePath start) place) :
    closing.files.contentAt? place = opened.files.contentAt? place := by
  cases halfway with
  | unwritten reaches earlier => exact reaches.contentAt? apart
  | stateOnly reaches read takes =>
    refine (writeDocument_contentAt? takes fun entry leads => ?_).trans (reaches.contentAt? apart)
    exact unled fault rfl ⟨_, _, entry, reaches, leads⟩

/-- If the block that is fetched for legacy files cannot be translated, the capture fails, and nothing is written for
the legacy block. The legacy state is written as a whole and last, and then the translation is what fails, or not at
all, and something else has failed before. -/
theorem capture_untranslated {document : Json} (asked : request.legacyStart = some start)
    (fetched : document ∈ Journal.blocks (world.since (engine.capture request outside world).2))
    (untranslatable : Legacy.Block.ofDocument engine.config.legacy document = .error fault) :
    ∃ scope begun opened closing error, (engine.capture request outside world).1 = .error error ∧
      engine.Untranslated request start fault outside world scope begun opened closing error
        (engine.capture request outside world).2 := by
  obtain ⟨event, entered, block⟩ := List.mem_filterMap.mp fetched
  have brings := event.isBlockless_of_block block
  have quiet {first second : World} (around : World.Adds Event.isAround first second) :
      World.Adds Event.isBlockless first second := around.mono Event.isBlockless_of_isAround
  have probes (world : World) : engine.Probed outside world.files (engine.gateway.ask .probe outside world).2.files :=
    .single ⟨world.journal, rfl⟩
  rcases @withNode_rel Report engine (engine.Probed outside) (fun _ => .refl) .trans outside probes world with
    ⟨cause, final, around, idle⟩ | ⟨begun, around, probed, done⟩
  · rw [capture, idle] at entered
    exact absurd entered ((quiet around).not_mem_since brings)
  obtain ⟨stop, final, ran, untouched, stopping⟩ := done (engine.captureWork request)
  rw [capture, ran] at entered ⊢
  clear done ran fetched
  cases created : Scope.create engine.config.artifactDirectory outside begun with
  | mk made opened =>
    have opening := (quiet around).trans ((scope_adds _).of_ran created)
    cases made with
    | error cause =>
      rw [captureWork_of_error request created] at stopping
      exact absurd entered ((opening.trans (quiet stopping)).not_mem_since brings)
    | ok scope =>
      obtain ⟨result, closing, within, staged⟩ := engine.captureWithin_staged request scope outside opened
      rw [captureWork_of_ok created within] at untouched stopping ⊢
      obtain ⟨history, reaches, -⟩ := engine.captureWithin_acts request scope outside opened [] opened .opened trivial
      rw [within] at reaches
      have working : World.Adds (Event.isInside scope) opened closing := reaches.adds
      have closed : World.Adds Event.isBlockless closing final := quiet stopping
      have rest : World.Adds (fun _ => true) opened final :=
        (working.mono fun _ _ => rfl).trans (closed.mono fun _ _ => rfl)
      have within := working.earlier closed brings (opening.later rest brings entered)
      obtain ⟨error, failed, halfway⟩ := staged.endsHalfway asked within block untranslatable
      cases failed
      refine ⟨scope, begun, opened, closing, error, rfl, probed, created, halfway, untouched, ?_⟩
      intro place apart unled
      obtain ⟨nonempty, same⟩ := scope_contentAt? created
      rw [untouched]
      calc (scope.discard outside closing).files.contentAt? place
          = closing.files.contentAt? place := Files.contentAt?_removeTreeBut nonempty apart.outOfScope
        _ = opened.files.contentAt? place := halfway.contentAt? apart unled
        _ = begun.files.contentAt? place := same
        _ = world.files.contentAt? place := probed.contentAt? apart.probes

end

end Engine

/-! ### Two captures of a block without messages -/

namespace Rehearsal

def halfwayScript (wallet : Except GatewayError Json) : LedgerScript :=
  let receipt := [("blockHash", .string "0xb"), ("contractAddress", .string "0x0001"), ("shardId", .ofNat 1)]
  [("receipt", [.ok (.object receipt)]), ("block", [.ok (.object [])]), ("wallet_address", [wallet])]

def halfwayEngine (wallet : Except GatewayError Json) : Engine :=
  let config : Config := ⟨⟨false, "nil", [], ⟨500, 1⟩, 0⟩, ⟨"", "cli", "cli", []⟩, ⟨"solc", []⟩, none, .eager, {}⟩
  ⟨config, gateway (halfwayScript wallet), .ofProgram config.compiler⟩

def halfwayRequest : CaptureRequest :=
  ⟨⟨[⟨⟨1⟩, "Token.sol"⟩], [⟨⟨1⟩, "mint", []⟩]⟩, .eager, some "fixture", none, none⟩

def halfwayFiles : Files :=
  ⟨[(["tmp"], .directory), (["Token.sol"], .file .empty), (["fixture.state"], .file "old".toUTF8),
    (["fixture.block"], .file "old".toUTF8)], []⟩

def halfwayWorld : World :=
  ⟨halfwayFiles, []⟩

def halfwayOutside : Outside :=
  outside halfwayFiles "/tmp"
    [⟨.empty, .empty, 0, some [("Token.bin", "6080604052\n".toUTF8), ("Token.abi", "[]".toUTF8)]⟩]

def halfwayRun (wallet : Except GatewayError Json) : Except EngineError Report × World :=
  (halfwayEngine wallet).capture halfwayRequest halfwayOutside halfwayWorld

theorem halfwayFiles_isTree : halfwayFiles.IsTree :=
  Files.isTree_of_forall (by decide)

section

variable {wallet : Except GatewayError Json}

theorem halfwayCompiler_confined : (halfwayEngine wallet).compiler.Confined halfwayOutside := by
  apply ofProgram_confined
  refine List.forall_mem_singleton.mpr ?_
  rintro _ ⟨⟩
  exact List.forall_mem_cons.mpr ⟨⟨⟨by decide, by decide⟩, by decide, by decide⟩,
    List.forall_mem_singleton.mpr ⟨⟨by decide, by decide⟩, by decide, by decide⟩⟩

theorem halfwayGateway_spares : (halfwayEngine wallet).gateway.Spares :=
  Gateway.spares_of_perform (fun _ => .of_keepsFiles fun _ _ => rfl) fun _ => .of_keepsFiles fun _ _ => rfl

theorem halfwayGateway_probed {files after : Files}
    (probed : (halfwayEngine wallet).Probed halfwayOutside files after) : after = files := by
  induction probed with
  | refl => rfl
  | tail _ step ih =>
    obtain ⟨journal, rfl⟩ := step
    exact ih

theorem mem_of_any_bare {blocks : List Json} (found : blocks.any fun block => block matches .object []) :
    .object [] ∈ blocks := by
  obtain ⟨block, listed, bare⟩ := List.any_eq_true.mp found
  split at bare
  · exact listed
  · cases bare

theorem halfwayRun_without_wallet :
    (Journal.blocks (halfwayWorld.since (halfwayRun (.error (.http "gone"))).2)).any
        (fun block => block matches .object []) ∧
      (halfwayRun (.error (.http "gone"))).1 = .error (.gateway (.http "gone")) := by
  decide +kernel

end

end Rehearsal

namespace Engine

open Rehearsal

/-- The wallet is asked before the state is written. If it does not answer, the files of the earlier run are kept, and
those of the legacy are among them. -/
theorem capture_untranslated_without_wallet :
    halfwayRequest.legacyStart = some "fixture" ∧
      .object [] ∈ Journal.blocks (halfwayWorld.since (halfwayRun (.error (.http "gone"))).2) ∧
      Legacy.Block.ofDocument (halfwayEngine (.error (.http "gone"))).config.legacy (.object []) =
        .error .missingMessages ∧
      (halfwayRun (.error (.http "gone"))).1 = .error (.gateway (.http "gone")) ∧
      ∀ place content, halfwayFiles.contentAt? place = some content →
        (halfwayRun (.error (.http "gone"))).2.files.contentAt? place = some content := by
  have fetched := mem_of_any_bare halfwayRun_without_wallet.1
  have untranslatable : Legacy.Block.ofDocument (halfwayEngine (.error (.http "gone"))).config.legacy (.object []) =
      .error .missingMessages := by
    decide +kernel
  refine ⟨rfl, fetched, untranslatable, halfwayRun_without_wallet.2, fun place content there => ?_⟩
  obtain ⟨scope, begun, opened, closing, error, failed, left⟩ :=
    @capture_untranslated _ halfwayRequest "fixture" _ halfwayOutside halfwayWorld _ rfl fetched untranslatable
  cases Except.error.inj (halfwayRun_without_wallet.2.symm.trans failed)
  have kept : begun.files.contentAt? place = some content := by
    rw [halfwayGateway_probed left.probed]
    exact there
  have tree : begun.files.IsTree := by
    rw [halfwayGateway_probed left.probed]
    exact halfwayFiles_isTree
  obtain ⟨before, opens, put⟩ := Scope.create_opens tree left.created
  have unasked (path : String) (asks : halfwayRequest.withoutLegacy.Asks path) :
      ¬ (halfwayEngine (.error (.http "gone"))).LeadsTo halfwayRequest.withoutLegacy scope halfwayOutside opened path
        place := by
    cases asks with
    | block asked | state asked | legacy asked => cases asked
  have apart := apart_of_confined halfwayGateway_spares halfwayCompiler_confined opens (put ▸ opens.stands_put)
    (outOfScope_of_file tree left.created kept) (fun _ _ => rfl) (fun _ _ => rfl) unasked
  have same := left.kept place apart nofun
  rw [halfwayRun]
  exact same.trans there

/-- The wallet answers. The state of the earlier run is replaced, and its block stays. -/
theorem legacy_state_without_block :
    halfwayRequest.legacyStart = some "fixture" ∧
      .object [] ∈ Journal.blocks (halfwayWorld.since (halfwayRun (.ok (.string "0x02"))).2) ∧
      Legacy.Block.ofDocument (halfwayEngine (.ok (.string "0x02"))).config.legacy (.object []) =
        .error .missingMessages ∧
      halfwayWorld.files.readText (Legacy.statePath "fixture") = .ok "old" ∧
      (halfwayRun (.ok (.string "0x02"))).2.files.readText (Legacy.statePath "fixture") =
        .ok (Json.fileText (Legacy.State.initial {} ⟨['0', '0', '0', '1'], by decide, by decide⟩
          ⟨['0', '2'], by decide, by decide⟩ "6080604052").toJson) ∧
      (halfwayRun (.ok (.string "0x02"))).2.files.readText (Legacy.blockPath "fixture") = .ok "old" := by
  have told : (Journal.blocks (halfwayWorld.since (halfwayRun (.ok (.string "0x02"))).2)).any
        (fun block => block matches .object []) ∧
      (halfwayRun (.ok (.string "0x02"))).2.files.readText (Legacy.statePath "fixture") =
        .ok (Json.fileText (Legacy.State.initial {} ⟨['0', '0', '0', '1'], by decide, by decide⟩
          ⟨['0', '2'], by decide, by decide⟩ "6080604052").toJson) ∧
      (halfwayRun (.ok (.string "0x02"))).2.files.readText (Legacy.blockPath "fixture") = .ok "old" := by
    decide +kernel
  exact ⟨rfl, mem_of_any_bare told.1, by decide +kernel, by decide +kernel, told.2⟩

end Engine

end LedgerCapture
