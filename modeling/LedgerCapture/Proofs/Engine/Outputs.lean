import LedgerCapture.Proofs.Engine.LegacyFiles

/-!
The files of a capture that ends with a report. Whichever of them are asked for, it is settled beforehand what the
ledger is asked for them, what is written where, and in which order. All of it follows the one receipt that the last
call is located by, and only what is answered and read is left open.
-/
namespace LedgerCapture

open Journal

/-! ### Exchanges for files -/

namespace Event

def isFiling : Event → Bool
  | lookup (.block _ _) _ | lookup (.contractState _ _) _ | wallet .walletAddress _ => true
  | _ => false

def isNoFiling (event : Event) : Bool :=
  !event.isFiling

theorem isNoFiling_of_isCompiling (event : Event) (compiling : event.isCompiling) : event.isNoFiling := by
  cases event <;> first | rfl | simp [isCompiling, isCarrier] at compiling

theorem isNoFiling_of_isCarrier (event : Event) (carrier : event.isCarrier) : event.isNoFiling :=
  event.isNoFiling_of_isCompiling (event.isCompiling_of_isCarrier carrier)

theorem isNoFiling_of_isAround (event : Event) (around : event.isAround) : event.isNoFiling := by
  cases event with
  | lookup command answer => cases command <;> first | rfl | simp [isAround, isCarrier, isWork] at around
  | wallet command answer => simp [isAround, isCarrier, isWork] at around
  | _ => rfl

theorem isSilent_of_isAround (event : Event) (around : event.isAround) : event.isSilent := by
  cases event with
  | lookup command answer => cases command <;> first | rfl | simp [isAround, isCarrier, isWork] at around
  | wallet command answer => simp [isAround, isCarrier, isWork] at around
  | _ => rfl

theorem calling_isNoFiling : Calling isNoFiling where
  compiling := isNoFiling_of_isCompiling
  salt _ := rfl
  deploy _ _ := rfl
  send _ _ := rfl

end Event

def Journal.filings (journal : Journal) : Journal :=
  journal.filter Event.isFiling

theorem Journal.filings_steps (journal : Journal) : filings (steps journal) = filings journal := by
  rw [filings, steps, List.filter_filter]
  refine List.filter_congr fun event _ => ?_
  cases carrier : event.isCarrier with
  | false => rw [Bool.not_false, Bool.and_true]
  | true => simpa [Event.isNoFiling] using event.isNoFiling_of_isCarrier carrier

theorem World.Leads.filings_since {first second : World} {steps : Journal} (leads : first.Leads steps second) :
    filings (first.since second) = filings steps := by
  rw [← leads.steps_since, filings_steps]

theorem Journal.filings_append (journal more : Journal) : filings (journal ++ more) = filings journal ++ filings more :=
  List.filter_append ..

theorem Journal.filings_eq_nil {journal : Journal} (others : ∀ event ∈ journal, event.isNoFiling) :
    filings journal = [] := by
  refine List.filter_eq_nil_iff.mpr fun event listed => ?_
  simpa [Event.isNoFiling] using others event listed

namespace Engine

/-! ### Steps on the way to the files -/

/-- What is done for the files of a capture, with what comes of it. -/
inductive Filing where
  | fetchBlock (location : Ledger.Location) (document : Json)
  | fetchState (contract : Ledger.Address) (block : Ledger.BlockHash) (document : Json)
  | fetchSender (sender : Ledger.Address)
  /-- reads the code of an artifact -/
  | read (artifact : Artifact) (code : String)
  | write (path : String) (document : Json)

namespace Filing

def Takes (engine : Engine) (outside : Outside) (world after : World) : Filing → Prop
  | fetchBlock location document =>
    engine.gateway.ask (.block location.shard location.block) outside world = (.ok document, after)
  | fetchState contract block document =>
    engine.gateway.ask (.contractState contract block) outside world = (.ok document, after)
  | fetchSender sender => engine.gateway.command .walletAddress outside world = (.ok sender, after)
  | read artifact code => artifact.readBytecode outside world = (.ok code, after)
  | write path document => writeDocument path document outside world = (.ok (), after)

def events : Filing → Journal
  | fetchBlock location document => [.lookup (.block location.shard location.block) (.ok document)]
  | fetchState contract block document => [.lookup (.contractState contract block) (.ok document)]
  | fetchSender sender => [.wallet .walletAddress (.ok sender)]
  | read _ _ | write _ _ => []

def written? : Filing → Option (String × Json)
  | write path document => some (path, document)
  | _ => none

theorem eq_write_of_written {filing : Filing} {path : String} {document : Json}
    (written : filing.written? = some (path, document)) : filing = .write path document := by
  cases filing <;> cases written
  rfl

end Filing

structure FilingStep where
  before : World
  filing : Filing
  after : World

/-- The step leaves the file at the place as it is: an answer brings no change of it, and a document goes elsewhere. -/
def FilingStep.Leaves (step : FilingStep) (place : Place) : Prop :=
  match step.filing with
  | .fetchBlock _ _ | .fetchState _ _ _ | .fetchSender _ =>
    step.after.files.contentAt? place = step.before.files.contentAt? place
  | .read _ _ => True
  | .write path _ => ∀ entry, step.before.files.resolve true path ≠ .ok ⟨place, entry⟩

inductive Trail (engine : Engine) (outside : Outside) : World → List FilingStep → World → Prop where
  | nil (world : World) : Trail engine outside world [] world
  | cons {world between final : World} {filing : Filing} {steps : List FilingStep}
      (takes : filing.Takes engine outside world between) (rest : Trail engine outside between steps final) :
      Trail engine outside world (⟨world, filing, between⟩ :: steps) final

section

variable {engine : Engine} {outside : Outside} {world between after final : World} {filing : Filing}
  {steps earlier later : List FilingStep} {place : Place}

theorem Filing.Takes.leads (takes : filing.Takes engine outside world after) : world.Leads filing.events after := by
  cases filing with
  | fetchBlock | fetchState => exact Gateway.ask_leads takes
  | fetchSender => exact Gateway.command_leads takes
  | read =>
    cases Artifact.readBytecode_world takes
    exact .refl world
  | write => exact .of_adds ((writeDocument_adds _ _).of_ran takes)

theorem Filing.Takes.contentAt? (takes : filing.Takes engine outside world after)
    (leaves : FilingStep.Leaves ⟨world, filing, after⟩ place) :
    after.files.contentAt? place = world.files.contentAt? place := by
  cases filing with
  | fetchBlock | fetchState | fetchSender => exact leaves
  | read =>
    cases Artifact.readBytecode_world takes
    rfl
  | write => exact writeDocument_contentAt? takes leaves

namespace Trail

theorem append (left : engine.Trail outside world earlier between) (right : engine.Trail outside between later final) :
    engine.Trail outside world (earlier ++ later) final := by
  induction left with
  | nil => exact right
  | cons takes _ ih => exact .cons takes (ih right)

theorem exists_split (trail : engine.Trail outside world (earlier ++ later) final) :
    ∃ between, engine.Trail outside world earlier between ∧ engine.Trail outside between later final := by
  induction earlier generalizing world with
  | nil => exact ⟨world, .nil world, trail⟩
  | cons step earlier ih =>
    cases trail with
    | cons takes rest =>
      obtain ⟨between, left, right⟩ := ih rest
      exact ⟨between, .cons takes left, right⟩

theorem takes (trail : engine.Trail outside world steps final) :
    ∀ step ∈ steps, step.filing.Takes engine outside step.before step.after := by
  induction trail with
  | nil => nofun
  | cons takes _ ih => exact List.forall_mem_cons.mpr ⟨takes, ih⟩

/-- The journal tells the exchanges of the steps, and nothing else. -/
theorem leads (trail : engine.Trail outside world steps final) :
    world.Leads ((steps.map (·.filing)).flatMap Filing.events) final := by
  induction trail with
  | nil => exact .refl _
  | cons takes _ ih => exact takes.leads.trans ih

theorem contentAt? (trail : engine.Trail outside world steps final) (leave : ∀ step ∈ steps, step.Leaves place) :
    final.files.contentAt? place = world.files.contentAt? place := by
  induction trail with
  | nil => rfl
  | cons takes _ ih =>
    obtain ⟨leaves, leave⟩ := List.forall_mem_cons.mp leave
    exact (ih leave).trans (takes.contentAt? leaves)

/-- A document that is written stays where it is written, as long as the steps after it leave the place alone. -/
theorem contentAt?_written {path : String} {document : Json}
    (trail : engine.Trail outside world (earlier ++ ⟨between, .write path document, after⟩ :: later) final) :
    ∃ found, between.files.resolve true path = .ok found ∧ ((∀ step ∈ later, step.Leaves found.place) →
      final.files.contentAt? found.place = some document.fileText.toUTF8) := by
  obtain ⟨_, -, trail⟩ := trail.exists_split
  cases trail with
  | cons takes rest =>
    obtain ⟨found, resolved, there, -⟩ := Files.contentAt?_write (World.alter_eq_ok takes)
    exact ⟨found, resolved, fun leave => (rest.contentAt? leave).trans there⟩

end Trail

def Performs (engine : Engine) (outside : Outside) (filings : List Filing) (world final : World) : Prop :=
  ∃ steps, engine.Trail outside world steps final ∧ steps.map (·.filing) = filings

namespace Performs

variable {filings more : List Filing}

theorem nil (world : World) : engine.Performs outside [] world world :=
  ⟨[], .nil world, rfl⟩

theorem cons (takes : filing.Takes engine outside world between)
    (rest : engine.Performs outside filings between final) :
    engine.Performs outside (filing :: filings) world final := by
  obtain ⟨steps, trail, rfl⟩ := rest
  exact ⟨_, .cons takes trail, rfl⟩

theorem append (left : engine.Performs outside filings world between)
    (right : engine.Performs outside more between final) :
    engine.Performs outside (filings ++ more) world final := by
  obtain ⟨steps, trail, rfl⟩ := left
  obtain ⟨later, rest, rfl⟩ := right
  exact ⟨steps ++ later, trail.append rest, List.map_append⟩

end Performs

end

end Engine

/-! ### What the files are made of -/

structure Gathered where
  block : Json
  state : Json
  artifact : Artifact
  code : String
  sender : Ledger.Address
  legacyBlock : Json

namespace CaptureRequest

open Engine (Filing)

def needsBlock (request : CaptureRequest) : Bool :=
  request.blockOutput.isSome || request.legacyStart.isSome

/-- The files that are asked for, in the order in which they are written. -/
def outputs (request : CaptureRequest) : List String :=
  request.blockOutput.toList ++ request.stateOutput.toList ++
    request.legacyStart.toList.flatMap fun start => [Legacy.statePath start, Legacy.blockPath start]

def documents (request : CaptureRequest) (config : Config.Legacy) (contract : Ledger.Address) (gathered : Gathered) :
    List (String × Json) :=
  request.blockOutput.toList.map (·, gathered.block) ++ request.stateOutput.toList.map (·, gathered.state) ++
    request.legacyStart.toList.flatMap fun start =>
      [(Legacy.statePath start, (Legacy.State.initial config contract gathered.sender gathered.code).toJson),
        (Legacy.blockPath start, gathered.legacyBlock)]

def stateFilings (request : CaptureRequest) (location : Ledger.Location) (contract : Ledger.Address)
    (state : Json) : List Filing :=
  request.stateOutput.toList.flatMap fun path => [.fetchState contract location.block state, .write path state]

def legacyFilings (request : CaptureRequest) (config : Config.Legacy) (contract : Ledger.Address)
    (artifact : Artifact) (code : String) (sender : Ledger.Address) (block : Json) : List Filing :=
  request.legacyStart.toList.flatMap fun start =>
    [.read artifact code, .fetchSender sender,
      .write (Legacy.statePath start) (Legacy.State.initial config contract sender code).toJson,
      .write (Legacy.blockPath start) block]

def filings (request : CaptureRequest) (config : Config.Legacy) (location : Ledger.Location)
    (contract : Ledger.Address) (gathered : Gathered) : List Filing :=
  (if request.needsBlock then [.fetchBlock location gathered.block] else []) ++
    request.blockOutput.toList.map (.write · gathered.block) ++
    request.stateFilings location contract gathered.state ++
    request.legacyFilings config contract gathered.artifact gathered.code gathered.sender gathered.legacyBlock

/-- What is asked for all files: the block once if it is needed, the state once and the wallet's address once if there
is a file for it. -/
def exchanges (request : CaptureRequest) (location : Ledger.Location) (contract : Ledger.Address)
    (gathered : Gathered) : Journal :=
  (if request.needsBlock then [.lookup (.block location.shard location.block) (.ok gathered.block)] else []) ++
    (if request.stateOutput.isSome then [.lookup (.contractState contract location.block) (.ok gathered.state)]
      else []) ++
    (if request.legacyStart.isSome then [.wallet .walletAddress (.ok gathered.sender)] else [])

theorem events_filings (request : CaptureRequest) (config : Config.Legacy) (location : Ledger.Location)
    (contract : Ledger.Address) (gathered : Gathered) :
    (request.filings config location contract gathered).flatMap Filing.events =
      request.exchanges location contract gathered := by
  unfold filings exchanges needsBlock stateFilings legacyFilings
  cases request.blockOutput <;> cases request.stateOutput <;> cases request.legacyStart <;> rfl

/-- What is written is what belongs into the files. -/
theorem written_filings (request : CaptureRequest) (config : Config.Legacy) (location : Ledger.Location)
    (contract : Ledger.Address) (gathered : Gathered) :
    (request.filings config location contract gathered).filterMap Filing.written? =
      request.documents config contract gathered := by
  unfold filings documents needsBlock stateFilings legacyFilings
  cases request.blockOutput <;> cases request.stateOutput <;> cases request.legacyStart <;> rfl

theorem read_mem_filings {request : CaptureRequest} (config : Config.Legacy) (location : Ledger.Location)
    (contract : Ledger.Address) (gathered : Gathered) (asked : request.legacyStart.isSome) :
    .read gathered.artifact gathered.code ∈ request.filings config location contract gathered := by
  obtain ⟨start, asked⟩ := Option.isSome_iff_exists.mp asked
  unfold filings legacyFilings
  rw [asked]
  exact List.mem_append_right _ (List.mem_cons_self ..)

/-- All that is asked for files is an exchange for files. -/
theorem filings_exchanges (request : CaptureRequest) (location : Ledger.Location) (contract : Ledger.Address)
    (gathered : Gathered) : Journal.filings (request.exchanges location contract gathered) =
      request.exchanges location contract gathered := by
  unfold exchanges
  cases request.needsBlock <;> cases request.stateOutput <;> cases request.legacyStart <;> rfl

/-- If legacy files are asked for, the legacy block is what the block is translated to. -/
def Translates (request : CaptureRequest) (config : Config.Legacy) (block legacyBlock : Json) : Prop :=
  request.legacyStart.isSome →
    ∃ translated, Legacy.Block.ofDocument config block = .ok translated ∧ legacyBlock = translated.toJson

end CaptureRequest

theorem Run.mapError_eq_ok {ε ε' α : Type} {run : Run ε α} {change : ε → ε'} {value : α} {outside : Outside}
    {world final : World} (ran : run.mapError change outside world = (.ok value, final)) :
    run outside world = (.ok value, final) := by
  cases before : run outside world with
  | mk result between =>
    cases result with
    | error fault => rw [mapError_of_error before] at ran; cases ran
    | ok found => rw [mapError_of_ok before] at ran; cases ran; rfl

/-- The code of an artifact is the first line of its file. -/
theorem Artifact.exists_content_of_readBytecode {artifact : Artifact} {code : String} {outside : Outside}
    {world after : World} (ran : artifact.readBytecode outside world = (.ok code, after)) :
    ∃ content, world.files.readText artifact.bytecode = .ok content ∧ code = Artifact.firstLine content := by
  obtain ⟨content, between, read, done⟩ := Run.bind_eq_ok ran
  obtain ⟨same, -⟩ := Prod.mk.inj done
  exact ⟨content, congrArg Prod.fst (Run.mapError_eq_ok read), (Except.ok.inj same).symm⟩

namespace Engine

section

variable {engine : Engine} {request : CaptureRequest} {outside : Outside} {world after : World} {block : Option Json}
  {files : List String} {last : LastCall} {location : Ledger.Location} {registry : Registry}

theorem fetchBlock_performs (ran : engine.fetchBlock request location outside world = (.ok block, after)) :
    block.isSome = request.needsBlock ∧
      engine.Performs outside (block.toList.map (.fetchBlock location ·)) world after := by
  rw [fetchBlock, ← CaptureRequest.needsBlock] at ran
  cases needed : request.needsBlock with
  | false =>
    rw [needed, if_neg Bool.false_ne_true] at ran
    cases ran
    exact ⟨rfl, .nil _⟩
  | true =>
    rw [needed, if_pos rfl] at ran
    obtain ⟨document, between, asked, done⟩ := Run.bind_eq_ok ran
    cases done
    exact ⟨rfl, .cons (Run.mapError_eq_ok asked) (.nil _)⟩

theorem writeBlockFile_performs (fetched : request.blockOutput.isSome → block.isSome)
    (ran : writeBlockFile request block outside world = (.ok files, after)) :
    files = request.blockOutput.toList ∧
      engine.Performs outside (request.blockOutput.toList.map (.write · (block.getD .null))) world after := by
  unfold writeBlockFile at ran
  cases asked : request.blockOutput with
  | none =>
    rw [asked] at ran
    cases ran
    exact ⟨rfl, .nil _⟩
  | some path =>
    rw [asked] at ran fetched
    obtain ⟨document, rfl⟩ := Option.isSome_iff_exists.mp (fetched rfl)
    obtain ⟨_, between, written, done⟩ := Run.bind_eq_ok ran
    cases done
    exact ⟨rfl, .cons (Run.mapError_eq_ok written) (.nil _)⟩

theorem writeStateFile_performs
    (ran : engine.writeStateFile request last location outside world = (.ok files, after)) :
    files = request.stateOutput.toList ∧
      ∃ state, engine.Performs outside (request.stateFilings location last.address state) world after := by
  unfold writeStateFile at ran
  unfold CaptureRequest.stateFilings
  cases asked : request.stateOutput with
  | none =>
    rw [asked] at ran
    cases ran
    exact ⟨rfl, .null, .nil _⟩
  | some path =>
    rw [asked] at ran
    obtain ⟨state, between, answered, rest⟩ := Run.bind_eq_ok ran
    obtain ⟨_, final, written, done⟩ := Run.bind_eq_ok rest
    cases done
    exact ⟨rfl, state, .cons (Run.mapError_eq_ok answered) (.cons (Run.mapError_eq_ok written) (.nil _))⟩

theorem writeLegacyFiles_performs {address : Ledger.Address} {artifact : Artifact}
    (deployed : registry.deployed last.contract = .ok (address, artifact))
    (fetched : request.legacyStart.isSome → block.isSome)
    (ran : engine.writeLegacyFiles request registry last block outside world = (.ok files, after)) :
    files = (request.legacyStart.toList.flatMap fun start => [Legacy.statePath start, Legacy.blockPath start]) ∧
      ∃ code sender legacy, request.Translates engine.config.legacy (block.getD .null) legacy ∧
        engine.Performs outside
          (request.legacyFilings engine.config.legacy last.address artifact code sender legacy) world after := by
  unfold writeLegacyFiles at ran
  unfold CaptureRequest.legacyFilings
  cases asked : request.legacyStart with
  | none =>
    rw [asked] at ran
    cases ran
    refine ⟨rfl, "", last.address, .null, fun wanted => ?_, .nil _⟩
    rw [asked] at wanted
    cases wanted
  | some start =>
    rw [asked] at ran fetched
    obtain ⟨document, rfl⟩ := Option.isSome_iff_exists.mp (fetched rfl)
    dsimp only at ran
    rw [deployed] at ran
    obtain ⟨_, found, looked, ran⟩ := Run.bind_eq_ok ran
    cases looked
    obtain ⟨code, read, reads, ran⟩ := Run.bind_eq_ok ran
    obtain ⟨sender, answered, answers, ran⟩ := Run.bind_eq_ok ran
    obtain ⟨_, described, stateWritten, ran⟩ := Run.bind_eq_ok ran
    obtain ⟨legacy, formatted, formats, ran⟩ := Run.bind_eq_ok ran
    obtain ⟨translated, rfl⟩ := Prod.mk.inj (Run.mapError_eq_ok formats)
    obtain ⟨_, final, blockWritten, done⟩ := Run.bind_eq_ok ran
    cases done
    exact ⟨rfl, code, sender, legacy.toJson, fun _ => ⟨legacy, translated, rfl⟩,
      .cons (Run.mapError_eq_ok reads) (.cons (Run.mapError_eq_ok answers) (.cons (Run.mapError_eq_ok stateWritten)
        (.cons (Run.mapError_eq_ok blockWritten) (.nil _))))⟩

/-- All files that are asked for are written, with the code of the contract that the registry has. -/
theorem writeOutputs_performs {address : Ledger.Address} {artifact : Artifact}
    (deployed : registry.deployed last.contract = .ok (address, artifact))
    (ran : engine.writeOutputs request registry last location outside world = (.ok files, after)) :
    files = request.outputs ∧ ∃ gathered : Gathered, gathered.artifact = artifact ∧
      request.Translates engine.config.legacy gathered.block gathered.legacyBlock ∧
      engine.Performs outside (request.filings engine.config.legacy location last.address gathered) world after := by
  obtain ⟨block, between, fetches, ran⟩ := Run.bind_eq_ok ran
  obtain ⟨blockFiles, between, blockWritten, ran⟩ := Run.bind_eq_ok ran
  obtain ⟨stateFiles, between, stateWritten, ran⟩ := Run.bind_eq_ok ran
  obtain ⟨legacyFiles, between, legacyWritten, done⟩ := Run.bind_eq_ok ran
  cases done
  obtain ⟨fetched, fetching⟩ := fetchBlock_performs fetches
  have needed (wanted : request.blockOutput.isSome ∨ request.legacyStart.isSome) : block.isSome := by
    rw [fetched, CaptureRequest.needsBlock, Bool.or_eq_true]
    exact wanted
  obtain ⟨rfl, writesBlock⟩ : _ ∧ engine.Performs outside _ _ _ :=
    writeBlockFile_performs (fun wanted => needed (.inl wanted)) blockWritten
  obtain ⟨rfl, state, writesState⟩ := writeStateFile_performs stateWritten
  obtain ⟨rfl, code, sender, legacy, translates, writesLegacy⟩ :=
    writeLegacyFiles_performs deployed (fun wanted => needed (.inr wanted)) legacyWritten
  -- Without a need for the block there is none, and then no file is made of the document that stands for it.
  have fetchings : block.toList.map (Filing.fetchBlock location ·) =
      if request.needsBlock then [.fetchBlock location (block.getD .null)] else [] := by
    rw [← fetched]
    cases block <;> rfl
  rw [fetchings] at fetching
  exact ⟨rfl, ⟨block.getD .null, state, artifact, code, sender, legacy⟩, rfl, translates,
    ((fetching.append writesBlock).append writesState).append writesLegacy⟩

end

/-! ### A whole capture -/

/-- A capture has come to an end by these steps for its files: a scope was made once the node had answered, the calls
were replayed, the steps were taken, and the scope was removed. -/
def Conducted (engine : Engine) (request : CaptureRequest) (outside : Outside) (world : World) (scope : Scope)
    (steps : List FilingStep) (final : World) : Prop :=
  ∃ begun opened history fetched closing, engine.Probed outside world.files begun.files ∧
    Scope.create engine.config.artifactDirectory outside begun = (.ok scope, opened) ∧
    engine.Reaches request scope outside opened history fetched ∧ engine.Trail outside fetched steps closing ∧
    final.files = (scope.discard outside closing).files

/-- The document has been written by one of the steps. It is in the file that its path led to then, unless this is among
the artifacts, or a later answer comes with a change of the file, or a later document goes there. -/
def Kept (scope : Scope) (steps : List FilingStep) (final : World) (path : String) (document : Json) : Prop :=
  ∃ earlier before after later found, steps = earlier ++ ⟨before, .write path document, after⟩ :: later ∧
    before.files.resolve true path = .ok found ∧
    (¬ scope.place <+: found.place → (∀ step ∈ later, step.Leaves found.place) →
      final.files.contentAt? found.place = some document.fileText.toUTF8 ∧
      ∀ entry, final.files.resolve true path = .ok ⟨found.place, entry⟩ →
        final.files.readText path = .ok document.fileText)

/-- What the files of a capture are made of: all of it is from the location that is reported, from the contract that was
called last, and from the artifact of this contract. -/
structure Drawn (engine : Engine) (request : CaptureRequest) (scope : Scope) (events : Journal) (report : Report)
    (gathered : Gathered) (steps : List FilingStep) : Prop where
  /-- The contract is the one of the last call, and its first receipt tells the location. -/
  located : ∃ message receipt execution,
    CalledLast request (deployments events) (sendings events) gathered.artifact report.contract message ∧
    receipts events = [(message, .ok receipt)] ∧ receipt.find? report.contract = some execution ∧
    report.location = execution.location
  inScope : gathered.artifact.Within scope
  files : report.files = request.outputs
  exchanged : filings events = request.exchanges report.location report.contract gathered
  performed : steps.map (·.filing) =
    request.filings engine.config.legacy report.location report.contract gathered
  translated : request.Translates engine.config.legacy gathered.block gathered.legacyBlock

/-- What has become of the files of a capture that ends with a report. -/
structure Filed (engine : Engine) (request : CaptureRequest) (scope : Scope) (events : Journal) (report : Report)
    (gathered : Gathered) (steps : List FilingStep) (final : World) : Prop
    extends Drawn engine request scope events report gathered steps where
  code : request.legacyStart.isSome → ∃ before after content,
    ⟨before, .read gathered.artifact gathered.code, after⟩ ∈ steps ∧
    before.files.readText gathered.artifact.bytecode = .ok content ∧ gathered.code = Artifact.firstLine content
  kept : ∀ path document, (path, document) ∈ request.documents engine.config.legacy report.contract gathered →
    Kept scope steps final path document

section

variable {engine : Engine} {request : CaptureRequest} {scope : Scope} {outside : Outside}
  {world begun opened closing final : World} {report : Report} {steps : List FilingStep}

/-- At the end only files in the scope are taken away. -/
theorem Trail.kept {path : String} {document : Json} (trail : engine.Trail outside world steps closing)
    (listed : .write path document ∈ steps.map (·.filing))
    (created : Scope.create engine.config.artifactDirectory outside begun = (.ok scope, opened))
    (removed : final.files = (scope.discard outside closing).files) : Kept scope steps final path document := by
  obtain ⟨⟨before, _, after⟩, there, rfl⟩ := List.mem_map.mp listed
  obtain ⟨earlier, later, rfl⟩ := List.append_of_mem there
  obtain ⟨found, resolved, written⟩ := trail.contentAt?_written
  refine ⟨earlier, before, after, later, found, rfl, resolved, fun outOfScope leave => ?_⟩
  obtain ⟨nonempty, -⟩ : _ ∧ opened.files.contentAt? found.place = _ := scope_contentAt? created
  have kept : final.files.contentAt? found.place = some document.fileText.toUTF8 := by
    rw [removed]
    exact (Files.contentAt?_removeTreeBut nonempty outOfScope).trans (written leave)
  exact ⟨kept, fun entry leads => Files.readText_of_contentAt? kept leads⟩

/-- A capture within a scope that ends with a report has replayed the calls, located the last one, and taken the steps
that are settled for the files. -/
theorem Staged.drawn (staged : Staged engine request scope outside opened (.ok report) closing) :
    ∃ history fetched events gathered steps, engine.Reaches request scope outside opened history fetched ∧
      engine.Trail outside fetched steps closing ∧ closing.journal = opened.journal ++ events ∧
      engine.Drawn request scope events report gathered steps := by
  generalize same : (Except.ok report : Except EngineError Report) = result at staged
  cases staged with
  | unregistered | unreplayed | uncalled | unfetched | lost => cases same
  | @located registry last session between fetched _ receipt execution files made ran answered present written =>
    cases files with
    | error error => cases same
    | ok files =>
      cases same
      obtain ⟨_, ids, replayed⟩ := replayed_of_ran made ran
      obtain ⟨artifact, deployed, called⟩ := calledLast_of_replayed (Registry.ofContracts_fresh made) replayed
      obtain ⟨history, reaches, within⟩ := replay_reaches made ran
      obtain ⟨listed, gathered, rfl, translates, steps, trail, performed⟩ := writeOutputs_performs deployed written
      have silent := (writeOutputs_adds recording_silent engine request _ _ _).of_ran written
      obtain ⟨events, journal, deployments, sendings, received⟩ :=
        (shows_of_answer replayed answered).trans_silent silent
      have replaying : World.Adds Event.isNoFiling opened between :=
        (engine.replay_adds Event.calling_isNoFiling request _).of_ran (Stage.run_of_ok ran)
      have asking : World.Adds Event.isNoFiling between fetched :=
        (Gateway.ask_adds Event.isNoFiling_of_isCarrier fun _ => rfl).of_ran answered
      obtain ⟨before, leads, nothing⟩ := World.Leads.exists_of_adds (replaying.trans asking)
      have since : opened.since closing = events := by rw [World.since, journal, List.drop_left]
      refine ⟨_, fetched, events, gathered, steps, reaches.lookup answered, trail, journal, ?_⟩
      exact {
        located := ⟨_, receipt, execution, deployments ▸ sendings ▸ called, received, present, rfl⟩
        inScope := within.deployed deployed
        files := listed
        exchanged := by
          -- Up to the steps nothing is asked for files, neither for the replay nor for its receipt.
          rw [← since, (leads.trans trail.leads).filings_since, filings_append, filings_eq_nil nothing, performed,
            CaptureRequest.events_filings, CaptureRequest.filings_exchanges, List.nil_append]
        performed := performed
        translated := translates }

/-- What is done around the work has no part in the files. -/
theorem Drawn.surround {events before after : Journal} {gathered : Gathered}
    (drawn : engine.Drawn request scope events report gathered steps) (begins : ∀ event ∈ before, event.isAround)
    (ends : ∀ event ∈ after, event.isAround) :
    engine.Drawn request scope (before ++ events ++ after) report gathered steps := by
  obtain ⟨undeployed, unsent, unfetched⟩ :=
    views_of_silent fun event listed => event.isSilent_of_isAround (begins event listed)
  obtain ⟨undeployedLater, unsentLater, unfetchedLater⟩ :=
    views_of_silent fun event listed => event.isSilent_of_isAround (ends event listed)
  have unfiled := filings_eq_nil fun event listed => event.isNoFiling_of_isAround (begins event listed)
  have unfiledLater := filings_eq_nil fun event listed => event.isNoFiling_of_isAround (ends event listed)
  refine { drawn with located := ?_, exchanged := ?_ }
  · simpa only [deployments_append, sendings_append, receipts_append, undeployed, unsent, unfetched, undeployedLater,
      unsentLater, unfetchedLater, List.nil_append, List.append_nil] using drawn.located
  · rw [filings_append, filings_append, unfiled, unfiledLater, List.nil_append, List.append_nil]
    exact drawn.exchanged

/-- A capture that ends with a report has come to one within its scope. -/
theorem capture_staged (ran : engine.capture request outside world = (.ok report, final)) :
    ∃ begun scope opened closing, engine.Probed outside world.files begun.files ∧
      Scope.create engine.config.artifactDirectory outside begun = (.ok scope, opened) ∧
      Staged engine request scope outside opened (.ok report) closing ∧
      final.files = (scope.discard outside closing).files ∧ World.Adds Event.isAround world opened ∧
      World.Adds Event.isAround closing final := by
  have probes (world : World) : engine.Probed outside world.files (engine.gateway.ask .probe outside world).2.files :=
    .single ⟨world.journal, rfl⟩
  rcases @withNode_rel Report engine (engine.Probed outside) (fun _ => .refl) .trans outside probes world with
    ⟨fault, _, -, idle⟩ | ⟨begun, before, probed, done⟩
  · rw [capture, idle] at ran
    cases ran
  obtain ⟨stop, finish, worked, removed, stopping⟩ := done (engine.captureWork request)
  rw [capture, worked] at ran
  obtain ⟨ended, rfl⟩ := Prod.mk.inj ran
  replace ended := outcome_eq_ok ended
  clear done worked ran
  cases created : Scope.create engine.config.artifactDirectory outside begun with
  | mk made opened =>
    cases made with
    | error fault =>
      rw [captureWork_of_error request created] at ended
      cases ended
    | ok scope =>
      obtain ⟨result, closing, within, staged⟩ := engine.captureWithin_staged request scope outside opened
      rw [captureWork_of_ok created within] at ended removed stopping
      cases ended
      exact ⟨begun, scope, opened, closing, probed, created, staged, removed,
        before.trans ((scope_adds _).of_ran created), stopping⟩

/-- Whatever subset of the files is asked for, a capture that ends with a report lists just these files in their order,
has asked once for what they are made of and for nothing else, and has written into each of them what belongs there. -/
theorem capture_writes_outputs (ran : engine.capture request outside world = (.ok report, final)) :
    ∃ scope steps events gathered, final.journal = world.journal ++ events ∧
      engine.Conducted request outside world scope steps final ∧
      engine.Filed request scope events report gathered steps final := by
  obtain ⟨begun, scope, opened, closing, probed, created, staged, removed, opening, stopping⟩ := capture_staged ran
  obtain ⟨history, fetched, events, gathered, steps, reaches, trail, journal, drawn⟩ := staged.drawn
  obtain ⟨before, journalBefore, begins⟩ := opening
  obtain ⟨after, journalAfter, ends⟩ := stopping
  have code (asked : request.legacyStart.isSome) : ∃ before after content,
      ⟨before, .read gathered.artifact gathered.code, after⟩ ∈ steps ∧
      before.files.readText gathered.artifact.bytecode = .ok content ∧
      gathered.code = Artifact.firstLine content := by
    have listed := CaptureRequest.read_mem_filings engine.config.legacy report.location report.contract gathered asked
    rw [← drawn.performed] at listed
    obtain ⟨⟨before, _, after⟩, there, rfl⟩ := List.mem_map.mp listed
    obtain ⟨content, read, first⟩ := Artifact.exists_content_of_readBytecode (trail.takes _ there)
    exact ⟨before, after, content, there, read, first⟩
  have kept (path : String) (document : Json)
      (listed : (path, document) ∈ request.documents engine.config.legacy report.contract gathered) :
      Kept scope steps final path document := by
    rw [← CaptureRequest.written_filings _ _ report.location, ← drawn.performed] at listed
    obtain ⟨filing, there, written⟩ := List.mem_filterMap.mp listed
    exact trail.kept (Filing.eq_write_of_written written ▸ there) created removed
  refine ⟨scope, steps, before ++ events ++ after, gathered, ?_,
    ⟨begun, opened, history, fetched, closing, probed, created, reaches, trail, removed⟩,
    drawn.surround begins ends, code, kept⟩
  rw [journalAfter, journal, journalBefore, List.append_assoc, List.append_assoc, List.append_assoc]

end

end Engine

/-! ### A capture with all files -/

namespace Rehearsal

def outputsBlock : Json :=
  .object [("messages", .list [.object [("from", .string "0x02"), ("to", .string "0x01"), ("value", .ofNat 5),
    ("gasPrice", .ofNat 1), ("gasUsed", .ofNat 9), ("data", .string "0x")]])]

def outputsScript : LedgerScript :=
  let receipt := [("blockHash", .string "0xb"), ("contractAddress", .string "0x07"), ("shardId", .ofNat 1)]
  [("deploy", [.ok (.string "0x07")]), ("receipt", [.ok (.object receipt)]), ("block", [.ok outputsBlock]),
    ("contract_state", [.ok (.object [("balance", .ofNat 7)])]), ("wallet_address", [.ok (.string "0x02")])]

def outputsEngine : Engine :=
  { halfwayEngine (.ok .null) with gateway := gateway outputsScript }

def outputsRequest : CaptureRequest :=
  { halfwayRequest with blockOutput := some "block.json", stateOutput := some "state.json" }

def outputsRun : Except EngineError Report × World :=
  outputsEngine.capture outputsRequest halfwayOutside halfwayWorld

def outputsReport : Report where
  location := ⟨⟨1⟩, ⟨"0xb"⟩⟩
  contract := ⟨['0', '7'], by decide, by decide⟩
  files := ["block.json", "state.json", "fixture.state", "fixture.block"]

end Rehearsal

namespace Engine

open Rehearsal

/-- All files are asked for, and two of them are there from an earlier run. -/
theorem capture_writes_outputs_of_four :
    outputsRun.1 = .ok outputsReport ∧
      (∃ scope steps events gathered, outputsRun.2.journal = halfwayWorld.journal ++ events ∧
        outputsEngine.Conducted outputsRequest halfwayOutside halfwayWorld scope steps outputsRun.2 ∧
        outputsEngine.Filed outputsRequest scope events outputsReport gathered steps outputsRun.2) ∧
      outputsRun.2.files.readText "block.json" = .ok outputsBlock.fileText ∧
      outputsRun.2.files.readText "state.json" = .ok "\x7b\n  \"balance\": 7\n\x7d\n" ∧
      outputsRun.2.files.readText "fixture.state" =
        .ok (Legacy.State.initial {} outputsReport.contract ⟨['0', '2'], by decide, by decide⟩
          "6080604052").toJson.fileText := by
  have told : outputsRun.1 = .ok outputsReport ∧
      outputsRun.2.files.readText "block.json" = .ok outputsBlock.fileText ∧
      outputsRun.2.files.readText "state.json" = .ok "\x7b\n  \"balance\": 7\n\x7d\n" ∧
      outputsRun.2.files.readText "fixture.state" =
        .ok (Legacy.State.initial {} outputsReport.contract ⟨['0', '2'], by decide, by decide⟩
          "6080604052").toJson.fileText := by
    decide +kernel
  refine ⟨told.1, ?_, told.2⟩
  have reported := told.1
  rw [outputsRun] at reported ⊢
  cases ran : outputsEngine.capture outputsRequest halfwayOutside halfwayWorld with
  | mk result final =>
    rw [ran] at reported
    cases reported
    exact capture_writes_outputs ran

end Engine

end LedgerCapture
