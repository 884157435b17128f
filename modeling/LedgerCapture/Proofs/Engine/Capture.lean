import LedgerCapture.Proofs.Engine.Replay
import LedgerCapture.Proofs.Ledger.Receipt
import LedgerCapture.Proofs.Node

/-!
A capture from the launch of the node to its end. What is done around the replay and after it neither
deploys nor sends, so the report can be told from the journal alone: which call was the last, where its
contract had been deployed, and which receipt in the tree of its message is the first of this contract.
-/
namespace LedgerCapture

open Journal
open Deployment (Answered Issued Issuing)

namespace Engine

variable {engine : Engine} {request : CaptureRequest} {scope : Scope} {outside : Outside} {world final : World}

/-! ### Files -/

def writeFetched (engine : Engine) (request : CaptureRequest) (registry : Registry) (last : LastCall)
    (location : Ledger.Location) (block : Option Json) : Run EngineError (List String) := do
  let blockFiles ← writeBlockFile request block
  let stateFiles ← engine.writeStateFile request last location
  let legacyFiles ← engine.writeLegacyFiles request registry last block
  return blockFiles ++ stateFiles ++ legacyFiles

theorem writeOutputs_eq (engine : Engine) (request : CaptureRequest) (registry : Registry) (last : LastCall)
    (location : Ledger.Location) : engine.writeOutputs request registry last location =
      engine.fetchBlock request location >>= engine.writeFetched request registry last location :=
  rfl

/-- A kind of events that takes in what is exchanged for the files of a capture, once the block is there. -/
structure Writing (kind : Event → Bool) : Prop where
  carriers : ∀ event, event.isCarrier → kind event
  state : ∀ address block answer, kind (.lookup (.contractState address block) answer)
  wallet : ∀ answer, kind (.wallet .walletAddress answer)

/-- A kind of events that takes in what is exchanged for the files of a capture. -/
structure Recording (kind : Event → Bool) : Prop extends Writing kind where
  block : ∀ shard block answer, kind (.lookup (.block shard block) answer)

section

variable {kind : Event → Bool}

theorem writeDocument_adds (path : String) (document : Json) : Run.Adds kind (writeDocument path document) :=
  Run.Adds.mapError _ (World.alter_adds _)

theorem scope_adds (base : Option String) : Run.Adds kind (Scope.create base) := by
  unfold Scope.create
  extract_lets make
  have made : ∀ done, Run.Adds kind (make done) := by
    intro done outside world
    dsimp only [make]
    split <;> exact .of_journal_eq rfl
  cases base with
  | none => exact made ()
  | some base => exact Run.Adds.bind (Run.Adds.mapError _ (World.alter_adds _)) made

theorem ask_adds (engine : Engine) {command : LookupCommand} (carriers : ∀ event, event.isCarrier → kind event)
    (ofKind : ∀ answer, kind (.lookup command answer)) : Run.Adds kind (engine.ask command) :=
  Run.Adds.mapError _ (Gateway.ask_adds carriers ofKind)

theorem writeBlockFile_adds (request : CaptureRequest) (block : Option Json) :
    Run.Adds kind (writeBlockFile request block) := by
  unfold writeBlockFile
  split
  · exact Run.Adds.bind (Run.Adds.mapError _ (writeDocument_adds _ _)) fun _ => Run.Adds.pure _
  · exact Run.Adds.pure _

section

variable (writing : Writing kind) (engine : Engine) (request : CaptureRequest)
include writing

theorem writeStateFile_adds (last : LastCall) (location : Ledger.Location) :
    Run.Adds kind (engine.writeStateFile request last location) := by
  unfold writeStateFile
  split
  · apply Run.Adds.bind (engine.ask_adds writing.carriers (writing.state _ _))
    intro state
    exact Run.Adds.bind (Run.Adds.mapError _ (writeDocument_adds _ _)) fun _ => Run.Adds.pure _
  · exact Run.Adds.pure _

theorem writeLegacyFiles_adds (registry : Registry) (last : LastCall) (block : Option Json) :
    Run.Adds kind (engine.writeLegacyFiles request registry last block) := by
  unfold writeLegacyFiles
  split
  · apply Run.Adds.bind (Run.Adds.mapError _ (Run.Adds.lift _))
    intro found
    apply Run.Adds.bind
    · apply Run.Adds.mapError
      exact Run.Adds.bind (Run.Adds.mapError _ (World.inspect_adds _)) fun _ => Run.Adds.pure _
    intro bytecode
    apply Run.Adds.bind
    · exact Run.Adds.mapError _ (Gateway.command_adds writing.carriers writing.wallet)
    intro wallet
    apply Run.Adds.bind (Run.Adds.mapError _ (writeDocument_adds _ _))
    intro _
    apply Run.Adds.bind (Run.Adds.mapError _ (Run.Adds.lift _))
    intro legacy
    exact Run.Adds.bind (Run.Adds.mapError _ (writeDocument_adds _ _)) fun _ => Run.Adds.pure _
  · exact Run.Adds.pure _

theorem writeFetched_adds (registry : Registry) (last : LastCall) (location : Ledger.Location)
    (block : Option Json) : Run.Adds kind (engine.writeFetched request registry last location block) := by
  apply Run.Adds.bind (writeBlockFile_adds request block)
  intro blockFiles
  apply Run.Adds.bind (writeStateFile_adds writing engine request last location)
  intro stateFiles
  exact Run.Adds.bind (writeLegacyFiles_adds writing engine request registry last block) fun _ => Run.Adds.pure _

end

variable (recording : Recording kind) (engine : Engine) (request : CaptureRequest)
include recording

theorem fetchBlock_adds (location : Ledger.Location) : Run.Adds kind (engine.fetchBlock request location) := by
  unfold fetchBlock
  split
  · exact Run.Adds.bind (engine.ask_adds recording.carriers (recording.block _ _)) fun _ => Run.Adds.pure _
  · exact Run.Adds.pure _

theorem writeOutputs_adds (registry : Registry) (last : LastCall) (location : Ledger.Location) :
    Run.Adds kind (engine.writeOutputs request registry last location) := by
  rw [writeOutputs_eq]
  exact Run.Adds.bind (fetchBlock_adds recording engine request location)
    (writeFetched_adds recording.toWriting engine request registry last location)

end

theorem recording_silent : Recording Event.isSilent where
  carriers := Event.isSilent_of_isCarrier
  block _ _ _ := rfl
  state _ _ _ := rfl
  wallet _ := rfl

/-! ### Around the work -/

inductive WithNode {α : Type} (work : Run EngineError α) (outside : Outside) (world : World) :
    Except EngineError α → World → Prop where
  | unready {fault : NodeError} {final : World} (silent : World.Adds Event.isSilent world final) :
      WithNode work outside world (.error (.node fault)) final
  | worked {start finish final : World} {worked : Except EngineError α} {stopped : Except NodeError Unit}
      (before : World.Adds Event.isSilent world start) (ran : work outside start = (worked, finish))
      (after : World.Adds Event.isSilent finish final) :
      WithNode work outside world (outcome worked stopped) final

section

variable {α : Type} {node : Node} {launched ready : World} {stop : Except NodeError Unit}

theorem withNode_of_unlaunched {fault : NodeError} (work : Run EngineError α)
    (started : Node.start engine.config.node outside world = (.error fault, final)) :
    engine.withNode work outside world = (.error (.node fault), final) := by
  rw [withNode, Run.bind_of_error (Run.mapError_of_error started)]

/-- The node is stopped after whatever was attempted. -/
theorem withNode_of_started {work : Run EngineError α} {attempted : Except EngineError α}
    (started : Node.start engine.config.node outside world = (.ok node, launched))
    (ran : ((node.waitReady engine.gateway engine.config.node.readiness).mapError .node >>= fun _ => work) outside
      launched = (attempted, ready))
    (stopped : node.shutdown outside ready = (stop, final)) :
    engine.withNode work outside world = (outcome attempted stop, final) := by
  rw [withNode, Run.bind_of_ok (Run.mapError_of_ok started), Run.bind_of_ok (Run.attempt_of ran),
    Run.bind_of_ok (Run.attempt_of stopped)]
  rfl

theorem withNode_of_unready {fault : NodeError} (work : Run EngineError α)
    (started : Node.start engine.config.node outside world = (.ok node, launched))
    (waited : node.waitReady engine.gateway engine.config.node.readiness outside launched = (.error fault, ready))
    (stopped : node.shutdown outside ready = (stop, final)) :
    engine.withNode work outside world = (.error (.node fault), final) :=
  withNode_of_started started (Run.bind_of_error (Run.mapError_of_error waited)) stopped

theorem withNode_of_ready {work : Run EngineError α} {worked : Except EngineError α} {finish : World}
    (started : Node.start engine.config.node outside world = (.ok node, launched))
    (waited : node.waitReady engine.gateway engine.config.node.readiness outside launched = (.ok (), ready))
    (ran : work outside ready = (worked, finish)) (stopped : node.shutdown outside finish = (stop, final)) :
    engine.withNode work outside world = (outcome worked stop, final) :=
  withNode_of_started started ((Run.bind_of_ok (Run.mapError_of_ok waited)).trans ran) stopped

end

theorem withNode_cases {α : Type} (engine : Engine) (work : Run EngineError α) (outside : Outside)
    (world : World) : ∃ result final, engine.withNode work outside world = (result, final) ∧
      WithNode work outside world result final := by
  cases started : Node.start engine.config.node outside world with
  | mk result launched =>
    have starting := (Node.start_silent engine.config.node).of_ran started
    cases result with
    | error fault => exact ⟨_, _, withNode_of_unlaunched work started, .unready starting⟩
    | ok node =>
      cases waited : node.waitReady engine.gateway engine.config.node.readiness outside launched with
      | mk result ready =>
        have waiting := (node.waitReady_silent engine.gateway engine.config.node.readiness).of_ran waited
        cases result with
        | error fault =>
          refine ⟨_, _, withNode_of_unready work started waited rfl, .unready ?_⟩
          exact (starting.trans waiting).trans (node.shutdown_silent outside ready)
        | ok value =>
          cases ran : work outside ready with
          | mk worked finish =>
            refine ⟨_, _, withNode_of_ready started waited ran rfl, ?_⟩
            exact .worked (starting.trans waiting) ran (node.shutdown_silent outside finish)

/-! ### The stages -/

/-- How a capture with the artifacts in a scope goes, told by the stage that it reaches. -/
inductive Staged (engine : Engine) (request : CaptureRequest) (scope : Scope) (outside : Outside)
    (world : World) : Except EngineError Report → World → Prop where
  | unregistered {fault : RegistryError}
      (refused : Registry.ofContracts request.block.contracts = .error fault) :
      Staged engine request scope outside world (.error (.registry fault)) world
  | unreplayed {registry : Registry} {error : EngineError} {session : Session} {final : World}
      (made : Registry.ofContracts request.block.contracts = .ok registry)
      (ran : engine.replay request ⟨registry, .empty engine.compiler scope⟩ outside world =
        (.error error, session, final)) :
      Staged engine request scope outside world (.error error) final
  | uncalled {registry : Registry} {session : Session} {final : World}
      (made : Registry.ofContracts request.block.contracts = .ok registry)
      (ran : engine.replay request ⟨registry, .empty engine.compiler scope⟩ outside world =
        (.ok none, session, final)) :
      Staged engine request scope outside world (.error (.resolve .emptyHandle)) final
  | unfetched {registry : Registry} {last : LastCall} {session : Session} {between final : World}
      {fault : GatewayError} (made : Registry.ofContracts request.block.contracts = .ok registry)
      (ran : engine.replay request ⟨registry, .empty engine.compiler scope⟩ outside world =
        (.ok (some last), session, between))
      (answered : engine.gateway.ask (.receipt last.message) outside between = (.error fault, final)) :
      Staged engine request scope outside world (.error (.resolve (.gateway fault))) final
  | lost {registry : Registry} {last : LastCall} {session : Session} {between final : World}
      {receipt : Ledger.Receipt} (made : Registry.ofContracts request.block.contracts = .ok registry)
      (ran : engine.replay request ⟨registry, .empty engine.compiler scope⟩ outside world =
        (.ok (some last), session, between))
      (answered : engine.gateway.ask (.receipt last.message) outside between = (.ok receipt, final))
      (absent : receipt.find? last.address = none) :
      Staged engine request scope outside world
        (.error (.resolve (.receiptNotFound last.message last.address))) final
  | located {registry : Registry} {last : LastCall} {session : Session} {between fetched final : World}
      {receipt execution : Ledger.Receipt} {files : Except EngineError (List String)}
      (made : Registry.ofContracts request.block.contracts = .ok registry)
      (ran : engine.replay request ⟨registry, .empty engine.compiler scope⟩ outside world =
        (.ok (some last), session, between))
      (answered : engine.gateway.ask (.receipt last.message) outside between = (.ok receipt, fetched))
      (present : receipt.find? last.address = some execution)
      (written : engine.writeOutputs request session.registry last execution.location outside fetched =
        (files, final)) :
      Staged engine request scope outside world
        (files.map fun files => ⟨execution.location, last.address, files⟩) final

theorem resolveMessage_of_answer {gateway : Gateway} {message : Ledger.MessageHash}
    {receipt : Ledger.Receipt} (contract : Ledger.Address)
    (answered : gateway.ask (.receipt message) outside world = (.ok receipt, final)) :
    Resolution.resolveMessage gateway message contract outside world =
      (match receipt.find? contract with
        | some execution => .ok execution.location
        | none => .error (.receiptNotFound message contract), final) := by
  rw [Resolution.resolveMessage, Run.bind_of_ok (Run.mapError_of_ok answered)]
  cases receipt.find? contract <;> rfl

theorem captureWithin_staged (engine : Engine) (request : CaptureRequest) (scope : Scope)
    (outside : Outside) (world : World) : ∃ result final,
      engine.captureWithin request scope outside world = (result, final) ∧
      Staged engine request scope outside world result final := by
  unfold captureWithin
  cases made : Registry.ofContracts request.block.contracts with
  | error fault => exact ⟨_, _, Run.bind_of_error (Run.mapError_of_error rfl), .unregistered made⟩
  | ok registry =>
    rw [Run.bind_of_ok (Run.mapError_of_ok rfl)]
    cases ran : engine.replay request ⟨registry, .empty engine.compiler scope⟩ outside world with
    | mk result rest =>
      obtain ⟨session, between⟩ := rest
      cases result with
      | error error => exact ⟨_, _, Run.bind_of_error (Stage.run_of_error ran), .unreplayed made ran⟩
      | ok last =>
        rw [Run.bind_of_ok (Stage.run_of_ok ran)]
        dsimp only
        cases last with
        | none => exact ⟨_, _, Run.bind_of_error (Run.mapError_of_error rfl), .uncalled made ran⟩
        | some last =>
          cases answered : engine.gateway.ask (.receipt last.message) outside between with
          | mk answer fetched =>
            cases answer with
            | error fault =>
              refine ⟨_, _, Run.bind_of_error (Run.mapError_of_error ?_), .unfetched made ran answered⟩
              exact Run.bind_of_error (Run.bind_of_error (Run.mapError_of_error answered))
            | ok receipt =>
              have resolved := resolveMessage_of_answer last.address answered
              cases present : receipt.find? last.address with
              | none =>
                rw [present] at resolved
                exact ⟨_, _, Run.bind_of_error (Run.mapError_of_error (Run.bind_of_error resolved)),
                  .lost made ran answered present⟩
              | some execution =>
                rw [present] at resolved
                have found : Resolution.resolve engine.gateway (some last) outside between =
                    (.ok (last, execution.location), fetched) :=
                  Run.bind_of_ok resolved
                rw [Run.bind_of_ok (Run.mapError_of_ok found)]
                dsimp only
                cases written : engine.writeOutputs request session.registry last execution.location
                    outside fetched with
                | mk files final =>
                  refine ⟨_, _, ?_, .located made ran answered present written⟩
                  cases files with
                  | error error => exact Run.bind_of_error written
                  | ok files => exact Run.bind_of_ok written

/-! ### What is reported -/

/-- What the journal of a capture tells of its last call. Every contract of `deployOrder` was deployed once,
in that order, and the call went to the address that was answered for its own contract. -/
structure Traced (request : CaptureRequest) (deployed : List Event.Deployment) (sent : List Event.Sending)
    (address : Ledger.Address) (message : Ledger.MessageHash) : Prop where
  distinct : request.deployOrder.Nodup
  complete : deployed.length = request.deployOrder.length
  last : ∃ (call : Call) (place : Nat) (code : DeployRequest), request.block.calls.getLast? = some call ∧
    request.deployOrder[place]? = some call.contract ∧ deployed[place]? = some (code, .ok address) ∧
    sent.getLast? = some (⟨address, call.method, call.arguments, code.interface⟩, .ok message)

/-- The last call went to the address at which its contract had been deployed, with the code of the artifact. -/
def CalledLast (request : CaptureRequest) (deployed : List Event.Deployment) (sent : List Event.Sending)
    (artifact : Artifact) (address : Ledger.Address) (message : Ledger.MessageHash) : Prop :=
  ∃ (call : Call) (place : Nat) (code : DeployRequest), request.block.calls.getLast? = some call ∧
    request.deployOrder[place]? = some call.contract ∧ deployed[place]? = some (code, .ok address) ∧
    code.bytecode = artifact.bytecode ∧
    sent.getLast? = some (⟨address, call.method, call.arguments, code.interface⟩, .ok message)

structure Reported (request : CaptureRequest) (result : Except EngineError Report)
    (deployed : List Event.Deployment) (sent : List Event.Sending) (fetched : List Event.Fetching) :
    Prop where
  /-- The report is about the contract of the last call and the first of its receipts. -/
  success : ∀ report, result = .ok report → ∃ message receipt execution,
    Traced request deployed sent report.contract message ∧ fetched = [(message, .ok receipt)] ∧
    (receipt.preorder.find? fun receipt => receipt.contract = report.contract) = some execution ∧
    report.location = execution.location
  /-- Without a receipt of the contract there is no report. -/
  lost : ∀ message receipt, fetched = [(message, .ok receipt)] → ∃ address,
    Traced request deployed sent address message ∧
    ((∀ execution ∈ receipt.preorder, execution.contract ≠ address) →
      result = .error (.resolve (.receiptNotFound message address)))

section Reports

variable {registry : Registry} {session : Session} {result : Except EngineError (Option LastCall)}

theorem replayed_of_ran (made : Registry.ofContracts request.block.contracts = .ok registry)
    (ran : engine.replay request ⟨registry, .empty engine.compiler scope⟩ outside world =
      (result, session, final)) :
    ∃ steps ids, Replayed request ⟨registry, .empty engine.compiler scope⟩ world result session final
      steps ids := by
  obtain ⟨_, _, _, steps, ids, again, replayed⟩ :=
    engine.replay_replayed request ⟨registry, .empty engine.compiler scope⟩ outside world
      (Registry.ofContracts_fresh made)
  rw [ran] at again
  cases again
  exact ⟨steps, ids, replayed⟩

/-- What was called last had been deployed with the code that the registry has of it. -/
theorem calledLast_of_replayed {store : ArtifactStore} {steps : Journal} {ids : List ContractId} {last : LastCall}
    (fresh : registry.Fresh request.block.contracts)
    (replayed : Replayed request ⟨registry, store⟩ world (.ok (some last)) session final steps ids) :
    ∃ artifact, session.registry.deployed last.contract = .ok (last.address, artifact) ∧
      CalledLast request (deployments steps) (sendings steps) artifact last.address last.message := by
  obtain ⟨rfl, -⟩ := replayed.issuing.finished _ rfl
  have issued := replayed.issuing.issued
  obtain ⟨call, artifact, called, sent, contract, deployed⟩ := replayed.handle last rfl
  rcases issued.complete _ _ deployed with earlier | member
  · exact absurd earlier (fresh.not_deployed _)
  · obtain ⟨place, there⟩ := List.mem_iff_getElem?.mp member
    obtain ⟨⟨code, answer⟩, exchanged, noted⟩ := issued.exchange_at there
    obtain ⟨answered, bytecode, interface⟩ := noted.of_deployed deployed
    cases answered
    refine ⟨artifact, contract ▸ deployed, call, place, code, called, there, exchanged, bytecode, ?_⟩
    rw [sent, Submission.requestFor, ← interface]

theorem traced_of_replayed {store : ArtifactStore} {steps : Journal} {ids : List ContractId} {last : LastCall}
    (fresh : registry.Fresh request.block.contracts)
    (replayed : Replayed request ⟨registry, store⟩ world (.ok (some last)) session final steps ids) :
    Traced request (deployments steps) (sendings steps) last.address last.message := by
  obtain ⟨artifact, -, call, place, code, called, there, exchanged, -, sent⟩ := calledLast_of_replayed fresh replayed
  obtain ⟨rfl, -⟩ := replayed.issuing.finished _ rfl
  have issued := replayed.issuing.issued
  exact ⟨issued.distinct, issued.noted.length_eq.symm, call, place, code, called, there, exchanged, sent⟩

theorem shows_of_replayed {start : Session} {steps : Journal} {ids : List ContractId}
    (replayed : Replayed request start world result session final steps ids) :
    world.Shows (deployments steps) (sendings steps) [] final := by
  have shows := World.Shows.of_leads replayed.issuing.leads
  rwa [replayed.issuing.noReceipts] at shows

/-- The receipt is asked for after the replay. -/
theorem shows_of_answer {start : Session} {between : World} {steps : Journal} {ids : List ContractId}
    {message : Ledger.MessageHash} {answer : Except GatewayError Ledger.Receipt}
    (replayed : Replayed request start world result session between steps ids)
    (answered : engine.gateway.ask (.receipt message) outside between = (answer, final)) :
    world.Shows (deployments steps) (sendings steps) [(message, answer)] final := by
  have asked : between.Shows [] [] [(message, answer)] final :=
    World.Shows.of_leads (Gateway.ask_leads answered)
  have joined := (shows_of_replayed replayed).trans asked
  rwa [List.append_nil, List.append_nil] at joined

end Reports

theorem reported_of_unfetched {deployed : List Event.Deployment} {sent : List Event.Sending}
    (error : EngineError) : Reported request (.error error) deployed sent [] where
  success _ same := by cases same
  lost _ _ same := by cases same

theorem Staged.reported {result : Except EngineError Report}
    (staged : Staged engine request scope outside world result final) :
    ∃ deployed sent fetched, world.Shows deployed sent fetched final ∧
      Reported request result deployed sent fetched := by
  cases staged with
  | unregistered refused =>
    exact ⟨[], [], [], .of_silent (.refl _), reported_of_unfetched _⟩
  | unreplayed made ran =>
    obtain ⟨steps, ids, replayed⟩ := replayed_of_ran made ran
    exact ⟨_, _, _, shows_of_replayed replayed, reported_of_unfetched _⟩
  | uncalled made ran =>
    obtain ⟨steps, ids, replayed⟩ := replayed_of_ran made ran
    exact ⟨_, _, _, shows_of_replayed replayed, reported_of_unfetched _⟩
  | unfetched made ran answered =>
    obtain ⟨steps, ids, replayed⟩ := replayed_of_ran made ran
    refine ⟨_, _, _, shows_of_answer replayed answered, ?_, ?_⟩
    · intro report same
      cases same
    · intro message receipt same
      cases same
  | lost made ran answered absent =>
    obtain ⟨steps, ids, replayed⟩ := replayed_of_ran made ran
    have traced := traced_of_replayed (Registry.ofContracts_fresh made) replayed
    refine ⟨_, _, _, shows_of_answer replayed answered, ?_, ?_⟩
    · intro report same
      cases same
    · intro message receipt same
      cases same
      exact ⟨_, traced, fun _ => rfl⟩
  | @located registry last session between fetched final receipt execution files made ran answered present
      written =>
    obtain ⟨steps, ids, replayed⟩ := replayed_of_ran made ran
    have traced := traced_of_replayed (Registry.ofContracts_fresh made) replayed
    have silent := (writeOutputs_adds recording_silent engine request _ _ _).of_ran written
    rw [Ledger.Receipt.find?_eq_preorder_find?] at present
    refine ⟨_, _, _, (shows_of_answer replayed answered).trans_silent silent, ?_, ?_⟩
    · intro report same
      cases files with
      | error error => cases same
      | ok files =>
        cases same
        exact ⟨_, receipt, execution, traced, rfl, present, rfl⟩
    · intro message receipt same
      cases same
      refine ⟨_, traced, fun foreign => ?_⟩
      have wanted := List.find?_some present
      exact absurd (of_decide_eq_true wanted) (foreign execution (List.mem_of_find?_eq_some present))

/-- Some work with a scope that is removed afterwards: without the scope it is not begun. -/
theorem captureWork_cases (engine : Engine) (request : CaptureRequest) (outside : Outside) (world : World) :
    (∃ fault final, engine.captureWork request outside world = (.error (.artifact fault), final) ∧
      World.Adds Event.isSilent world final) ∨
    ∃ scope start result finish final, engine.captureWork request outside world = (result, final) ∧
      World.Adds Event.isSilent world start ∧ Staged engine request scope outside start result finish ∧
      World.Adds Event.isSilent finish final := by
  unfold captureWork
  cases made : Scope.create engine.config.artifactDirectory outside world with
  | mk result start =>
    have silent : World.Adds Event.isSilent world start := (scope_adds _).of_ran made
    cases result with
    | error fault => exact .inl ⟨_, _, Run.bind_of_error (Run.mapError_of_error made), silent⟩
    | ok scope =>
      obtain ⟨result, finish, ran, staged⟩ := engine.captureWithin_staged request scope outside start
      refine .inr ⟨scope, start, result, finish, scope.discard outside finish, ?_, silent, staged, .of_journal_eq rfl⟩
      rw [Run.bind_of_ok (Run.mapError_of_ok made)]
      simp only [Run.andFinally, ran]

theorem outcome_eq_ok {α : Type} {worked : Except EngineError α} {stopped : Except NodeError Unit} {value : α}
    (same : outcome worked stopped = .ok value) : worked = .ok value := by
  cases worked with
  | error error => cases same
  | ok worked =>
    cases stopped with
    | error fault => cases same
    | ok done => exact same

/-- Stopping the node adds nothing to a failure and can only turn a report into a failure. -/
theorem Reported.outcome {worked : Except EngineError Report} {deployed : List Event.Deployment}
    {sent : List Event.Sending} {fetched : List Event.Fetching} (stopped : Except NodeError Unit)
    (reported : Reported request worked deployed sent fetched) :
    Reported request (outcome worked stopped) deployed sent fetched where
  success report same := reported.success report (outcome_eq_ok same)
  lost message receipt same := by
    obtain ⟨address, traced, failed⟩ := reported.lost message receipt same
    refine ⟨address, traced, fun foreign => ?_⟩
    rw [failed foreign]
    rfl

/-- Whatever the compiler, the node and the ledger answer, a report names the address that the contract of
the last call was deployed at, and the place of the first receipt of this contract in preorder; and if the
tree that was fetched has no such receipt, the capture fails with just that. -/
theorem capture_reported (engine : Engine) (request : CaptureRequest) (outside : Outside) (world : World) :
    ∃ events, (engine.capture request outside world).2.journal = world.journal ++ events ∧
      Reported request (engine.capture request outside world).1 (deployments events) (sendings events)
        (receipts events) := by
  have told : ∃ deployed sent fetched,
      world.Shows deployed sent fetched (engine.capture request outside world).2 ∧
      Reported request (engine.capture request outside world).1 deployed sent fetched := by
    obtain ⟨result, final, ran, goes⟩ := engine.withNode_cases (engine.captureWork request) outside world
    rw [capture, ran]
    cases goes with
    | unready silent => exact ⟨[], [], [], .of_silent silent, reported_of_unfetched _⟩
    | @worked start finish final worked stopped before work after =>
      rcases engine.captureWork_cases request outside start with ⟨fault, between, again, silent⟩ |
        ⟨scope, opened, result, closing, closed, again, opening, staged, silent⟩
      · rw [work] at again
        cases again
        exact ⟨[], [], [], .of_silent ((before.trans silent).trans after), reported_of_unfetched _⟩
      · rw [work] at again
        cases again
        obtain ⟨deployed, sent, fetched, shows, reported⟩ := staged.reported
        refine ⟨deployed, sent, fetched, ?_, reported.outcome stopped⟩
        exact (shows.trans_silent (silent.trans after)).silent_trans (before.trans opening)
  obtain ⟨_, _, _, ⟨events, journal, rfl, rfl, rfl⟩, reported⟩ := told
  exact ⟨events, journal, reported⟩

end Engine

end LedgerCapture
