import LedgerCapture.Proofs.Engine.Assembly
import LedgerCapture.Proofs.Node
import LedgerCapture.Proofs.Submission.Failure
import LedgerCapture.Rehearsal.Outside

/-!
The three modes stop at their first failure. While the node starts it may leave probes unanswered, and it is
stopped whatever has happened; all else that fails is the last thing a mode does.
-/
namespace LedgerCapture

open Journal

/-! ### The node -/

/-- Whatever comes of a probe, its program or request belongs to it. -/
theorem Gateway.probe_stops {ε : Type} (gateway : Gateway) :
    ((gateway.ask .probe).attempt : Run ε (Except GatewayError Unit)).StopsAtFailure := by
  intro outside world
  obtain ⟨carried, journal, carriers⟩ := gateway.lookup.perform_adds .probe outside world
  refine ⟨carried ++ [.lookup .probe (gateway.lookup.perform .probe outside world).1], ?_, ?_, ?_⟩
  · show (World.record _ _).journal = _
    simp only [World.record, journal, List.append_assoc]
  · intro last same
    rw [List.getLast?_concat] at same
    cases same
    rfl
  · intro before event after split failure
    -- From any event on, the first step is the probe.
    have probed : ∀ rest, (∀ event ∈ rest, event.isCarrier = true) → startsInProbe
        (rest ++ [.lookup .probe (gateway.lookup.perform .probe outside world).1]) = true := by
      intro rest only
      have none : steps rest = [] := List.filter_eq_nil_iff.mpr fun event member => by simp [only event member]
      rw [startsInProbe, steps_append, none]
      rfl
    rcases Heeded.split_append split with ⟨rest, rfl, rfl⟩ | ⟨front, later⟩
    · have starts := probed (event :: rest) fun other member =>
        carriers other (List.mem_append_right before member)
      rw [List.cons_append, failure.2] at starts
      cases starts
    · cases front with
      | nil =>
        obtain ⟨rfl, rfl⟩ := List.cons.inj later
        cases failure.2
      | cons head tail => simp at later

namespace Node

theorem start_stops (settings : Config.Node) : (start settings).StopsAtFailure := by
  unfold start
  split
  · apply Run.StopsAtFailure.bind (.exchange (fun _ => rfl) fun _ => rfl)
    intro launched
    split
    · exact .pure _
    · exact .throw _
  · exact .pure _

theorem checkAlive_stops (node : Node) : node.checkAlive.StopsAtFailure := by
  unfold checkAlive
  split
  · apply Run.StopsAtFailure.bind (.exchange (fun _ => rfl) fun _ => rfl)
    intro status
    split
    · exact .pure _
    · exact .throw _
    · exact .throw _
  · exact .pure _

theorem pause_stops {ε : Type} (milliseconds : UInt64) :
    (World.pause milliseconds : Run ε Unit).StopsAtFailure :=
  fun _ _ => ⟨[.slept milliseconds], rfl, .of_fine (by simp [Event.isCarrier, Event.isFailed]) _⟩

theorem probe_stops (node : Node) (gateway : Gateway) (readiness : Config.Readiness) (left : Nat)
    (lastError : String) : (node.probe gateway readiness left lastError).StopsAtFailure := by
  induction left generalizing lastError with
  | zero => exact .fail _
  | succ left ih =>
    apply Run.StopsAtFailure.bind node.checkAlive_stops
    intro _
    apply Run.StopsAtFailure.bind gateway.probe_stops
    intro answer
    cases answer with
    | ok value => exact .pure _
    | error fault =>
      dsimp only
      split
      · exact .bind (pause_stops _) fun _ => ih _
      · exact ih _

theorem waitReady_stops (node : Node) (gateway : Gateway) (readiness : Config.Readiness) :
    (node.waitReady gateway readiness).StopsAtFailure :=
  node.probe_stops gateway readiness _ _

end Node

theorem writeDocument_stops (path : String) (document : Json) : (writeDocument path document).StopsAtFailure :=
  .mapError _ (.alter _)

namespace Engine

variable {engine : Engine}

/-- Working with a node stops at the first failure of the work. -/
theorem withNode_stops {α : Type} (engine : Engine) {work : Run EngineError α} (stops : work.StopsAtFailure) :
    (engine.withNode work).StopsAtFailure := by
  apply Run.StopsAtFailure.bind (.mapError _ (Node.start_stops _))
  intro node outside world
  have attempted := Run.StopsAtFailure.bind
    (.mapError EngineError.node (node.waitReady_stops engine.gateway engine.config.node.readiness))
    fun _ => stops
  obtain ⟨added, journal, heeded⟩ := attempted outside world
  cases ran : ((node.waitReady engine.gateway engine.config.node.readiness).mapError EngineError.node >>=
      fun _ => work) outside world with
  | mk worked finish =>
    rw [ran] at journal heeded
    have adds : World.Adds Event.isTidy finish (node.shutdown outside finish).2 :=
      node.shutdown_adds (fun _ => rfl) (fun _ => rfl) (fun _ => rfl) outside finish
    obtain ⟨tidied, journalAfter, tidy⟩ := adds
    rw [Run.bind_of_ok (Run.attempt_of ran), Run.bind_of_ok (Run.attempt_of rfl)]
    refine ⟨added ++ tidied, ?_, (heeded.append_tidy tidy).congr ?_⟩
    · show (node.shutdown outside finish).2.journal = _
      rw [journalAfter, journal, List.append_assoc]
    · rintro fault rfl
      exact ⟨fault, rfl⟩

/-! ### Capturing a block -/

section

variable (givesUp : engine.gateway.GivesUp)
include givesUp

theorem ask_stops (command : LookupCommand) : (engine.ask command).StopsAtFailure :=
  .mapError _ (engine.gateway.ask_stops givesUp command)

theorem fetchBlock_stops (request : CaptureRequest) (location : Ledger.Location) :
    (engine.fetchBlock request location).StopsAtFailure := by
  unfold fetchBlock
  split
  · exact .bind (ask_stops givesUp _) fun _ => .pure _
  · exact .pure _

omit givesUp in
theorem writeBlockFile_stops (request : CaptureRequest) (block : Option Json) :
    (writeBlockFile request block).StopsAtFailure := by
  unfold writeBlockFile
  split
  · exact .bind (.mapError _ (writeDocument_stops _ _)) fun _ => .pure _
  · exact .pure _

theorem writeStateFile_stops (request : CaptureRequest) (last : LastCall) (location : Ledger.Location) :
    (engine.writeStateFile request last location).StopsAtFailure := by
  unfold writeStateFile
  split
  · apply Run.StopsAtFailure.bind (ask_stops givesUp _)
    intro state
    exact .bind (.mapError _ (writeDocument_stops _ _)) fun _ => .pure _
  · exact .pure _

theorem writeLegacyFiles_stops (request : CaptureRequest) (registry : Registry) (last : LastCall)
    (block : Option Json) : (engine.writeLegacyFiles request registry last block).StopsAtFailure := by
  unfold writeLegacyFiles
  split
  · apply Run.StopsAtFailure.bind (.mapError _ (.lift _))
    intro found
    apply Run.StopsAtFailure.bind (.mapError _ (.bind (.mapError _ (.inspect _)) fun _ => .pure _))
    intro bytecode
    apply Run.StopsAtFailure.bind (.mapError _ (engine.gateway.command_stops givesUp _))
    intro wallet
    apply Run.StopsAtFailure.bind (.mapError _ (writeDocument_stops _ _))
    intro _
    apply Run.StopsAtFailure.bind (.mapError _ (.lift _))
    intro legacy
    exact .bind (.mapError _ (writeDocument_stops _ _)) fun _ => .pure _
  · exact .pure _

theorem writeOutputs_stops (request : CaptureRequest) (registry : Registry) (last : LastCall)
    (location : Ledger.Location) : (engine.writeOutputs request registry last location).StopsAtFailure := by
  apply Run.StopsAtFailure.bind (fetchBlock_stops givesUp request location)
  intro block
  apply Run.StopsAtFailure.bind (writeBlockFile_stops request block)
  intro blockFiles
  apply Run.StopsAtFailure.bind (writeStateFile_stops givesUp request last location)
  intro stateFiles
  exact .bind (writeLegacyFiles_stops givesUp request registry last block) fun _ => .pure _

theorem resolve_stops (last : Option LastCall) :
    (Resolution.resolve engine.gateway last).StopsAtFailure := by
  cases last with
  | none => exact .fail _
  | some last =>
    refine .bind (.bind (.mapError _ (engine.gateway.ask_stops givesUp _)) fun receipt => ?_) fun _ => .pure _
    split
    · exact .pure _
    · exact .throw _

theorem replay_stops (request : CaptureRequest) : (engine.replay request).StopsAtFailure := by
  have submitted : ∀ mode, (Submission.submit engine.gateway mode request.block.calls).StopsAtFailure :=
    fun mode => Submission.submit_stops givesUp mode _
  unfold replay
  cases request.mode with
  | eager => exact .bind (.mapError _ (Deployment.deployAll_stops givesUp)) fun _ => .mapError _ (submitted _)
  | «lazy» => exact .mapError _ (submitted _)

omit givesUp in
theorem scope_stops (base : Option String) : (Scope.create base).StopsAtFailure := by
  unfold Scope.create
  extract_lets make
  have made : ∀ done, (make done).StopsAtFailure := by
    intro done
    apply Run.StopsAtFailure.of_journal_eq
    intro outside world
    dsimp only [make]
    split <;> rfl
  cases base with
  | none => exact made ()
  | some base => exact .bind (.mapError _ (.alter _)) made

theorem captureWork_stops (compiles : engine.compiler.GivesUp) (request : CaptureRequest) :
    (engine.captureWork request).StopsAtFailure := by
  apply Run.StopsAtFailure.bind (.mapError _ (scope_stops _))
  intro scope
  have within : (engine.captureWithin request scope).StopsAtFailure := by
    apply Run.StopsAtFailure.bind (.mapError _ (.lift _))
    intro registry
    apply Run.StopsAtFailure.bind (replay_stops givesUp request ⟨registry, .empty engine.compiler scope⟩ compiles).1
    intro replayed
    apply Run.StopsAtFailure.bind (.mapError _ (resolve_stops givesUp _))
    intro resolved
    exact .bind (writeOutputs_stops givesUp _ _ _ _) fun _ => .pure _
  -- Removing the scope is no matter of the journal.
  exact within

theorem makeConfig_stops (path : String) : (engine.makeConfig path).StopsAtFailure := by
  have cleared : (clearPath path).StopsAtFailure := by
    apply Run.StopsAtFailure.bind (.of_journal_eq fun _ _ => rfl)
    intro world
    split
    · exact .mapError _ (.alter _)
    · exact .pure _
  have commands := engine.gateway.command_stops givesUp
  apply Run.StopsAtFailure.bind cleared
  intro _
  apply Run.StopsAtFailure.bind (.mapError _ (commands _))
  intro _
  exact .bind (.discard (.mapError _ (commands _))) fun _ => engine.withNode_stops (.mapError _ (commands _))

theorem writeBlock_stops (shard : Ledger.ShardId) (block : Ledger.BlockHash) (path : String) :
    (engine.writeBlock shard block path).StopsAtFailure :=
  engine.withNode_stops (.bind (ask_stops givesUp _) fun _ => .mapError _ (writeDocument_stops _ _))

end

/-! ### Engines of the settings -/

theorem givesUp_of_assemble {config : Config} {context : GatewayContext}
    (assembled : assemble config context none = .ok engine) :
    engine.gateway.GivesUp ∧ engine.compiler.GivesUp := by
  have made := assembled_of_assemble assembled
  refine ⟨⟨?_, ?_⟩, ?_⟩
  · obtain ⟨table, -, same⟩ := made.wallet
    rw [same]
    exact (WalletProgram.ofTable context table).perform_givesUp
  · rcases made.lookup with ⟨table, -, same⟩ | ⟨table, node, -, -, same⟩
    · rw [same]
      exact (WalletProgram.ofTable context table).answer_givesUp
    · rw [same]
      exact node.answer_givesUp
  · rw [made.compiler]
    exact Compiler.ofProgram_givesUp config.compiler

/-- Whatever the settings are, an engine that is made from them stops at its first failure, in every mode. -/
theorem stopsAtFailure_of_assemble {config : Config} {context : GatewayContext}
    (assembled : assemble config context none = .ok engine) :
    (∀ path, (engine.makeConfig path).StopsAtFailure) ∧
      (∀ request, (engine.capture request).StopsAtFailure) ∧
      ∀ shard block path, (engine.writeBlock shard block path).StopsAtFailure := by
  obtain ⟨givesUp, compiles⟩ := givesUp_of_assemble assembled
  exact ⟨makeConfig_stops givesUp,
    fun request => engine.withNode_stops (captureWork_stops givesUp compiles request),
    writeBlock_stops givesUp⟩

/-- The endpoint cannot be set in a new wallet configuration: no key is generated, and no wallet is made. -/
theorem makeConfig_of_failed_program :
    let gateway : Config.Gateway := ⟨"http://localhost", "cli", "cli", [("cli", .table [])]⟩
    let config : Config := ⟨⟨false, "nil", [], ⟨500, 1⟩, 0⟩, gateway, ⟨"solc", []⟩, none, .eager, {}⟩
    let program := WalletProgram.ofTable ⟨some "wallet.ini"⟩ (.table [])
    let engine : Engine := ⟨config, ⟨program.wallet, program.lookup⟩, .ofProgram config.compiler⟩
    let run := engine.makeConfig "wallet.ini"
    let files : Files := ⟨[], []⟩
    let ran := run (Rehearsal.outside files "/tmp" [.idle, ⟨.empty, .empty, 1, none⟩]) ⟨files, []⟩
    assemble config ⟨some "wallet.ini"⟩ none = .ok engine ∧ run.StopsAtFailure ∧
      ran.1.isOk = false ∧ (ran.2.journal.filter Event.isOutgoing).length = 2 := by
  intro gateway config program engine run files ran
  have fits : (Toml.table []).validate WalletProgram.schema = .ok () := by decide +kernel
  have assembled : assemble config ⟨some "wallet.ini"⟩ none = .ok engine :=
    assemble_of_program rfl rfl rfl fits _ _
  exact ⟨assembled, (stopsAtFailure_of_assemble assembled).1 _, by decide +kernel, by decide +kernel⟩

end Engine

end LedgerCapture
