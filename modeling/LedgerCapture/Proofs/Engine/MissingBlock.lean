import LedgerCapture.Proofs.Engine.Capture
import LedgerCapture.Proofs.Gateway.Agreement
import LedgerCapture.Proofs.Json.Null
import LedgerCapture.Proofs.Json.Record
import LedgerCapture.Rehearsal.Compiler

/-!
Blocks that the ledger does not have. A node answers null for them, and a program prints null; the node's
answer is refused, the program's is taken for the block. On every other document both lookups agree.
-/
namespace LedgerCapture

open Json.Grammar

/-! ### Runs that leave the files alone -/

def Run.KeepsFiles {ε α : Type} (run : Run ε α) : Prop :=
  ∀ outside world, (run outside world).2.files = world.files

namespace Run.KeepsFiles

variable {ε α β : Type}

theorem pure (value : α) : (Pure.pure value : Run ε α).KeepsFiles :=
  fun _ _ => rfl

theorem throw (fault : ε) : (MonadExcept.throw fault : Run ε α).KeepsFiles :=
  fun _ _ => rfl

theorem lift (result : Except ε α) : (Run.lift result).KeepsFiles :=
  fun _ _ => rfl

theorem exchange (ask : Outside → Journal → α) (event : α → Event) :
    (World.exchange ask event : Run ε α).KeepsFiles :=
  fun _ _ => rfl

theorem bind {first : Run ε α} {next : α → Run ε β} (keeps : first.KeepsFiles)
    (keepsNext : ∀ value, (next value).KeepsFiles) : (first >>= next).KeepsFiles := by
  intro outside world
  have before := keeps outside world
  cases ran : first outside world with
  | mk result between =>
    rw [ran] at before
    cases result with
    | error fault => rw [bind_of_error ran]; exact before
    | ok value => rw [bind_of_ok ran]; exact (keepsNext value outside between).trans before

end Run.KeepsFiles

namespace RemoteNode

theorem call_keepsFiles {α : Type} (node : RemoteNode)
    (read : Json.Reading → Json.Draft → Except Json.DecodeError α) (method : String)
    (parameters : List Json) : (node.call read method parameters).KeepsFiles := by
  unfold call
  split
  · exact .throw _
  · exact .throw _
  · exact .bind (fun _ _ => rfl) fun _ => .lift _

/-- Whatever a remote node is asked, nothing is written. -/
theorem answer_keepsFiles (node : RemoteNode) (command : LookupCommand) : (node.answer command).KeepsFiles := by
  cases command with
  | probe => exact .bind (node.call_keepsFiles _ _ _) fun _ => .pure _
  | receipt message => exact node.call_keepsFiles _ _ _
  | block shard block => exact node.call_keepsFiles _ _ _
  | contractState address block => exact node.call_keepsFiles _ _ _

def Response.NotNull (response : Response Json) : Prop :=
  response.result.join ≠ some .null

/-- No document of a node is null, whatever comes back from it. -/
theorem readAnswer_ne_null (method body : String) : readAnswer Json.Draft.readJson method body ≠ .ok .null := by
  intro same
  have keeps : Json.Record.Keeps Response.NotNull (Response.record Json.Draft.readJson).fields := by
    simp only [Json.Record.Keeps, Response.record, List.forall_mem_cons, List.not_mem_nil, false_implies,
      implies_true, and_true]
    refine ⟨fun reading draft state after read _ => ?_, fun reading draft state after read before => ?_⟩
    · obtain ⟨result, readResult, last⟩ := bind_eq_ok_iff.mp read
      cases last
      rintro rfl
      by_cases absent : draft = .literal .null
      · subst absent
        cases readResult
      · rw [readOption_of_ne_null absent] at readResult
        cases found : draft.readJson reading with
        | error fault => rw [found] at readResult; cases readResult
        | ok value =>
          rw [found] at readResult
          cases readResult
          exact absent (Json.Draft.readJson_eq_null_iff.mp found)
    · obtain ⟨fault, -, last⟩ := bind_eq_ok_iff.mp read
      cases last
      exact before
  obtain ⟨response, decoded, rest⟩ := bind_eq_ok_iff.mp same
  obtain ⟨draft, read⟩ := Json.exists_read_of_decode (mapError_eq_ok_iff.mp decoded)
  have unread : Response.NotNull (⟨none, none⟩ : Response Json) := by
    intro same
    cases same
  have kept : response.NotNull := Json.Record.read_keeps keeps read unread
  split at rest
  · cases rest
  · split at rest
    · next known =>
      cases rest
      exact kept known
    · cases rest

theorem call_ne_null (node : RemoteNode) (method : String) (parameters : List Json) (outside : Outside)
    (world : World) : (node.call Json.Draft.readJson method parameters outside world).1 ≠ .ok .null := by
  intro same
  rw [call] at same
  cases parsed : Url.parse node.endpoint with
  | malformed => rw [parsed] at same; cases same
  | unsuitable url => rw [parsed] at same; cases same
  | url url =>
    rw [parsed] at same
    have interpreted :
        node.interpret Json.Draft.readJson method url.text (outside.request world.journal _) = .ok .null := same
    unfold interpret at interpreted
    split at interpreted
    · cases interpreted
    · split at interpreted
      · obtain ⟨text, -, interpreted⟩ := bind_eq_ok_iff.mp interpreted
        exact readAnswer_ne_null _ _ interpreted
      · cases interpreted

end RemoteNode

namespace Node

theorem start_keepsFiles (settings : Config.Node) : (start settings).KeepsFiles := by
  unfold start
  split
  · apply Run.KeepsFiles.bind (.exchange _ _)
    intro launched
    split
    · exact .pure _
    · exact .throw _
  · exact .pure _

theorem checkAlive_keepsFiles (node : Node) : node.checkAlive.KeepsFiles := by
  unfold checkAlive
  split
  · apply Run.KeepsFiles.bind (.exchange _ _)
    intro status
    split
    · exact .pure _
    · exact .throw _
    · exact .throw _
  · exact .pure _

/-- All that waiting for a node does to the files is what the probes do. -/
theorem probe_rel {relation : Files → Files → Prop} (refl : ∀ files, relation files files)
    (trans : ∀ {files between after}, relation files between → relation between after → relation files after)
    (node : Node) {gateway : Gateway} {outside : Outside}
    (probes : ∀ world : World, relation world.files (gateway.ask .probe outside world).2.files)
    (readiness : Config.Readiness) (left : Nat) (lastError : String) (world : World) :
    relation world.files (node.probe gateway readiness left lastError outside world).2.files := by
  induction left generalizing lastError world with
  | zero => exact refl _
  | succ left ih =>
    have looked := node.checkAlive_keepsFiles outside world
    rw [probe]
    cases alive : node.checkAlive outside world with
    | mk result between =>
      rw [alive] at looked
      rw [← looked]
      cases result with
      | error fault =>
        rw [Run.bind_of_error alive]
        exact refl _
      | ok done =>
        rw [Run.bind_of_ok alive]
        have probed := probes between
        cases answered : gateway.ask .probe outside between with
        | mk answer after =>
          rw [answered] at probed
          rw [Run.bind_of_ok (Run.attempt_of answered)]
          cases answer with
          | ok value => exact probed
          | error fault =>
            dsimp only
            split
            · exact trans probed (ih _ (after.record (.slept _)))
            · exact trans probed (ih _ after)

theorem probe_keepsFiles (node : Node) {gateway : Gateway} (keeps : (gateway.ask .probe).KeepsFiles)
    (readiness : Config.Readiness) (left : Nat) (lastError : String) :
    (node.probe gateway readiness left lastError).KeepsFiles :=
  fun outside world => (node.probe_rel Eq.refl Eq.trans (fun world => (keeps outside world).symm) readiness left
    lastError world).symm

theorem shutdown_keepsFiles (node : Node) : node.shutdown.KeepsFiles := by
  have killed : kill.KeepsFiles := by
    apply Run.KeepsFiles.bind (.exchange _ _)
    intro result
    split
    · exact .pure _
    · exact .throw _
  unfold shutdown
  split
  · apply Run.KeepsFiles.bind (.exchange _ _)
    intro status
    split
    · exact .pure _
    · exact .throw _
    · apply Run.KeepsFiles.bind (.exchange _ _)
      intro ended
      split
      · exact .pure _
      · exact .throw _
      · exact killed
  · exact .pure _

end Node

/-! ### What a program prints for a block, and what a node sends -/

section Lookups

variable {program : WalletProgram} {node : RemoteNode} {document : String} {shard : Ledger.ShardId}
  {block : Ledger.BlockHash} {outside outside' : Outside} {world world' : World}

theorem WalletProgram.block_eq_ok_iff {draft : Json.Draft} (value : Json)
    (spells : Json.Spells Json.Stops document.toList draft)
    (prints : program.Prints ["block", block.text, "--shard-id", shard.text] outside world
      (blockMarker ++ document)) :
    (program.answer (.block shard block) outside world).1 = .ok value ↔
      draft.readJson .unlimited = .ok value := by
  have shows : Text.isBlankText (blockMarker ++ document) = false := by
    rw [Text.isBlankText, String.toList_append, List.all_append]
    rfl
  exact runDocument_eq_ok_iff prints shows spells

theorem RemoteNode.block_eq
    (returns : node.Returns "debug_getBlockByHash" [shard.toJson, .string block.text, .boolean true] outside
      world ("\x7b\"result\":" ++ document ++ "\x7d")) :
    (node.answer (.block shard block) outside world).1 =
      readAnswer Json.Draft.readJson "debug_getBlockByHash" ("\x7b\"result\":" ++ document ++ "\x7d") :=
  call_of_returns returns

end Lookups

/-! ### Writing down a block -/

theorem Gateway.ask_of {gateway : Gateway} {command : LookupCommand} {outside : Outside} {world between : World}
    {answer : Except GatewayError command.Reply}
    (answered : gateway.lookup.perform command outside world = (answer, between)) :
    gateway.ask command outside world = (answer, between.record (.lookup command answer)) := by
  simp only [ask, answered]

namespace Engine

/-- What happens around some work has no part in the files and makes no success of a failure. -/
theorem withNode_files {α : Type} {engine : Engine} (keeps : (engine.gateway.ask .probe).KeepsFiles)
    (work : Run EngineError α) (outside : Outside) (world : World) :
    ((∃ fault, (engine.withNode work outside world).1 = .error fault) ∧
      (engine.withNode work outside world).2.files = world.files) ∨
    ∃ start, start.files = world.files ∧
      (engine.withNode work outside world).2.files = (work outside start).2.files ∧
      ∀ value, (engine.withNode work outside world).1 = .ok value → (work outside start).1 = .ok value := by
  have starting := Node.start_keepsFiles engine.config.node outside world
  cases started : Node.start engine.config.node outside world with
  | mk result launched =>
    rw [started] at starting
    cases result with
    | error fault =>
      rw [withNode_of_unlaunched work started]
      exact .inl ⟨⟨_, rfl⟩, starting⟩
    | ok node =>
      have waiting : (node.waitReady engine.gateway engine.config.node.readiness outside launched).2.files = _ :=
        node.probe_keepsFiles keeps _ _ _ outside launched
      cases waited : node.waitReady engine.gateway engine.config.node.readiness outside launched with
      | mk result ready =>
        rw [waited] at waiting
        have stopping := node.shutdown_keepsFiles outside
        cases result with
        | error fault =>
          rw [withNode_of_unready work started waited rfl]
          exact .inl ⟨⟨_, rfl⟩, (stopping ready).trans (waiting.trans starting)⟩
        | ok value =>
          rw [withNode_of_ready started waited rfl rfl]
          exact .inr ⟨ready, waiting.trans starting, stopping _, fun value same => outcome_eq_ok same⟩

section Writing

variable {engine : Engine} {shard : Ledger.ShardId} {block : Ledger.BlockHash} {outside : Outside}
  {world between : World}

theorem writeBlockWork_of_error (path : String) {fault : GatewayError}
    (answered : engine.gateway.lookup.perform (.block shard block) outside world = (.error fault, between)) :
    (engine.writeBlockWork shard block path outside world).1 = .error (.gateway fault) ∧
      (engine.writeBlockWork shard block path outside world).2.files = between.files := by
  have ran : engine.writeBlockWork shard block path outside world = _ :=
    Run.bind_of_error (Run.mapError_of_error (Gateway.ask_of answered))
  rw [ran]
  exact ⟨rfl, rfl⟩

/-- The document that was answered is written down, if that is possible. -/
theorem writeBlockWork_of_ok (path : String) {document : Json}
    (answered : engine.gateway.lookup.perform (.block shard block) outside world = (.ok document, between)) :
    match between.files.write path (Json.fileText document).toUTF8 with
    | .ok files => (engine.writeBlockWork shard block path outside world).1 = .ok () ∧
        (engine.writeBlockWork shard block path outside world).2.files = files
    | .error fault => (engine.writeBlockWork shard block path outside world).1 = .error (.output ⟨path, fault⟩) ∧
        (engine.writeBlockWork shard block path outside world).2.files = between.files := by
  have ran : engine.writeBlockWork shard block path outside world = _ :=
    Run.bind_of_ok (Run.mapError_of_ok (Gateway.ask_of answered))
  rw [ran]
  cases written : between.files.write path (Json.fileText document).toUTF8 <;>
    simp only [writeDocument, World.alter, Run.mapError, World.record, written, and_self]

/-- Where something is written down for a block, it is the document that was answered. -/
theorem exists_document_of_wrote {path : String}
    (keeps : ∀ command, (engine.gateway.lookup.perform command).KeepsFiles)
    (wrote : (engine.writeBlock shard block path outside world).1 = .ok () ∨
      (engine.writeBlock shard block path outside world).2.files ≠ world.files) :
    ∃ start document, (engine.gateway.lookup.perform (.block shard block) outside start).1 = .ok document ∧
      world.files.write path (Json.fileText document).toUTF8 =
        .ok (engine.writeBlock shard block path outside world).2.files := by
  have probe : (engine.gateway.ask .probe).KeepsFiles := fun outside world => keeps .probe outside world
  rcases withNode_files probe (engine.writeBlockWork shard block path) outside world with
    ⟨⟨fault, failed⟩, same⟩ | ⟨start, started, written, succeeded⟩
  · rcases wrote with went | changed
    · exact nomatch went.symm.trans failed
    · exact absurd same changed
  · have kept := keeps (.block shard block) outside start
    cases answered : engine.gateway.lookup.perform (.block shard block) outside start with
    | mk answer between =>
      rw [answered, started] at kept
      have unwritten {fault} (failed : (engine.writeBlockWork shard block path outside start).1 = .error fault)
          (same : (engine.writeBlockWork shard block path outside start).2.files = between.files) : False := by
        rcases wrote with went | changed
        · exact nomatch (succeeded () went).symm.trans failed
        · exact changed (written.trans (same.trans kept))
      cases answer with
      | error fault =>
        have outcome := writeBlockWork_of_error path answered
        exact (unwritten outcome.1 outcome.2).elim
      | ok document =>
        have outcome := writeBlockWork_of_ok path answered
        split at outcome
        · next files done =>
          refine ⟨start, document, by rw [answered], ?_⟩
          rw [← kept, done]
          exact congrArg _ (outcome.2.symm.trans written.symm)
        · exact (unwritten outcome.1 outcome.2).elim

end Writing

end Engine

/-! ### What becomes of a document that stands for a block -/

/-- What both lookups make of one document, and what is written down for a block then. -/
structure BlockLookups (program : WalletProgram) (node : RemoteNode) (shard : Ledger.ShardId)
    (block : Ledger.BlockHash) (document : String) (outside : Outside) (world : World) (outside' : Outside)
    (world' : World) : Prop where
  /-- They agree on every document but null. -/
  agree_iff : (program.answer (.block shard block) outside world).1.toOption =
    (node.answer (.block shard block) outside' world').1.toOption ↔ ¬ IsNull document.toList
  taken : IsNull document.toList → (program.answer (.block shard block) outside world).1 = .ok .null
  refused : IsNull document.toList → (node.answer (.block shard block) outside' world').1 =
    .error (.unexpectedOutput "debug_getBlockByHash" "empty result")
  /-- What a program prints is written down, null as well. -/
  printed : ∀ (engine : Engine) (path : String) (files : Files), engine.gateway.lookup = program.lookup →
    IsNull document.toList →
    (program.answer (.block shard block) outside world).2.files.write path (Json.fileText .null).toUTF8 =
      .ok files →
    (engine.writeBlockWork shard block path outside world).1 = .ok () ∧
      (engine.writeBlockWork shard block path outside world).2.files = files
  /-- No null is written down for a node, whatever it answers and whatever happens around it. -/
  sent : ∀ (engine : Engine) (path : String) (outside : Outside) (world : World),
    engine.gateway.lookup = node.lookup →
    (engine.writeBlock shard block path outside world).1 = .ok () ∨
      (engine.writeBlock shard block path outside world).2.files ≠ world.files →
    ∃ found, found ≠ .null ∧ world.files.write path (Json.fileText found).toUTF8 =
      .ok (engine.writeBlock shard block path outside world).2.files

section

variable {program : WalletProgram} {node : RemoteNode} {document : String} {outside outside' : Outside}
  {world world' : World}

/-- Both lookups find the same block in a document, or none, unless the document is null: for a node null
is no block, for a program it is one, and it is written down. -/
theorem block_lookups_agree_iff (isDocument : IsDocument document) (shard : Ledger.ShardId)
    (block : Ledger.BlockHash)
    (prints : program.Prints ["block", block.text, "--shard-id", shard.text] outside world
      (WalletProgram.blockMarker ++ document))
    (returns : node.Returns "debug_getBlockByHash" [shard.toJson, .string block.text, .boolean true] outside'
      world' ("\x7b\"result\":" ++ document ++ "\x7d")) :
    BlockLookups program node shard block document outside world outside' world' := by
  obtain ⟨draft, spells⟩ := Json.exists_spells_of_isElement isDocument
  have printed (value : Json) := WalletProgram.block_eq_ok_iff value spells prints
  have sent := RemoteNode.block_eq returns
  have isNull_iff : IsNull document.toList ↔ draft = .literal .null := by
    rw [← Json.spells_null_iff isDocument]
    refine ⟨fun null => spells.unique null, ?_⟩
    rintro rfl
    exact spells
  have taken : IsNull document.toList → (program.answer (.block shard block) outside world).1 = .ok .null :=
    fun null => (printed .null).mpr (Json.Draft.readJson_eq_null_iff.mpr (isNull_iff.mp null))
  have refused : IsNull document.toList → (node.answer (.block shard block) outside' world').1 =
      .error (.unexpectedOutput "debug_getBlockByHash" "empty result") := by
    intro null
    cases isNull_iff.mp null
    rw [sent, RemoteNode.readAnswer, Json.decode_of_spells (RemoteNode.spells_result spells).weaken,
      RemoteNode.Response.read_result]
    rfl
  refine ⟨⟨?_, fun present => ?_⟩, taken, refused, ?_, ?_⟩
  · intro same null
    rw [taken null, refused null] at same
    cases same
  · apply toOption_eq_of_eq_ok_iff
    intro value
    rw [printed, sent, RemoteNode.readAnswer_eq_ok_iff _ spells, and_iff_right (mt isNull_iff.mpr present)]
  · intro engine path files same null written
    have answered : engine.gateway.lookup.perform (.block shard block) outside world =
        (.ok .null, (program.answer (.block shard block) outside world).2) := by
      rw [same]
      exact Prod.ext (taken null) rfl
    have outcome := Engine.writeBlockWork_of_ok path answered
    rw [written] at outcome
    exact outcome
  · intro engine path outside world same wrote
    have keeps : ∀ command, (engine.gateway.lookup.perform command).KeepsFiles := by
      rw [same]
      exact node.answer_keepsFiles
    obtain ⟨start, found, answered, written⟩ := Engine.exists_document_of_wrote keeps wrote
    rw [same] at answered
    refine ⟨found, ?_, written⟩
    rintro rfl
    exact node.call_ne_null _ _ _ _ answered

/-- An object without members. -/
theorem block_lookups_agree_on_object :
    let document := "\x7b\x7d"
    let program : WalletProgram := ⟨"nil_cli", [], none, []⟩
    let node : RemoteNode := ⟨"http://localhost", "eth_chainId", 30⟩
    let outside := Rehearsal.answering [.answered 200 (.ok ("\x7b\"result\":" ++ document ++ "\x7d"))]
      { Rehearsal.outside ⟨[], []⟩ "/tmp" [] with
        process := fun _ _ => .ok ⟨(WalletProgram.blockMarker ++ document).toUTF8, .empty, true, none⟩ }
    let world : World := ⟨⟨[], []⟩, []⟩
    IsDocument document ∧ BlockLookups program node ⟨1⟩ ⟨"0xb"⟩ document outside world outside world ∧
      (program.answer (.block ⟨1⟩ ⟨"0xb"⟩) outside world).1.isOk = true := by
  intro document program node outside world
  have chars : document.toList = '\x7b' :: ([] ++ ['\x7d']) := by decide
  have isDocument : IsDocument document := by
    rw [IsDocument, chars]
    exact (IsValue.emptyObject Json.noGap).element
  have prints : program.Prints ["block", "0xb", "--shard-id", "1"] outside world
      (WalletProgram.blockMarker ++ document) :=
    ⟨_, rfl, rfl, rfl⟩
  have returns : node.Returns "debug_getBlockByHash" [.ofNat 1, .string "0xb", .boolean true] outside world
      ("\x7b\"result\":" ++ document ++ "\x7d") :=
    RemoteNode.returns_of_answering parse_localhost (by decide) (by decide) rfl _ _
  exact ⟨isDocument, block_lookups_agree_iff isDocument ⟨1⟩ ⟨"0xb"⟩ prints returns, by decide +kernel⟩

/-- A block that is not there: the node's answer is refused, and the program's is written down as null. -/
theorem writeBlock_of_missing_block :
    let program : WalletProgram := ⟨"nil_cli", [], none, []⟩
    let node : RemoteNode := ⟨"http://localhost", "eth_chainId", 30⟩
    let outside := Rehearsal.answering [.answered 200 (.ok "\x7b\"result\":null\x7d")]
      { Rehearsal.outside ⟨[], []⟩ "/tmp" [] with
        process := fun _ _ => .ok ⟨"Block data: null".toUTF8, .empty, true, none⟩ }
    let world : World := ⟨⟨[], []⟩, []⟩
    let config : Config := ⟨⟨false, "nil", [], ⟨500, 1⟩, 0⟩, ⟨"", "cli", "cli", []⟩, ⟨"solc", []⟩, none, .eager, {}⟩
    let engine : Engine := ⟨config, ⟨program.wallet, program.lookup⟩, Rehearsal.compiler []⟩
    let ran := engine.writeBlock ⟨1⟩ ⟨"0xb"⟩ "block.json" outside world
    IsDocument "null" ∧
      (program.answer (.block ⟨1⟩ ⟨"0xb"⟩) outside world).1.isOk = true ∧
      (node.answer (.block ⟨1⟩ ⟨"0xb"⟩) outside world).1.isOk = false ∧
      ran.1 = .ok () ∧ ran.2.files.readText "block.json" = .ok "null\n" := by
  refine ⟨IsValue.null.element, ?_, ?_, ?_, ?_⟩ <;> decide +kernel

end

end LedgerCapture
