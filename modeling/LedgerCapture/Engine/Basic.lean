import LedgerCapture.Config.Block
import LedgerCapture.Engine.Error
import LedgerCapture.Legacy.State

/-!
The three modes of a run: capturing the block that replayed calls lead to, writing down a block that is
there already, and making a new wallet configuration. Each mode works with a node that is ready and is
stopped again, whatever the outcome.
-/
namespace LedgerCapture

structure Engine where
  config : Config
  gateway : Gateway
  compiler : Compiler

structure CaptureRequest where
  block : BlockConfig
  mode : Config.DeploymentMode
  /-- What the names of the legacy files start with. -/
  legacyStart : Option String
  blockOutput : Option String
  stateOutput : Option String

/-- What was captured: the block of the last call, the contract that was called, and the files that were
written, in order. -/
structure Report where
  location : Ledger.Location
  contract : Ledger.Address
  files : List String
  deriving DecidableEq

namespace Engine

/-- The outcome of some work and of stopping the node after it. A failure of the work counts more. -/
def outcome {α : Type} (result : Except EngineError α) (stopped : Except NodeError Unit) :
    Except EngineError α := do
  let value ← result
  stopped.mapError .node
  return value

/-- Works with a node that is ready, and stops the node afterwards. -/
def withNode {α : Type} (engine : Engine) (work : Run EngineError α) : Run EngineError α := do
  let node ← (Node.start engine.config.node).mapError .node
  let ready := (node.waitReady engine.gateway engine.config.node.readiness).mapError .node
  let result ← (ready >>= fun _ => work).attempt
  let stopped ← node.shutdown.attempt
  Run.lift (outcome result stopped)

/-! ### Capturing a block -/

def ask (engine : Engine) (command : LookupCommand) : Run EngineError command.Reply :=
  (engine.gateway.ask command).mapError .gateway

/-- The block of the last call, if a file is made of it. -/
def fetchBlock (engine : Engine) (request : CaptureRequest) (location : Ledger.Location) :
    Run EngineError (Option Json) := do
  if request.blockOutput.isSome || request.legacyStart.isSome then
    return some (← engine.ask (.block location.shard location.block))
  else return none

def writeBlockFile (request : CaptureRequest) (block : Option Json) : Run EngineError (List String) :=
  match request.blockOutput, block with
  | some path, some block => do
    (writeDocument path block).mapError .output
    return [path]
  | _, _ => pure []

def writeStateFile (engine : Engine) (request : CaptureRequest) (last : LastCall)
    (location : Ledger.Location) : Run EngineError (List String) :=
  match request.stateOutput with
  | some path => do
    let state ← engine.ask (.contractState last.address location.block)
    (writeDocument path state).mapError .output
    return [path]
  | none => pure []

def writeLegacyFiles (engine : Engine) (request : CaptureRequest) (registry : Registry) (last : LastCall)
    (block : Option Json) : Run EngineError (List String) :=
  match request.legacyStart, block with
  | some start, some block => do
    let (_, artifact) ← (Run.lift (registry.deployed last.contract)).mapError .registry
    let bytecode ← artifact.readBytecode.mapError .artifact
    let wallet ← (engine.gateway.command .walletAddress).mapError .gateway
    let state := Legacy.State.initial engine.config.legacy last.address wallet bytecode
    (writeDocument (Legacy.statePath start) state.toJson).mapError .output
    let legacy ← (Run.lift (Legacy.Block.ofDocument engine.config.legacy block)).mapError .format
    (writeDocument (Legacy.blockPath start) legacy.toJson).mapError .output
    return [Legacy.statePath start, Legacy.blockPath start]
  | _, _ => pure []

def writeOutputs (engine : Engine) (request : CaptureRequest) (registry : Registry) (last : LastCall)
    (location : Ledger.Location) : Run EngineError (List String) := do
  let block ← engine.fetchBlock request location
  let blockFiles ← writeBlockFile request block
  let stateFiles ← engine.writeStateFile request last location
  let legacyFiles ← engine.writeLegacyFiles request registry last block
  return blockFiles ++ stateFiles ++ legacyFiles

/-- Deploys the contracts, all at once in eager mode, and replays the calls. -/
def replay (engine : Engine) (request : CaptureRequest) : Stage EngineError (Option LastCall) := do
  match request.mode with
  | .eager => (Deployment.deployAll engine.gateway).mapError .deployment
  | .lazy => pure ()
  (Submission.submit engine.gateway request.mode request.block.calls).mapError .submission

def captureWithin (engine : Engine) (request : CaptureRequest) (scope : Scope) : Run EngineError Report := do
  let registry ← (Run.lift (Registry.ofContracts request.block.contracts)).mapError .registry
  let (last, session) ← (engine.replay request).run ⟨registry, .empty engine.compiler scope⟩
  let (last, location) ← (Resolution.resolve engine.gateway last).mapError .resolve
  let files ← engine.writeOutputs request session.registry last location
  return ⟨location, last.address, files⟩

/-- Captures a block. The artifacts are removed afterwards. -/
def captureWork (engine : Engine) (request : CaptureRequest) : Run EngineError Report := do
  let scope ← (Scope.create engine.config.artifactDirectory).mapError .artifact
  (engine.captureWithin request scope).andFinally scope.discard

def capture (engine : Engine) (request : CaptureRequest) : Run EngineError Report :=
  engine.withNode (engine.captureWork request)

/-! ### Writing down a block -/

def writeBlockWork (engine : Engine) (shard : Ledger.ShardId) (block : Ledger.BlockHash) (path : String) :
    Run EngineError Unit := do
  let document ← engine.ask (.block shard block)
  (writeDocument path document).mapError .output

def writeBlock (engine : Engine) (shard : Ledger.ShardId) (block : Ledger.BlockHash) (path : String) :
    Run EngineError Unit :=
  engine.withNode (engine.writeBlockWork shard block path)

/-! ### Making a wallet configuration -/

/-- Removes the file that is in the way of a new one. -/
def clearPath (path : String) : Run EngineError Unit := do
  let world ← World.now
  if world.files.isFile path then (World.alter (·.remove path)).mapError .inaccessible

/-- Makes a wallet configuration with a key and a wallet of its own, in the place of an old one. The
gateway must have been made for the same path. -/
def makeConfig (engine : Engine) (path : String) : Run EngineError Ledger.Address := do
  clearPath path
  (engine.gateway.command (.initConfig engine.config.gateway.rpcEndpoint)).mapError .gateway
  discard ((engine.gateway.command .generateKey).mapError .gateway)
  engine.withNode ((engine.gateway.command .createWallet).mapError .gateway)

end Engine

end LedgerCapture
