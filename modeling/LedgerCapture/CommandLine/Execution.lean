import LedgerCapture.CommandLine.Invocation
import LedgerCapture.Config.Load
import LedgerCapture.Engine.Assembly

/-!
Carrying out a command line: the settings are loaded, the engine is put together, and the command runs
with it. A command line that makes no sense ends with exit code 2, a failure with 1.
-/
namespace LedgerCapture.CommandLine

inductive CommandError where
  | config (fault : ConfigError)
  | assembly (fault : AssemblyError)
  | engine (fault : EngineError)

def CommandError.message : CommandError → String
  | config fault => fault.message
  | assembly fault => fault.message
  | engine fault => fault.message

def reportText (report : Report) : String :=
  "ShardId = " ++ report.location.shard.text ++ "\nBlockHash = " ++ report.location.block.text ++ "\n"

def Command.run (engine : Engine) : Command → Run EngineError String
  | .makeConfig walletConfig => do
    discard (engine.makeConfig walletConfig)
    return ""
  | .capture options => do
    let block ← (BlockConfig.load options.blockConfig).mapError .config
    let report ← engine.capture {
      block
      mode := options.mode.getD engine.config.deploymentMode
      legacyStart := options.legacyStart
      blockOutput := options.blockOutput
      stateOutput := options.stateOutput }
    return reportText report
  | .writeBlock shard block output _ => do
    engine.writeBlock shard block output
    return ""

def Invocation.loadSettings (environment : Config.Environment) (invocation : Invocation) :
    Run ConfigError Config :=
  match invocation.settings with
  | some path => Config.load environment path
  | none => Run.lift (Config.builtin environment)

def Invocation.run (environment : Config.Environment) (invocation : Invocation) :
    Run CommandError String := do
  let config ← (invocation.loadSettings environment).mapError .config
  let context : GatewayContext := ⟨invocation.command.walletConfig⟩
  let engine ← (Run.lift (Engine.assemble config context none)).mapError .assembly
  (invocation.command.run engine).mapError .engine

/-- What a program leaves at its end: an exit code, a text, and a word on what went wrong. -/
structure Ending where
  exitCode : Nat
  text : String
  problem : Option String
  deriving DecidableEq, Repr

def execute (environment : Config.Environment) (arguments : List String) (outside : Outside)
    (world : World) : Ending × World :=
  match Invocation.parse environment arguments with
  | .error fault => (⟨2, "", some fault.message⟩, world)
  | .ok invocation =>
    match invocation.run environment outside world with
    | (.ok text, world) => (⟨0, text, none⟩, world)
    | (.error fault, world) => (⟨1, "", some fault.message⟩, world)

end LedgerCapture.CommandLine
