import LedgerCapture.Gateway.Basic
import LedgerCapture.Gateway.Pattern
import LedgerCapture.Text.Utf8

/-!
The gateway that runs a wallet program for every command and finds the result in what it prints. It is
the only one that can sign; of the lookups it lacks the state of contracts.
-/
namespace LedgerCapture

/-- A wallet program: the arguments it gets before those of a command, its configuration file, and the
command that tells whether the node answers. -/
structure WalletProgram where
  binary : String
  leadingArguments : List String
  configPath : Option String
  probeArguments : List String
  deriving DecidableEq, Repr

namespace WalletProgram

def start (program : WalletProgram) (arguments : List String) : ProcessStart :=
  ⟨program.binary, program.leadingArguments ++
    (match program.configPath with
      | some path => ["-c", path]
      | none => []) ++ arguments⟩

/-- The text that counts: what was printed, or if that is blank what was reported. -/
def effectiveText (stdout stderr : String) : String :=
  if Text.isBlankText stdout then stderr else stdout

def run (program : WalletProgram) (arguments : List String) : Run GatewayError String := do
  let start := program.start arguments
  let output ← start.run.mapError fun fault => .launch start.line fault.message
  if output.success then
    return effectiveText (Text.lossy output.stdout) (Text.lossy output.stderr)
  else throw (.commandFailed start.line (Text.trim (Text.lossy output.stderr)))

theorem run_adds (program : WalletProgram) (arguments : List String) :
    Run.Adds Event.isCarrier (program.run arguments) := by
  apply Run.Adds.bind (Run.Adds.mapError _ (program.start arguments).run_adds)
  intro output
  split
  · exact Run.Adds.pure _
  · exact Run.Adds.throw _

def commandName (arguments : List String) : String :=
  " ".intercalate arguments

def captured (pattern : Pattern) (arguments : List String) (text : String) : Except GatewayError String :=
  match pattern.capture? text with
  | some found => .ok found
  | none =>
    .error (.unexpectedOutput (commandName arguments)
      ("no match for '" ++ pattern.text ++ "' in: " ++ Text.trim text))

def addressFrom (command : String) (text : String) : Except GatewayError Ledger.Address :=
  (Ledger.Address.parse text).mapError fun fault => .unexpectedOutput command fault.message

/-- The document behind a marker. What follows the document does not matter. -/
def documentAfter {α : Type} (read : Json.Reading → Json.Draft → Except Json.DecodeError α)
    (marker text : String) : Except String α :=
  match behindMarker? marker.toList text.toList with
  | none => .error ("missing '" ++ Text.trim marker ++ "' in: " ++ Text.trim text)
  | some rest =>
    (Json.decodeLeading read .unlimited (String.ofList rest)).mapError fun fault =>
      "invalid JSON after '" ++ Text.trim marker ++ "': " ++ fault.message

def runCapture (program : WalletProgram) (arguments : List String) (pattern : Pattern) :
    Run GatewayError String := do
  Run.lift (captured pattern arguments (← program.run arguments))

def runDocument {α : Type} (program : WalletProgram) (arguments : List String) (marker : String)
    (read : Json.Reading → Json.Draft → Except Json.DecodeError α) : Run GatewayError α := do
  Run.lift ((documentAfter read marker (← program.run arguments)).mapError
    (.unexpectedOutput (commandName arguments)))

theorem runCapture_adds (program : WalletProgram) (arguments : List String) (pattern : Pattern) :
    Run.Adds Event.isCarrier (program.runCapture arguments pattern) :=
  Run.Adds.bind (program.run_adds arguments) fun _ => Run.Adds.lift _

theorem runDocument_adds {α : Type} (program : WalletProgram) (arguments : List String) (marker : String)
    (read : Json.Reading → Json.Draft → Except Json.DecodeError α) :
    Run.Adds Event.isCarrier (program.runDocument arguments marker read) :=
  Run.Adds.bind (program.run_adds arguments) fun _ => Run.Adds.lift _

def deployArguments (request : DeployRequest) : List String :=
  ["wallet", "deploy", request.bytecode, "--abi", request.interface, "--salt",
    toString request.salt.toNat]

def sendArguments (request : CallRequest) : List String :=
  ["wallet", "send-message", request.address.text, request.method] ++ request.arguments ++
    ["--abi", request.interface]

def receiptMarker : String := "Receipt data: "

def blockMarker : String := "Block data: "

def perform (program : WalletProgram) : (command : WalletCommand) → Run GatewayError command.Reply
  | .initConfig endpoint => do
    if program.configPath.isNone then
      throw (.configuration "a wallet config path is required to initialise a config")
    discard (program.run ["config", "init"])
    discard (program.run ["config", "set", "rpc_endpoint", endpoint])
  | .generateKey => do
    return Text.trim (← program.run ["keygen", "new"])
  | .createWallet => do
    Run.lift (addressFrom "wallet new" (← program.runCapture ["wallet", "new"] .newWalletAddress))
  | .walletAddress => do
    Run.lift (addressFrom "wallet info" (← program.runCapture ["wallet", "info"] .walletAddress))
  | .deploy request => do
    Run.lift (addressFrom "wallet deploy"
      (← program.runCapture (deployArguments request) .contractAddress))
  | .send request => do
    return ⟨← program.runCapture (sendArguments request) .messageHash⟩

theorem perform_adds (program : WalletProgram) (command : WalletCommand) :
    Run.Adds Event.isCarrier (program.perform command) := by
  cases command with
  | initConfig endpoint =>
    simp only [perform]
    split
    · exact Run.Adds.bind (Run.Adds.throw _) fun _ => Run.Adds.bind
        (Run.Adds.discard (program.run_adds _)) fun _ => Run.Adds.discard (program.run_adds _)
    · exact Run.Adds.bind (Run.Adds.discard (program.run_adds _)) fun _ =>
        Run.Adds.discard (program.run_adds _)
  | generateKey => exact Run.Adds.bind (program.run_adds _) fun _ => Run.Adds.pure _
  | createWallet => exact Run.Adds.bind (program.runCapture_adds _ _) fun _ => Run.Adds.lift _
  | walletAddress => exact Run.Adds.bind (program.runCapture_adds _ _) fun _ => Run.Adds.lift _
  | deploy request => exact Run.Adds.bind (program.runCapture_adds _ _) fun _ => Run.Adds.lift _
  | send request => exact Run.Adds.bind (program.runCapture_adds _ _) fun _ => Run.Adds.pure _

def answer (program : WalletProgram) : (command : LookupCommand) → Run GatewayError command.Reply
  | .probe => do
    discard (program.run program.probeArguments)
  | .receipt message =>
    program.runDocument ["receipt", message.text] receiptMarker Ledger.Receipt.read
  | .block shard block =>
    program.runDocument ["block", block.text, "--shard-id", shard.text] blockMarker Json.Draft.readJson
  | .contractState _ _ => throw (.unsupported "contract_state" "cli")

theorem answer_adds (program : WalletProgram) (command : LookupCommand) :
    Run.Adds Event.isCarrier (program.answer command) := by
  cases command with
  | probe => exact Run.Adds.discard (program.run_adds _)
  | receipt message => exact program.runDocument_adds _ _ _
  | block shard block => exact program.runDocument_adds _ _ _
  | contractState address block => exact Run.Adds.throw _

def nonEmptyList (reason : String) : Check := fun value =>
  match value with
  | .list (_ :: _) => .ok ()
  | _ => .error reason

def schema : Schema :=
  .mk [] [
    Schema.checkedField "binary" .string nonEmptyString,
    Schema.field "binary_args" (.list .string),
    Schema.checkedField "config_path" .string nonEmptyString,
    Schema.checkedField "probe_args" (.list .string) (nonEmptyList "probe_args cannot be empty")] true

/-- The wallet program that a table describes. A configuration file chosen on the command line takes the
place of the one in the table. -/
def ofTable (context : GatewayContext) (table : Toml) : WalletProgram where
  binary := ((table.get? "binary").bind Toml.string?).getD "nil_cli"
  leadingArguments := (table.strings? "binary_args").getD []
  configPath := context.walletConfig.or ((table.get? "config_path").bind Toml.string?)
  probeArguments := (table.strings? "probe_args").getD ["block", "latest"]

def wallet (program : WalletProgram) : Wallet :=
  ⟨schema, program.perform, program.perform_adds⟩

def lookup (program : WalletProgram) : Lookup :=
  ⟨schema, program.answer, program.answer_adds⟩

end WalletProgram

end LedgerCapture
