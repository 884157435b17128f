import LedgerCapture.Config.Environment
import LedgerCapture.Config.Settings
import LedgerCapture.Config.Error

/-!
Settings from TOML text. Environment variables are put in first, then the text is read, then the rules
are checked that concern several settings at once.
-/
namespace LedgerCapture

namespace Config

open Toml (optionalField requiredField)

def Readiness.record : Toml.Record Readiness where
  name := "ReadinessConfig"
  fields := [
    optionalField "poll_interval_ms" Toml.readUInt64 fun value state => { state with pollInterval := value },
    optionalField "max_attempts" Toml.readUInt32 fun value state => { state with maxAttempts := value }]

def Node.record : Toml.Record Node where
  name := "NodeConfig"
  fields := [
    optionalField "launch" Toml.readBoolean fun value state => { state with launch := value },
    optionalField "command" Toml.readString fun value state => { state with command := value },
    optionalField "args" Toml.readStrings fun value state => { state with arguments := value },
    optionalField "readiness" (Readiness.record.read {}) fun value state => { state with readiness := value },
    optionalField "shutdown_grace_ms" Toml.readUInt64 fun value state =>
      { state with shutdownGrace := value }]

structure Gateway.Partial where
  rpcEndpoint : String
  wallet : Option String
  lookup : Option String
  implementations : Option (List (String × Toml))

def Gateway.record : Toml.Record Gateway.Partial where
  name := "GatewayConfig"
  fields := [
    optionalField "rpc_endpoint" Toml.readString fun value state => { state with rpcEndpoint := value },
    requiredField "wallet" (·.wallet.isSome) Toml.readString fun value state =>
      { state with wallet := some value },
    requiredField "lookup" (·.lookup.isSome) Toml.readString fun value state =>
      { state with lookup := some value },
    requiredField "implementations" (·.implementations.isSome) Toml.readTable fun value state =>
      { state with implementations := some value }]

def localEndpoint : String := "http://127.0.0.1:8529"

def Gateway.read (value : Toml) : Except Toml.DecodeError Gateway := do
  match ← Gateway.record.read ⟨localEndpoint, none, none, none⟩ value with
  | ⟨rpcEndpoint, some wallet, some lookup, some implementations⟩ =>
    return ⟨rpcEndpoint, wallet, lookup, implementations⟩
  | ⟨_, none, _, _⟩ => throw (.missingField "wallet")
  | ⟨_, _, none, _⟩ => throw (.missingField "lookup")
  | ⟨_, _, _, none⟩ => throw (.missingField "implementations")

def Compiler.record : Toml.Record Compiler where
  name := "CompilerConfig"
  fields := [
    optionalField "binary" Toml.readString fun value state => { state with binary := value },
    optionalField "extra_args" Toml.readStrings fun value state => { state with extraArguments := value }]

def artifactsRecord : Toml.Record (Option String) where
  name := "ArtifactsConfig"
  fields := [⟨"base_dir", false, true, fun _ => true, fun value _ => do return some (← value.readPath)⟩]

def deploymentRecord : Toml.Record DeploymentMode where
  name := "DeploymentConfig"
  fields := [optionalField "mode" (Toml.readChoice DeploymentMode.names) fun value _ => value]

def LegacyHeader.record : Toml.Record LegacyHeader where
  name := "LegacyHeaderConfig"
  fields := [
    optionalField "parent_hash" Toml.readUInt64 fun value state => { state with parentHash := value },
    optionalField "number" Toml.readUInt64 fun value state => { state with number := value },
    optionalField "gas_limit" Toml.readUInt64 fun value state => { state with gasLimit := value },
    optionalField "gas_used" Toml.readUInt64 fun value state => { state with gasUsed := value },
    optionalField "prevrandao" Toml.readUInt64 fun value state => { state with prevrandao := value },
    optionalField "chain_id" Toml.readUInt64 fun value state => { state with chainId := value },
    optionalField "basefee" Toml.readUInt64 fun value state => { state with basefee := value },
    optionalField "blob_basefee" Toml.readUInt64 fun value state => { state with blobBasefee := value },
    optionalField "timestamp" Toml.readUInt64 fun value state => { state with timestamp := value }]

def Legacy.record : Toml.Record Legacy where
  name := "LegacyConfig"
  fields := [
    optionalField "coinbase" Toml.readString fun value state => { state with coinbase := value },
    optionalField "header" (LegacyHeader.record.read {}) fun value state => { state with header := value },
    optionalField "transaction_type" Toml.readString fun value state =>
      { state with transactionType := value },
    optionalField "transaction_nonce" Toml.readUInt64 fun value state =>
      { state with transactionNonce := value },
    optionalField "contract_balance" Toml.readUInt64 fun value state =>
      { state with contractBalance := value },
    optionalField "wallet_balance" Toml.readUInt64 fun value state => { state with walletBalance := value }]

structure Partial where
  node : Node := {}
  gateway : Option Gateway := none
  compiler : Compiler := {}
  artifactDirectory : Option String := none
  deploymentMode : DeploymentMode := .eager
  legacy : Legacy := {}

def record : Toml.Record Partial where
  name := "Config"
  fields := [
    optionalField "node" (Node.record.read {}) fun value state => { state with node := value },
    requiredField "gateway" (·.gateway.isSome) Gateway.read fun value state =>
      { state with gateway := some value },
    optionalField "compiler" (Compiler.record.read {}) fun value state => { state with compiler := value },
    optionalField "artifacts" (artifactsRecord.read none) fun value state =>
      { state with artifactDirectory := value },
    optionalField "deployment" (deploymentRecord.read .eager) fun value state =>
      { state with deploymentMode := value },
    optionalField "legacy" (Legacy.record.read {}) fun value state => { state with legacy := value }]

def Partial.finish (state : Partial) : Except Toml.DecodeError Config :=
  match state.gateway with
  | some gateway =>
    .ok ⟨state.node, gateway, state.compiler, state.artifactDirectory, state.deploymentMode, state.legacy⟩
  | none => .error (.missingField "gateway")

def ofToml (value : Toml) : Except Toml.DecodeError Config := do
  (← record.read {} value).finish

def readText {α : Type} (read : Toml → Except Toml.DecodeError α) (text : String) : Except ParseFault α :=
  match Toml.ofText? text with
  | none => .error .tomlSyntax
  | some entries => (read (.table entries)).mapError .toml

/-! ### Rules -/

def require (rule : Bool) (reason : String) : Except ConfigError Unit :=
  if rule then .ok () else .error (.invalid reason)

/-- The name of an implementation is not empty, and there is a table for it. -/
def checkRole (implementations : List (String × Toml)) (role name : String) : Except ConfigError Unit := do
  require (name != "") ("gateway." ++ role ++ " cannot be empty")
  require (implementations.any (·.1 == name))
    ("Gateway " ++ role ++ " implementation '" ++ name ++ "' not found in gateway.implementations")

def validate (config : Config) : Except ConfigError Unit := do
  require (!(config.node.launch && config.node.command == ""))
    "node.command cannot be empty when node.launch is enabled"
  require (config.node.readiness.pollInterval != 0)
    "node.readiness.poll_interval_ms must be greater than 0"
  require (config.node.readiness.maxAttempts != 0 && config.node.readiness.maxAttempts ≤ 600)
    "node.readiness.max_attempts must be between 1 and 600"
  require (!config.gateway.implementations.isEmpty) "At least one gateway implementation must be configured"
  checkRole config.gateway.implementations "wallet" config.gateway.wallet
  checkRole config.gateway.implementations "lookup" config.gateway.lookup
  require (config.compiler.binary != "") "compiler.binary cannot be empty"

/-! ### Texts -/

def greatestSize : Nat := 1024 * 1024

def resolveVariables (environment : Environment) (text : String) : Except ConfigError String :=
  if greatestSize < text.utf8ByteSize then
    .error (.invalid ("Configuration file too large: " ++ toString text.utf8ByteSize ++ " bytes (max: " ++
      toString greatestSize ++ " bytes)"))
  else
    (substitute environment text).mapError fun name =>
      .invalid ("Environment variable '" ++ name ++ "' not found")

def parse (environment : Environment) (text : String) : Except ConfigError Config := do
  let resolved ← resolveVariables environment text
  let config ← (readText ofToml resolved).mapError .parse
  config.validate
  return config

/-- The settings for a node on this machine, which the variable `NIL_RPC_ENDPOINT` can redirect. -/
def defaultText : String := "
[gateway]
rpc_endpoint = \"$\x7bNIL_RPC_ENDPOINT:-http://127.0.0.1:8529\x7d\"
wallet = \"cli\"
lookup = \"rpc\"

[gateway.implementations.cli]
binary = \"nil_cli\"

[gateway.implementations.rpc]
endpoint = \"$\x7bNIL_RPC_ENDPOINT:-http://127.0.0.1:8529\x7d\"
"

def builtin (environment : Environment) : Except ConfigError Config :=
  parse environment defaultText

def DeploymentMode.parse (name : String) : Except ConfigError DeploymentMode :=
  match DeploymentMode.names.find? (·.1 == name) with
  | some (_, mode) => .ok mode
  | none =>
    .error (.invalid ("Unknown deployment mode '" ++ name ++ "', expected 'eager' or 'lazy'"))

end Config

end LedgerCapture
