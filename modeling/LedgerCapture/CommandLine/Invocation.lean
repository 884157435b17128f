import LedgerCapture.CommandLine.Options
import LedgerCapture.Config.Reader
import LedgerCapture.Ledger.Shard

/-!
What a command line asks for: one of three commands, with options of its own and with options that may
stand before or behind the command's name.
-/
namespace LedgerCapture.CommandLine

structure CaptureOptions where
  blockConfig : String
  walletConfig : Option String
  legacyStart : Option String
  blockOutput : Option String
  stateOutput : Option String
  mode : Option Config.DeploymentMode
  deriving DecidableEq, Repr

inductive Command where
  | makeConfig (walletConfig : String)
  | capture (options : CaptureOptions)
  | writeBlock (shard : Ledger.ShardId) (block : Ledger.BlockHash) (output : String)
      (walletConfig : Option String)
  deriving DecidableEq, Repr

def Command.walletConfig : Command → Option String
  | makeConfig path => some path
  | capture options => options.walletConfig
  | writeBlock _ _ _ path => path

structure Invocation where
  settings : Option String
  command : Command
  deriving DecidableEq, Repr

/-! ### Options -/

def commonForms : List OptionForm :=
  [⟨"config", none, true⟩, ⟨"log-level", none, true⟩, ⟨"verbose", some 'v', false⟩]

def walletConfigForm : OptionForm := ⟨"cli-config-name", none, true⟩

def captureForms : List OptionForm :=
  [⟨"block-config", some 'b', true⟩, walletConfigForm, ⟨"legacy-prefix", some 'l', true⟩,
    ⟨"block-output", none, true⟩, ⟨"state-output", none, true⟩, ⟨"deploy-mode", none, true⟩]

def writeBlockForms : List OptionForm :=
  [⟨"shard-id", none, true⟩, ⟨"block-hash", none, true⟩, ⟨"output", some 'o', true⟩, walletConfigForm]

/-! ### Values -/

def required (given : Given) (name : String) : Except UsageError String :=
  match given.lookup name with
  | some value => .ok value
  | none => .error (.missingOption name)

/-- A path, which cannot be empty. -/
def path (name value : String) : Except UsageError String :=
  if value == "" then .error (.invalidValue name value) else .ok value

def path? (given : Given) (name : String) : Except UsageError (Option String) :=
  (given.lookup name).mapM (path name)

/-- The shard with the given number. A sign is allowed, also before a zero. -/
def shard (name value : String) : Except UsageError Ledger.ShardId :=
  match value.toList with
  | '-' :: digits =>
    if digits ≠ [] ∧ digits.all (· == '0') then .ok ⟨0⟩ else .error (.invalidValue name value)
  | digits =>
    match Decimal.readNatural Ledger.ShardId.greatest digits with
    | .ok number => .ok ⟨UInt32.ofNat number⟩
    | .error _ => .error (.invalidValue name value)

def mode (name value : String) : Except UsageError Config.DeploymentMode :=
  (Config.DeploymentMode.parse value).mapError fun _ => .invalidValue name value

/-! ### Commands -/

/-- The forms of a command's options and how the command is made from them. -/
structure CommandForm where
  forms : List OptionForm
  make : Given → Except UsageError Command

def makeConfigForm : CommandForm where
  forms := [walletConfigForm]
  make given := do
    return .makeConfig (← path "cli-config-name" (← required given "cli-config-name"))

def captureForm : CommandForm where
  forms := captureForms
  make given := do
    return .capture {
      blockConfig := ← path "block-config" (← required given "block-config")
      walletConfig := ← path? given "cli-config-name"
      legacyStart := ← path? given "legacy-prefix"
      blockOutput := ← path? given "block-output"
      stateOutput := ← path? given "state-output"
      mode := ← (given.lookup "deploy-mode").mapM (mode "deploy-mode") }

def writeBlockForm : CommandForm where
  forms := writeBlockForms
  make given := do
    return .writeBlock (← shard "shard-id" (← required given "shard-id"))
      ⟨← required given "block-hash"⟩ (← path "output" (← required given "output"))
      (← path? given "cli-config-name")

def commandForms : List (String × CommandForm) :=
  [("make-config", makeConfigForm), ("generate-block", captureForm), ("write-file", writeBlockForm)]

def settingsVariable : String := "BLOCKGEN_CONFIG"

/-- The file with the settings. An option behind the command counts more than one before it, and any option
more than the variable. The variable is looked at wherever the option is missing, and must make sense then. -/
def settingsPath (environment : Config.Environment) (outer inner : Given) :
    Except UsageError (Option String) := do
  let fallback ← (environment settingsVariable).mapM fun value =>
    if (outer.lookup "config").isSome && (inner.lookup "config").isSome then .ok value
    else path "config" value
  let before ← path? outer "config"
  let behind ← path? inner "config"
  return behind.or (before.or fallback)

def Invocation.parse (environment : Config.Environment) (arguments : List String) :
    Except UsageError Invocation := do
  match ← scan commonForms [] none arguments with
  | (_, []) => throw .missingCommand
  | (outer, name :: rest) =>
    match commandForms.lookup name with
    | none => throw (.unknownCommand name)
    | some form =>
      match ← scan (form.forms ++ commonForms) [] none rest with
      | (inner, []) =>
        let command ← form.make inner
        return ⟨← settingsPath environment outer inner, command⟩
      | (_, surplus :: _) => throw (.surplusArgument surplus)

end LedgerCapture.CommandLine
