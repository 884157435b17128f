import LedgerCapture.Engine.Basic
import LedgerCapture.Gateway.Implementation

/-!
Putting an engine together from the settings: both halves of the gateway are looked up by name, made
from the tables that configure them, and the tables are checked.
-/
namespace LedgerCapture

inductive GatewayRole where
  | wallet
  | lookup
  deriving DecidableEq, Repr

def GatewayRole.text : GatewayRole → String
  | wallet => "wallet"
  | lookup => "lookup"

inductive AssemblyError where
  | unknown (role : GatewayRole) (name : String)
  | unconfigured (role : GatewayRole) (name : String)
  | refused (role : GatewayRole) (name : String) (fault : GatewayError)
  | invalid (role : GatewayRole) (name : String) (fault : ValidationError)

def AssemblyError.message : AssemblyError → String
  | unknown role name => "Configuration error: Unknown " ++ role.text ++ " implementation '" ++ name ++ "'"
  | unconfigured role name =>
    "Configuration error: No configuration for " ++ role.text ++ " implementation '" ++ name ++ "'"
  | refused role name fault =>
    "Configuration error: Failed to create " ++ role.text ++ " implementation '" ++ name ++ "': " ++
      fault.message
  | invalid role name fault =>
    "Configuration error: Invalid configuration for " ++ role.text ++ " implementation '" ++ name ++
      "': " ++ fault.message

namespace Engine

/-- Makes the half of a gateway that has the given name, and checks its table. -/
def makeHalf {α : Type} (role : GatewayRole) (schema : α → Schema) (known : List (String × Factory α))
    (tables : List (String × Toml)) (context : GatewayContext) (name : String) : Except AssemblyError α :=
  match known.lookup name, tables.lookup name with
  | none, _ => .error (.unknown role name)
  | some _, none => .error (.unconfigured role name)
  | some factory, some table => do
    let half ← (factory table context).mapError (.refused role name)
    (table.validate (schema half)).mapError (.invalid role name)
    return half

def makeGateway (settings : Config.Gateway) (context : GatewayContext) : Except AssemblyError Gateway := do
  let wallet ← makeHalf .wallet Wallet.schema walletImplementations settings.implementations context
    settings.wallet
  let lookup ← makeHalf .lookup Lookup.schema lookupImplementations settings.implementations context
    settings.lookup
  return ⟨wallet, lookup⟩

/-- The engine of the settings. Its compiler can be replaced. -/
def assemble (config : Config) (context : GatewayContext) (compiler : Option Compiler) :
    Except AssemblyError Engine := do
  let gateway ← makeGateway config.gateway context
  return ⟨config, gateway, compiler.getD (.ofProgram config.compiler)⟩

end Engine

end LedgerCapture
