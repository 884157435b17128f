import LedgerCapture.Gateway.Program
import LedgerCapture.Gateway.Rpc

/-!
The known implementations of both halves of a gateway, by the names under which they are configured.
-/
namespace LedgerCapture

abbrev Factory (α : Type) := Toml → GatewayContext → Except GatewayError α

def walletImplementations : List (String × Factory Wallet) :=
  [("cli", fun table context => .ok (WalletProgram.ofTable context table).wallet)]

def lookupImplementations : List (String × Factory Lookup) :=
  [("cli", fun table context => .ok (WalletProgram.ofTable context table).lookup),
    ("rpc", fun table _ => (RemoteNode.ofTable table).map RemoteNode.lookup)]

def Toml.validate (table : Toml) (schema : Schema) : Except ValidationError Unit :=
  schema.validate table.toJson

end LedgerCapture
