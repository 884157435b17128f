import LedgerCapture.World.Basic
import LedgerCapture.Schema
import LedgerCapture.Toml.Basic

/-!
Gateways: the two halves through which the ledger is reached. Every command and its answer are entered
into the journal, whatever way the gateway takes to find the answer; on that way only programs are
started and requests sent.
-/
namespace LedgerCapture

/-- The half that changes the ledger, and the schema of the table that configures it. -/
structure Wallet where
  schema : Schema
  perform : (command : WalletCommand) → Run GatewayError command.Reply
  perform_adds : ∀ command, Run.Adds Event.isCarrier (perform command)

/-- The half that reads the ledger, and the schema of the table that configures it. -/
structure Lookup where
  schema : Schema
  perform : (command : LookupCommand) → Run GatewayError command.Reply
  perform_adds : ∀ command, Run.Adds Event.isCarrier (perform command)

structure Gateway where
  wallet : Wallet
  lookup : Lookup

namespace Gateway

def command (gateway : Gateway) (command : WalletCommand) : Run GatewayError command.Reply :=
  fun outside world =>
    let (answer, world) := gateway.wallet.perform command outside world
    (answer, world.record (.wallet command answer))

def ask (gateway : Gateway) (command : LookupCommand) : Run GatewayError command.Reply :=
  fun outside world =>
    let (answer, world) := gateway.lookup.perform command outside world
    (answer, world.record (.lookup command answer))

end Gateway

/-- What gateways are told besides the table that configures them: the wallet configuration that was
chosen on the command line. -/
structure GatewayContext where
  walletConfig : Option String

def nonEmptyString : Check := fun value =>
  match value with
  | .string text => if text == "" then .error "cannot be empty" else .ok ()
  | _ => .error "cannot be empty"

/-- The strings of the list under a key; other items of the list are left out. -/
def Toml.strings? (table : Toml) (key : String) : Option (List String) :=
  ((table.get? key).bind Toml.list?).map fun items => items.filterMap Toml.string?

end LedgerCapture
