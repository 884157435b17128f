import LedgerCapture.Ledger.Address
import LedgerCapture.Legacy.Block

/-!
Account states in the legacy form, and the names of the legacy files.
-/
namespace LedgerCapture.Legacy

/-- An account; only contracts have code. -/
structure Account where
  address : Ledger.Address
  balance : UInt64
  code : Option String

def Account.toJson (account : Account) : Json :=
  .object ([("address", .string account.address.text), ("balance", natural account.balance)] ++
    (match account.code with
      | some code => [("code", .string code)]
      | none => []))

/-- The accounts of a called contract and of the wallet that calls it. -/
structure State where
  contract : Account
  wallet : Account

namespace State

/-- The state before the first call: the contract has its code and the wallet plenty of money. -/
def initial (config : Config.Legacy) (contract wallet : Ledger.Address) (bytecode : String) : State where
  contract := ⟨contract, config.contractBalance, some (Ledger.withHexMark (Text.trim bytecode))⟩
  wallet := ⟨wallet, config.walletBalance, none⟩

def toJson (state : State) : Json :=
  .object [("accounts", .list [state.contract.toJson, state.wallet.toJson])]

end State

/-- The legacy file for the state, named by the text that all legacy files of a run start with. -/
def statePath (start : String) : String :=
  start ++ ".state"

def blockPath (start : String) : String :=
  start ++ ".block"

end LedgerCapture.Legacy
