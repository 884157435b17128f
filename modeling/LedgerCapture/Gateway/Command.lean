import LedgerCapture.Ledger.Receipt

/-!
Everything that is asked of the ledger, and what answers can be. Commands that change the ledger go
through a wallet; lookups only read. Each command has a type of replies of its own.
-/
namespace LedgerCapture

structure DeployRequest where
  bytecode : String
  interface : String
  salt : UInt64
  deriving DecidableEq, Repr

/-- A call of a deployed contract. The interface tells how the arguments are encoded. -/
structure CallRequest where
  address : Ledger.Address
  method : String
  arguments : List String
  interface : String
  deriving DecidableEq

inductive WalletCommand where
  | initConfig (endpoint : String)
  | generateKey
  | createWallet
  | walletAddress
  | deploy (request : DeployRequest)
  | send (request : CallRequest)
  deriving DecidableEq

@[reducible] def WalletCommand.Reply : WalletCommand → Type
  | initConfig _ => Unit
  | generateKey => String
  | createWallet => Ledger.Address
  | walletAddress => Ledger.Address
  | deploy _ => Ledger.Address
  | send _ => Ledger.MessageHash

inductive LookupCommand where
  /-- whether the node answers at all -/
  | probe
  | receipt (message : Ledger.MessageHash)
  | block (shard : Ledger.ShardId) (block : Ledger.BlockHash)
  /-- the state of a contract in a block -/
  | contractState (address : Ledger.Address) (block : Ledger.BlockHash)
  deriving DecidableEq

@[reducible] def LookupCommand.Reply : LookupCommand → Type
  | probe => Unit
  | receipt _ => Ledger.Receipt
  | block _ _ => Json
  | contractState _ _ => Json

inductive GatewayError where
  /-- The program could not be started. -/
  | launch (command reason : String)
  /-- The program did not end with success. -/
  | commandFailed (command output : String)
  /-- The answer makes no sense. -/
  | unexpectedOutput (command reason : String)
  | http (reason : String)
  /-- The node answered with an error. -/
  | rpc (method : String) (code : Int) (reason : String)
  | unsupported (operation implementation : String)
  | configuration (reason : String)
  deriving DecidableEq, Repr

def GatewayError.message : GatewayError → String
  | launch command reason => "Failed to launch '" ++ command ++ "': " ++ reason
  | commandFailed command output => "Command '" ++ command ++ "' failed: " ++ output
  | unexpectedOutput command reason => "Unexpected output from '" ++ command ++ "': " ++ reason
  | http reason => "HTTP error: " ++ reason
  | rpc method code reason => "RPC error " ++ toString code ++ " from " ++ method ++ ": " ++ reason
  | unsupported operation implementation =>
    operation ++ " is not supported by the '" ++ implementation ++ "' gateway"
  | configuration reason => "Configuration error: " ++ reason

end LedgerCapture
