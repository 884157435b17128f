import LedgerCapture.Submission

/-!
Finding the block in which a call was executed. The receipt of a message lists the receipts of the
messages that its execution sent, and so on; the first one in preorder that belongs to the called
contract counts.
-/
namespace LedgerCapture

inductive ResolveError where
  /-- There was no call. -/
  | emptyHandle
  | receiptNotFound (message : Ledger.MessageHash) (contract : Ledger.Address)
  | gateway (fault : GatewayError)
  deriving DecidableEq

def ResolveError.message : ResolveError → String
  | emptyHandle => "Message hash is empty"
  | receiptNotFound message contract =>
    "Receipt for the execution of " ++ contract.text ++ " is not found in the cascade of " ++ message.text
  | gateway fault => "Failed to fetch receipt: " ++ fault.message

namespace Resolution

def resolveMessage (gateway : Gateway) (message : Ledger.MessageHash) (contract : Ledger.Address) :
    Run ResolveError Ledger.Location := do
  let receipt ← (gateway.ask (.receipt message)).mapError .gateway
  match receipt.find? contract with
  | some execution => return execution.location
  | none => throw (.receiptNotFound message contract)

/-- The block in which the last call was executed, and that call. -/
def resolve (gateway : Gateway) (last : Option LastCall) :
    Run ResolveError (LastCall × Ledger.Location) :=
  match last with
  | none => Run.fail .emptyHandle
  | some last => do
    return (last, ← resolveMessage gateway last.message last.address)

end Resolution

end LedgerCapture
