import LedgerCapture.Deployment

/-!
Replaying calls in order. The first call that fails ends the replay.
-/
namespace LedgerCapture

inductive SubmissionError where
  | registry (fault : RegistryError)
  | deployment (fault : DeploymentError)
  /-- The ledger refused the call at this place of the list. -/
  | gateway (index : Nat) (method : String) (fault : GatewayError)
  deriving DecidableEq, Repr

def SubmissionError.message : SubmissionError → String
  | registry fault => fault.message
  | deployment fault => fault.message
  | gateway index method fault =>
    "Transaction #" ++ toString index ++ " (" ++ method ++ ") failed: " ++ fault.message

structure LastCall where
  message : Ledger.MessageHash
  contract : ContractId
  address : Ledger.Address
  deriving DecidableEq

namespace Submission

open Config (DeploymentMode)

/-- Makes sure that a contract of the registry is deployed. Only lazy deployment can still help. -/
def ensureDeployed (gateway : Gateway) (mode : DeploymentMode) (id : ContractId) :
    Stage SubmissionError Unit := do
  let entry ← (Stage.consult (·.get id)).mapError .registry
  if entry.isDeployed then pure ()
  else
    match mode with
    | .eager => Stage.fail (.registry (.notDeployed id))
    | .lazy => discard ((Deployment.deploy gateway id).mapError .deployment)

def send (gateway : Gateway) (mode : DeploymentMode) (index : Nat) (call : Call) :
    Stage SubmissionError LastCall := do
  ensureDeployed gateway mode call.contract
  let (address, artifact) ← (Stage.consult (·.deployed call.contract)).mapError .registry
  let message ← Stage.ofRun ((gateway.command
    (.send ⟨address, call.method, call.arguments, artifact.interface⟩)).mapError
      (.gateway index call.method))
  return ⟨message, call.contract, address⟩

/-- Sends calls whose first has the given index. -/
def submitFrom (gateway : Gateway) (mode : DeploymentMode) (index : Nat) (last : Option LastCall) :
    List Call → Stage SubmissionError (Option LastCall)
  | [] => pure last
  | call :: rest => do
    let sent ← send gateway mode index call
    submitFrom gateway mode (index + 1) (some sent) rest

def submit (gateway : Gateway) (mode : DeploymentMode) (calls : List Call) :
    Stage SubmissionError (Option LastCall) :=
  submitFrom gateway mode 0 none calls

end Submission

end LedgerCapture
