import LedgerCapture.Session

/-!
Deploying contracts. Every deployment draws a number of its own, so the same code deployed twice gets two
addresses.
-/
namespace LedgerCapture

inductive DeploymentError where
  | registry (fault : RegistryError)
  | artifact (fault : ArtifactError)
  /-- The ledger refused. -/
  | gateway (id : ContractId) (fault : GatewayError)
  deriving DecidableEq, Repr

def DeploymentError.message : DeploymentError → String
  | registry fault => fault.message
  | artifact fault => fault.message
  | gateway id fault => "Deployment of contract " ++ id.text ++ " failed: " ++ fault.message

namespace Deployment

/-- The artifact of an entry. A contract that has none yet is compiled and noted as compiled. -/
def artifactOf (entry : Registry.Entry) : Stage DeploymentError Artifact :=
  match entry.progress.artifact? with
  | some artifact => pure artifact
  | none => do
    let artifact ← (Stage.compile entry.contract.path).mapError .artifact
    (Stage.revise (·.markCompiled entry.id artifact)).mapError .registry
    return artifact

def deploy (gateway : Gateway) (id : ContractId) : Stage DeploymentError Ledger.Address := do
  let entry ← (Stage.consult (·.get id)).mapError .registry
  if entry.isDeployed then Stage.fail (.registry (.alreadyDeployed id))
  else
    let artifact ← artifactOf entry
    let salt ← Stage.ofRun (World.exchange Outside.salt Event.salt)
    let address ← Stage.ofRun ((gateway.command
      (.deploy ⟨artifact.bytecode, artifact.interface, salt⟩)).mapError (.gateway id))
    (Stage.revise (·.markDeployed id address)).mapError .registry
    return address

def deployEach (gateway : Gateway) : List ContractId → Stage DeploymentError Unit
  | [] => pure ()
  | id :: rest => do
    discard (deploy gateway id)
    deployEach gateway rest

def deployAll (gateway : Gateway) : Stage DeploymentError Unit := do
  deployEach gateway (← Stage.consult fun registry => .ok registry.pending)

end Deployment

end LedgerCapture
