import LedgerCapture.Config.Error
import LedgerCapture.Legacy.Block
import LedgerCapture.Node
import LedgerCapture.Output
import LedgerCapture.Resolution

/-!
Why a run fails, and the broad class that a failure belongs to.
-/
namespace LedgerCapture

inductive EngineError where
  | config (fault : ConfigError)
  | inaccessible (fault : SystemError)
  | gateway (fault : GatewayError)
  | node (fault : NodeError)
  | artifact (fault : ArtifactError)
  | registry (fault : RegistryError)
  | deployment (fault : DeploymentError)
  | submission (fault : SubmissionError)
  | resolve (fault : ResolveError)
  | format (fault : Legacy.FormatError)
  | output (fault : OutputError)
  deriving DecidableEq

inductive ErrorCategory where
  /-- The input is at fault, and nothing has been started yet. -/
  | configuration
  /-- A program, an endpoint or the file system did not do what it should. -/
  | externalProcess
  /-- A contract is not in the state that it should be in. -/
  | state
  /-- The execution of the last call is not to be found. -/
  | resolution
  deriving DecidableEq, Repr

def RegistryError.category : RegistryError → ErrorCategory
  | duplicateContract _ => .configuration
  | _ => .state

def DeploymentError.category : DeploymentError → ErrorCategory
  | registry fault => fault.category
  | artifact _ => .externalProcess
  | gateway _ _ => .externalProcess

def SubmissionError.category : SubmissionError → ErrorCategory
  | registry fault => fault.category
  | deployment fault => fault.category
  | gateway _ _ _ => .externalProcess

def ResolveError.category : ResolveError → ErrorCategory
  | gateway _ => .externalProcess
  | emptyHandle => .resolution
  | receiptNotFound _ _ => .resolution

namespace EngineError

def message : EngineError → String
  | config fault => fault.message
  | inaccessible fault => "IO error: " ++ fault.message
  | gateway fault => fault.message
  | node fault => fault.message
  | artifact fault => fault.message
  | registry fault => fault.message
  | deployment fault => fault.message
  | submission fault => fault.message
  | resolve fault => fault.message
  | format fault => fault.message
  | output fault => fault.message

def category : EngineError → ErrorCategory
  | config _ => .configuration
  | registry fault => fault.category
  | deployment fault => fault.category
  | submission fault => fault.category
  | resolve fault => fault.category
  | inaccessible _ => .externalProcess
  | gateway _ => .externalProcess
  | node _ => .externalProcess
  | artifact _ => .externalProcess
  | format _ => .externalProcess
  | output _ => .externalProcess

end EngineError

end LedgerCapture
