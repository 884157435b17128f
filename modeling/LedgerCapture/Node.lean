import LedgerCapture.Config.Settings
import LedgerCapture.Gateway.Basic

/-!
The node of a run: one that the run launches, or one that is running already. A launched node is waited
for and stopped again.
-/
namespace LedgerCapture

inductive NodeError where
  | launch (command reason : String)
  /-- It ended while it was waited for. -/
  | exited (status : String)
  | notReady (attempts : Nat) (lastError : String)
  | shutdown (reason : String)
  deriving DecidableEq, Repr

def NodeError.message : NodeError → String
  | launch command reason => "Failed to launch node '" ++ command ++ "': " ++ reason
  | exited status => "Node exited before becoming ready: " ++ status
  | notReady attempts lastError =>
    "Node not ready after " ++ toString attempts ++ " probes: " ++ lastError
  | shutdown reason => "Failed to stop node: " ++ reason

/-- A node: whether the run launched it, and the milliseconds it gets to stop by itself. -/
structure Node where
  owned : Bool
  grace : UInt64
  deriving DecidableEq, Repr

namespace Node

def external : Node := ⟨false, 0⟩

/-- Launches the node, unless one is running already. -/
def start (settings : Config.Node) : Run NodeError Node :=
  if settings.launch then do
    let start : ProcessStart := ⟨settings.command, settings.arguments⟩
    match ← World.exchange (·.launch · start) (.launched start) with
    | .ok () => return ⟨true, settings.shutdownGrace⟩
    | .error fault => throw (.launch start.line fault.message)
  else pure external

def status {ε : Type} : Run ε NodeStatus :=
  World.exchange (·.nodeStatus ·) .checked

def checkAlive (node : Node) : Run NodeError Unit :=
  if node.owned then do
    match ← status with
    | .running => return ()
    | .exited status => throw (.exited status)
    | .unknown reason => throw (.exited reason)
  else pure ()

/-- Probes until one probe succeeds, with a pause between any two. -/
def probe (node : Node) (gateway : Gateway) (readiness : Config.Readiness) :
    Nat → String → Run NodeError Unit
  | 0, lastError => Run.fail (.notReady readiness.maxAttempts.toNat lastError)
  | left + 1, _ => do
    node.checkAlive
    match ← (gateway.ask .probe).attempt with
    | .ok () => return ()
    | .error fault =>
      if left ≠ 0 then World.pause readiness.pollInterval
      node.probe gateway readiness left fault.message

def waitReady (node : Node) (gateway : Gateway) (readiness : Config.Readiness) : Run NodeError Unit :=
  node.probe gateway readiness readiness.maxAttempts.toNat "no probe attempted"

def kill : Run NodeError Unit := do
  match ← World.exchange (·.kill ·) .killed with
  | .ok () => return ()
  | .error reason => throw (.shutdown reason)

/-- Stops a node that the run launched: it is asked first and killed if it does not stop in time. -/
def shutdown (node : Node) : Run NodeError Unit :=
  if node.owned then do
    match ← status with
    | .exited _ => return ()
    | .unknown reason => throw (.shutdown reason)
    | .running =>
      match ← World.exchange (fun outside journal => outside.terminate journal node.grace) .terminated with
      | .stopped => return ()
      | .failed reason => throw (.shutdown reason)
      | .persisting => kill
  else pure ()

end Node

end LedgerCapture
