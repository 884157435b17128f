import LedgerCapture.Node
import LedgerCapture.Proofs.Journal

/-!
What a node has to do with the ledger. It is launched, watched, probed and stopped, and none of that
deploys a contract, sends a call or fetches a receipt.
-/
namespace LedgerCapture

theorem Event.isSilent_probe (answer : Except GatewayError LookupCommand.probe.Reply) :
    (Event.lookup .probe answer).isSilent = true :=
  rfl

namespace Node

theorem start_silent (settings : Config.Node) : Run.Adds Event.isSilent (start settings) := by
  unfold start
  split
  · apply Run.Adds.bind (World.exchange_adds fun _ => rfl)
    intro launched
    split
    · exact Run.Adds.pure _
    · exact Run.Adds.throw _
  · exact Run.Adds.pure _

theorem checkAlive_adds {kind : Event → Bool} (node : Node) (checked : ∀ status, kind (.checked status) = true) :
    Run.Adds kind node.checkAlive := by
  unfold checkAlive
  split
  · apply Run.Adds.bind (World.exchange_adds checked)
    intro status
    split
    · exact Run.Adds.pure _
    · exact Run.Adds.throw _
    · exact Run.Adds.throw _
  · exact Run.Adds.pure _

theorem probe_silent (node : Node) (gateway : Gateway) (readiness : Config.Readiness) (left : Nat)
    (lastError : String) : Run.Adds Event.isSilent (node.probe gateway readiness left lastError) := by
  induction left generalizing lastError with
  | zero => exact Run.Adds.fail _
  | succ left ih =>
    apply Run.Adds.bind (node.checkAlive_adds fun _ => rfl)
    intro _
    apply Run.Adds.bind (Gateway.ask_adds Event.isSilent_of_isCarrier Event.isSilent_probe).attempt
    intro answer
    cases answer with
    | ok value => exact Run.Adds.pure _
    | error fault =>
      dsimp only
      split
      · exact Run.Adds.bind (World.pause_adds rfl) fun _ => ih _
      · exact ih _

theorem waitReady_silent (node : Node) (gateway : Gateway) (readiness : Config.Readiness) :
    Run.Adds Event.isSilent (node.waitReady gateway readiness) :=
  node.probe_silent gateway readiness _ _

theorem kill_adds {kind : Event → Bool} (killed : ∀ result, kind (.killed result) = true) :
    Run.Adds kind kill := by
  apply Run.Adds.bind (World.exchange_adds killed)
  intro result
  split
  · exact Run.Adds.pure _
  · exact Run.Adds.throw _

/-- Stopping a node is three kinds of exchanges at most. -/
theorem shutdown_adds {kind : Event → Bool} (node : Node) (checked : ∀ status, kind (.checked status) = true)
    (terminated : ∀ result, kind (.terminated result) = true)
    (killed : ∀ result, kind (.killed result) = true) : Run.Adds kind node.shutdown := by
  unfold shutdown
  split
  · apply Run.Adds.bind (World.exchange_adds checked)
    intro status
    split
    · exact Run.Adds.pure _
    · exact Run.Adds.throw _
    · apply Run.Adds.bind (World.exchange_adds terminated)
      intro ended
      split
      · exact Run.Adds.pure _
      · exact Run.Adds.throw _
      · exact kill_adds killed
  · exact Run.Adds.pure _

theorem shutdown_silent (node : Node) : Run.Adds Event.isSilent node.shutdown :=
  node.shutdown_adds (fun _ => rfl) (fun _ => rfl) fun _ => rfl

end Node

end LedgerCapture
