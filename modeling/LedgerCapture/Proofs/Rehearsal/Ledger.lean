import LedgerCapture.Proofs.Engine.Plan
import LedgerCapture.Proofs.Ledger.Identifier
import LedgerCapture.Rehearsal.Ledger

/-!
A ledger that follows a script answers each command by how often it was used. So there is a script for every
plan of a replay: the addresses in the order in which the contracts are deployed, and the messages in their
order.
-/
namespace LedgerCapture.Rehearsal

open Journal
open Config (DeploymentMode)

/-- The uses of a command are counted by any view of the journal that shows just them. -/
theorem useCount_eq_length {α : Type} {name : String} {view : Event → Option α}
    (shows : ∀ event, (commandName? event == some name) = (view event).isSome) (journal : Journal) :
    useCount name journal = (journal.filterMap view).length := by
  rw [useCount, List.length_filterMap_eq_countP, List.countP_eq_length_filter]
  simp only [shows]

theorem useCount_deploy (journal : Journal) : useCount "deploy" journal = (deployments journal).length := by
  refine useCount_eq_length (fun event => ?_) journal
  cases event with
  | wallet command answer => cases command <;> rfl
  | lookup command answer => cases command <;> rfl
  | _ => rfl

theorem useCount_send (journal : Journal) : useCount "send" journal = (sendings journal).length := by
  refine useCount_eq_length (fun event => ?_) journal
  cases event with
  | wallet command answer => cases command <;> rfl
  | lookup command answer => cases command <;> rfl
  | _ => rfl

theorem nextAnswer_of_getElem? {script : LedgerScript} {name : String} {journal : Journal}
    {answers : List (Except GatewayError Json)} {answer : Except GatewayError Json}
    (scripted : script.lookup name = some answers) (there : answers[useCount name journal]? = some answer) :
    nextAnswer script name journal = answer := by
  simp [nextAnswer, scripted, there]

def planScript (plan : Plan) (mode : DeploymentMode) : LedgerScript := [
  ("deploy", (plan.deployedBy mode plan.block.calls).map fun id => .ok (.string (plan.address id).text)),
  ("send", plan.block.calls.mapIdx fun index _ => .ok (.string (plan.message index).text))]

section Planned

variable {plan : Plan} {mode : DeploymentMode} {outside : Outside} {now : World}

theorem perform_deploy {id : ContractId} (request : DeployRequest)
    (next : (plan.deployedBy mode plan.block.calls)[(deployments now.journal).length]? = some id) :
    (wallet (planScript plan mode)).perform (.deploy request) outside now = (.ok (plan.address id), now) := by
  have answered : nextAnswer (planScript plan mode) "deploy" now.journal =
      .ok (.string (plan.address id).text) := by
    refine nextAnswer_of_getElem? rfl ?_
    rw [useCount_deploy, List.getElem?_map, next]
    rfl
  show (nextAnswer (planScript plan mode) "deploy" now.journal >>= addressOf "deploy", now) = _
  rw [answered]
  simp [bind, Except.bind, addressOf, textOf, Ledger.Address.parse_text, Except.mapError]

theorem perform_send {call : Call} (request : CallRequest)
    (next : plan.block.calls[(sendings now.journal).length]? = some call) :
    (wallet (planScript plan mode)).perform (.send request) outside now =
      (.ok (plan.message (sendings now.journal).length), now) := by
  have answered : nextAnswer (planScript plan mode) "send" now.journal =
      .ok (.string (plan.message (sendings now.journal).length).text) := by
    refine nextAnswer_of_getElem? rfl ?_
    rw [useCount_send, List.getElem?_mapIdx, next]
    rfl
  show (nextAnswer (planScript plan mode) "send" now.journal >>= walletReply (.send request), now) = _
  rw [answered]
  rfl

end Planned

end LedgerCapture.Rehearsal
