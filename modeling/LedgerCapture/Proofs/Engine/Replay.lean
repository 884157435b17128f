import LedgerCapture.Engine.Basic
import LedgerCapture.Proofs.Submission.Account

/-!
The deployments and the calls of a capture. In eager mode all contracts are deployed first and the calls
find them deployed; in lazy mode the calls have them deployed. Either way the order is known beforehand.
-/
namespace LedgerCapture

open Journal
open Deployment (Answered Issued Issuing)

def EngineError.registryFault? : EngineError → Option RegistryError
  | config (.duplicateContract id) => some (.duplicateContract id)
  | registry fault => some fault
  | deployment fault => fault.registryFault?
  | submission fault => fault.registryFault?
  | _ => none

/-- The contracts that a capture deploys, unless it fails before: in eager mode all of them as they are
listed, in lazy mode those that are called, each when it is first called. -/
def CaptureRequest.deployOrder (request : CaptureRequest) : List ContractId :=
  match request.mode with
  | .eager => request.block.contracts.map (·.id)
  | .lazy => (request.block.calls.map (·.contract)).eraseDups

namespace Engine

structure Replayed (request : CaptureRequest) (session : Session) (world : World)
    (result : Except EngineError (Option LastCall)) (after : Session) (final : World) (steps : Journal)
    (ids : List ContractId) : Prop where
  issuing : Issuing session world request.deployOrder (sendings steps) result after final steps ids
  handle : ∀ handle, result = .ok (some handle) → ∃ call artifact,
    request.block.calls.getLast? = some call ∧
    (sendings steps).getLast? =
      some (Submission.requestFor call handle.address artifact, .ok handle.message) ∧
    handle.contract = call.contract ∧
    after.registry.deployed call.contract = .ok (handle.address, artifact)
  fault : ∀ error cause, result = .error error → error.registryFault? = some cause →
    ∃ call ∈ request.block.calls, cause = .unknownContract call.contract ∧
      call.contract ∉ request.block.contracts.map (·.id)

theorem outstanding_of_fresh {registry : Registry} {contracts : List Contract}
    (fresh : registry.Fresh contracts) (ids : List ContractId) :
    Submission.outstanding .lazy registry ids = ids.eraseDups := by
  have all : (ids.filter fun id => !(registry.deployed id).isOk) = ids := by
    apply List.filter_eq_self.mpr
    intro id member
    cases deployed : registry.deployed id with
    | ok found => exact absurd deployed (fresh.not_deployed found)
    | error fault => rfl
  rw [Submission.outstanding, all]

/-- What is deployed eagerly does not wait any longer. -/
theorem not_waiting_of_issued {before after : Registry} {made : List Event.Deployment} {id : ContractId}
    {contracts : List Contract} (fresh : before.Fresh contracts)
    (issued : Issued before after (contracts.map (·.id)) made)
    (answered : ∀ exchange ∈ made, Answered exchange) : ¬after.Waiting id := by
  intro waiting
  have member : id ∈ contracts.map (·.id) := by
    rw [← fresh.ids_eq]
    obtain ⟨entry, found, -⟩ := issued.lasts.waiting fresh.sound waiting
    exact (Registry.exists_get_iff fresh.sound).mp ⟨entry, found⟩
  obtain ⟨place, there⟩ := List.mem_iff_getElem?.mp member
  obtain ⟨exchange, exchanged, noted⟩ := issued.exchange_at there
  obtain ⟨found, deployed⟩ := noted.deployed (answered exchange (List.mem_of_getElem? exchanged))
  exact waiting.not_deployed deployed

def replayFrom (engine : Engine) (request : CaptureRequest) (session : Session) (outside : Outside)
    (world : World) : Replay :=
  ⟨engine.gateway, request.mode, request.block.calls, session, outside, world⟩

section Submitted

variable {session between : Session} {world middle : World}

/-- What the calls come to, given what was deployed before them. -/
theorem replayed_of_submitted (engine : Engine) (request : CaptureRequest) (outside : Outside) {ε : Type}
    {before : Journal} {order ids : List ContractId} (sound : session.registry.Sound)
    (issuing : Issuing session world order [] (.ok () : Except ε Unit) between middle before ids)
    (whole : order ++ (engine.replayFrom request between outside middle).outstanding = request.deployOrder)
    (ids_eq : session.registry.ids = request.block.contracts.map (·.id))
    (ready : request.mode = .eager → ∀ id, ¬between.registry.Waiting id) :
    ∃ steps ids, Replayed request session world
      ((engine.replayFrom request between outside middle).result.mapError .submission)
      (engine.replayFrom request between outside middle).after
      (engine.replayFrom request between outside middle).final steps ids := by
  have betweenSound := issuing.issued.lasts.sound sound
  obtain ⟨later, idsLater, issuingLater, -⟩ :=
    (engine.replayFrom request between outside middle).issuing betweenSound
  have joined := issuing.append sound issuingLater
  rw [whole, List.nil_append] at joined
  have sendingsEq : sendings (before ++ later) = sendings later := joined.sendings_eq
  refine ⟨before ++ later, ids ++ idsLater, ?_, ?_, ?_⟩
  · rw [sendingsEq]
    refine joined.congr fun value same => ?_
    cases result : (engine.replayFrom request between outside middle).result with
    | ok last => exact ⟨last, rfl⟩
    | error fault => rw [result] at same; cases same
  · intro handle same
    cases result : (engine.replayFrom request between outside middle).result with
    | error fault => rw [result] at same; cases same
    | ok last =>
      rw [result] at same
      cases same
      have finished := (engine.replayFrom request between outside middle).finished betweenSound result
      obtain ⟨call, artifact, called, sent, contract, deployed⟩ := finished.handle handle rfl
      refine ⟨call, artifact, called, ?_, contract, deployed⟩
      rw [sendingsEq, ← issuingLater.leads.sendings_since]
      exact sent
  · intro error cause same blamed
    cases result : (engine.replayFrom request between outside middle).result with
    | ok last => rw [result] at same; cases same
    | error fault =>
      rw [result] at same
      cases same
      obtain ⟨place, call, _, _, stopped⟩ :=
        (engine.replayFrom request between outside middle).stoppedAt betweenSound result
      have called : call ∈ request.block.calls := List.mem_of_getElem? stopped.there
      rcases stopped.registry cause blamed with ⟨rfl, missing⟩ | ⟨-, eager, waiting⟩
      · refine ⟨call, called, rfl, ?_⟩
        rw [← ids_eq, ← issuing.issued.lasts.ids]
        exact (Registry.get_eq_unknown_iff betweenSound).mp missing
      · exact absurd waiting (ready eager call.contract)

end Submitted

theorem replay_replayed (engine : Engine) (request : CaptureRequest) (session : Session)
    (outside : Outside) (world : World) (fresh : session.registry.Fresh request.block.contracts) :
    ∃ result after final steps ids, engine.replay request session outside world = (result, after, final) ∧
      Replayed request session world result after final steps ids := by
  have submitted : ∀ between middle,
      ((Submission.submit engine.gateway request.mode request.block.calls).mapError .submission :
        Stage EngineError (Option LastCall)) between outside middle =
      ((engine.replayFrom request between outside middle).result.mapError .submission,
        (engine.replayFrom request between outside middle).after,
        (engine.replayFrom request between outside middle).final) := by
    intro between middle
    exact Stage.mapError_of (engine.replayFrom request between outside middle).run_eq
  cases mode : request.mode with
  | «lazy» =>
    have order : request.deployOrder = (engine.replayFrom request session outside world).outstanding := by
      rw [CaptureRequest.deployOrder, mode, Replay.outstanding, replayFrom, mode]
      exact (outstanding_of_fresh fresh _).symm
    have nothing : Issuing session world [] [] (.ok () : Except EngineError Unit) session world [] [] :=
      .idle session world ()
    obtain ⟨steps, ids, replayed⟩ := replayed_of_submitted engine request outside fresh.sound nothing
      order.symm fresh.ids_eq (fun eager => by rw [mode] at eager; cases eager)
    refine ⟨_, _, _, steps, ids, ?_, replayed⟩
    rw [← submitted, replay]
    simp only [mode]
  | eager =>
    have listed : session.registry.pending = request.block.contracts.map (·.id) := fresh.pending_eq
    obtain ⟨result, between, middle, before, ids, ran, issuing, faults⟩ :=
      Deployment.deployAll_issuing engine.gateway outside world fresh.sound
    have order : request.deployOrder = session.registry.pending := by
      rw [CaptureRequest.deployOrder, mode, listed]
    cases result with
    | error fault =>
      refine ⟨.error (.deployment fault), between, middle, before, ids, ?_, ?_, ?_, ?_⟩
      · rw [replay]
        simp only [mode]
        exact Stage.bind_of_error (Stage.mapError_of_error ran)
      · rw [order, issuing.sendings_eq]
        exact issuing.stop List.prefix_rfl
      · intro handle same
        cases same
      · intro error cause same blamed
        cases same
        rw [EngineError.registryFault?, faults fault rfl] at blamed
        cases blamed
    | ok value =>
      obtain ⟨rfl, answered⟩ := issuing.finished value rfl
      have whole : session.registry.pending ++
          (engine.replayFrom request between outside middle).outstanding = request.deployOrder := by
        rw [order, Replay.outstanding, replayFrom, mode]
        exact List.append_nil _
      obtain ⟨steps, ids, replayed⟩ := replayed_of_submitted engine request outside fresh.sound
        issuing whole fresh.ids_eq fun _ id => not_waiting_of_issued fresh (listed ▸ issuing.issued) answered
      refine ⟨_, _, _, steps, ids, ?_, replayed⟩
      rw [← submitted, replay]
      simp only [mode]
      exact Stage.bind_of_ok (Stage.mapError_of_ok ran)

end Engine

end LedgerCapture
