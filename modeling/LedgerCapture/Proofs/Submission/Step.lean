import LedgerCapture.Proofs.Deployment
import LedgerCapture.Proofs.Registry.History
import LedgerCapture.Submission

/-!
One call of a replay: its contract is made ready, and then the call is sent. As for deployments, all that
can come of it is listed once, together with what the journal and the registry get from it.
-/
namespace LedgerCapture

def SubmissionError.registryFault? : SubmissionError → Option RegistryError
  | registry fault => some fault
  | deployment fault => fault.registryFault?
  | gateway _ _ _ => none

namespace Submission

open Journal
open Config (DeploymentMode)
open Deployment (Answered Issued Issuing)

/-- The contracts that the replay has to deploy before it can reach all of `ids`, in the order in which
they are met. -/
def outstanding (mode : DeploymentMode) (registry : Registry) (ids : List ContractId) : List ContractId :=
  match mode with
  | .eager => []
  | .lazy => (ids.filter fun id => !(registry.deployed id).isOk).eraseDups

section Outstanding

variable {mode : DeploymentMode} {registry : Registry} {id : ContractId}

theorem outstanding_singleton_of_deployed {found : Ledger.Address × Artifact} (mode : DeploymentMode)
    (deployed : registry.deployed id = .ok found) : outstanding mode registry [id] = [] := by
  cases mode with
  | eager => rfl
  | «lazy» => simp [outstanding, deployed, Except.isOk, Except.toBool]

theorem outstanding_singleton_of_not_deployed (undeployed : ∀ found, registry.deployed id ≠ .ok found) :
    outstanding .lazy registry [id] = [id] := by
  cases deployed : registry.deployed id with
  | ok found => exact absurd deployed (undeployed found)
  | error fault => simp [outstanding, deployed, Except.isOk, Except.toBool, List.eraseDups_cons]

theorem outstanding_singleton_cases (mode : DeploymentMode) (registry : Registry) (id : ContractId) :
    outstanding mode registry [id] = [] ∨ outstanding mode registry [id] = [id] := by
  cases deployed : registry.deployed id with
  | ok found => exact .inl (outstanding_singleton_of_deployed mode deployed)
  | error fault =>
    cases mode with
    | eager => exact .inl rfl
    | «lazy» => exact .inr (outstanding_singleton_of_not_deployed (by simp [deployed]))

theorem outstanding_prefix (mode : DeploymentMode) (registry : Registry) (ids : List ContractId)
    (id : ContractId) : outstanding mode registry ids <+: outstanding mode registry (ids ++ [id]) := by
  cases mode with
  | eager => exact List.prefix_rfl
  | «lazy» =>
    simp only [outstanding, List.filter_append, List.filter_cons, List.filter_nil]
    split
    · rw [eraseDups_concat]
      split
      · exact List.prefix_rfl
      · exact List.prefix_append ..
    · exact ⟨[], by rw [List.append_nil, List.append_nil]⟩

/-- After all of `ids` there is something left to do for another contract just if it is not deployed by
then. -/
theorem outstanding_concat {before : Registry} {ids : List ContractId} {made : List Event.Deployment}
    (id : ContractId) (issued : Issued before registry (outstanding mode before ids) made)
    (answered : ∀ exchange ∈ made, Answered exchange) :
    outstanding mode before (ids ++ [id]) = outstanding mode before ids ++ outstanding mode registry [id] := by
  cases mode with
  | eager => rfl
  | «lazy» =>
    by_cases early : ∃ found, before.deployed id = .ok found
    · obtain ⟨found, deployed⟩ := early
      rw [outstanding_singleton_of_deployed .lazy (issued.lasts.deployed _ _ deployed)]
      simp [outstanding, deployed, Except.isOk, Except.toBool]
    · have kept : (!(before.deployed id).isOk) = true := by
        cases deployed : before.deployed id with
        | ok found => exact absurd ⟨found, deployed⟩ early
        | error fault => rfl
      have members : id ∈ outstanding .lazy before ids ↔
          id ∈ ids.filter fun id => !(before.deployed id).isOk := List.mem_eraseDups
      have joined : outstanding .lazy before (ids ++ [id]) =
          if id ∈ outstanding .lazy before ids then outstanding .lazy before ids
          else outstanding .lazy before ids ++ [id] := by
        simp only [members]
        simp only [outstanding, List.filter_append, List.filter_cons, List.filter_nil, kept, ↓reduceIte,
          eraseDups_concat]
      rw [joined]
      by_cases met : id ∈ outstanding .lazy before ids
      · obtain ⟨place, there⟩ := List.mem_iff_getElem?.mp met
        obtain ⟨exchange, exchanged, noted⟩ := issued.exchange_at there
        obtain ⟨found, deployed⟩ := noted.deployed (answered exchange (List.mem_of_getElem? exchanged))
        rw [if_pos met, outstanding_singleton_of_deployed .lazy deployed, List.append_nil]
      · rw [if_neg met, outstanding_singleton_of_not_deployed]
        intro found deployed
        rcases issued.complete id found deployed with earlier | member
        · exact early ⟨found, earlier⟩
        · exact met member

/-- For one contract there is at most one deployment. -/
theorem eq_singleton_of_made {after : Registry} {ids : List ContractId} {made : List Event.Deployment}
    (within : ids <+: outstanding mode registry [id]) (issued : Issued registry after ids made)
    (some : made ≠ []) : ids = [id] ∧ outstanding mode registry [id] = [id] := by
  have lengths : ids.length = made.length := issued.noted.length_eq
  have present : 0 < made.length := List.length_pos_iff.mpr some
  rcases outstanding_singleton_cases mode registry id with none | one
  · rw [none, List.prefix_nil] at within
    rw [within, List.length_nil] at lengths
    omega
  · rw [one] at within
    have short := within.length_le
    rw [List.length_singleton] at short
    exact ⟨within.eq_of_length (by rw [List.length_singleton]; omega), one⟩

end Outstanding

variable {gateway : Gateway} {mode : DeploymentMode} {id : ContractId} {index : Nat} {call : Call}
  {session after : Session} {outside : Outside} {world final : World}

/-! ### Making a contract ready -/

inductive Ensured (gateway : Gateway) (mode : DeploymentMode) (id : ContractId) (session : Session)
    (outside : Outside) (world : World) : Except SubmissionError Unit → Session → World → Prop where
  | unknown (missing : session.registry.get id = .error (.unknownContract id)) :
      Ensured gateway mode id session outside world (.error (.registry (.unknownContract id))) session world
  | standing {found : Ledger.Address × Artifact} (deployed : session.registry.deployed id = .ok found) :
      Ensured gateway mode id session outside world (.ok ()) session world
  | withheld (eager : mode = .eager) (waiting : session.registry.Waiting id) :
      Ensured gateway mode id session outside world (.error (.registry (.notDeployed id))) session world
  | failed {fault : DeploymentError} {after : Session} {final : World} (onDemand : mode = .lazy)
      (waiting : session.registry.Waiting id)
      (outcome : Deployment.Outcome gateway id session outside world (.error fault) after final) :
      Ensured gateway mode id session outside world (.error (.deployment fault)) after final
  | deployed {address : Ledger.Address} {after : Session} {final : World} (onDemand : mode = .lazy)
      (waiting : session.registry.Waiting id)
      (outcome : Deployment.Outcome gateway id session outside world (.ok address) after final) :
      Ensured gateway mode id session outside world (.ok ()) after final

theorem ensureDeployed_of_deployed {found : Ledger.Address × Artifact} (gateway : Gateway) (mode : DeploymentMode)
    (outside : Outside) (world : World) (deployed : session.registry.deployed id = .ok found) :
    ensureDeployed gateway mode id session outside world = (.ok (), session, world) := by
  obtain ⟨entry, present, progress⟩ := Registry.deployed_eq_ok_iff.mp deployed
  have consulted : ((Stage.consult (·.get id)).mapError .registry : Stage SubmissionError Registry.Entry)
      session outside world = (.ok entry, session, world) :=
    Stage.mapError_of_ok (by simp only [Stage.consult, present])
  unfold ensureDeployed
  rw [Stage.bind_of_ok consulted, if_pos (Registry.isDeployed_iff.mpr (by rw [progress]))]
  rfl

/-- A contract that waits is left to what the mode says. -/
theorem ensureDeployed_of_waiting (gateway : Gateway) (mode : DeploymentMode) (outside : Outside) (world : World)
    (waiting : session.registry.Waiting id) :
    ensureDeployed gateway mode id session outside world =
      (match mode with
        | .eager => Stage.fail (.registry (.notDeployed id))
        | .lazy => discard ((Deployment.deploy gateway id).mapError .deployment) : Stage SubmissionError Unit)
        session outside world := by
  obtain ⟨entry, found, undeployed⟩ := waiting
  have consulted : ((Stage.consult (·.get id)).mapError .registry : Stage SubmissionError Registry.Entry)
      session outside world = (.ok entry, session, world) :=
    Stage.mapError_of_ok (by simp only [Stage.consult, found])
  have refused : ¬entry.isDeployed = true := fun same => undeployed (Registry.isDeployed_iff.mp same)
  exact (Stage.bind_of_ok consulted).trans (congrFun (congrFun (congrFun (if_neg refused) session) outside) world)

theorem ensureDeployed_ensured (gateway : Gateway) (mode : DeploymentMode) (id : ContractId)
    (outside : Outside) (world : World) (sound : session.registry.Sound) :
    ∃ result after final, ensureDeployed gateway mode id session outside world = (result, after, final) ∧
      Ensured gateway mode id session outside world result after final := by
  cases found : session.registry.get id with
  | error fault =>
    have missing := Registry.get_eq_error found
    subst missing
    refine ⟨_, _, _, Stage.bind_of_error (Stage.mapError_of_error ?_), .unknown found⟩
    simp only [Stage.consult, found]
  | ok entry =>
    by_cases deployed : entry.progress.phase = .deployed
    · obtain ⟨known, there⟩ := (Registry.exists_deployed_iff sound).mpr ⟨entry, found, deployed⟩
      exact ⟨_, _, _, ensureDeployed_of_deployed gateway mode outside world there, .standing there⟩
    · have waiting : session.registry.Waiting id := ⟨entry, found, deployed⟩
      rw [ensureDeployed_of_waiting gateway mode outside world waiting]
      cases mode with
      | eager => exact ⟨_, _, _, rfl, .withheld rfl waiting⟩
      | «lazy» =>
        obtain ⟨result, after, final, ran, outcome⟩ :=
          Deployment.deploy_outcome gateway id outside world sound
        cases result with
        | error fault =>
          exact ⟨_, _, _, Stage.discard_of_error (Stage.mapError_of_error ran), .failed rfl waiting outcome⟩
        | ok address =>
          exact ⟨_, _, _, Stage.discard_of_ok (Stage.mapError_of_ok ran), .deployed rfl waiting outcome⟩

namespace Ensured

variable {result : Except SubmissionError Unit}

theorem issuing (sound : session.registry.Sound)
    (ensured : Ensured gateway mode id session outside world result after final) :
    ∃ steps ids, Issuing session world (outstanding mode session.registry [id]) [] result after final
        steps ids ∧
      (mode = .eager → compilations steps = []) := by
  cases ensured with
  | unknown missing => exact ⟨[], [], .refused .., fun _ => rfl⟩
  | standing deployed =>
    rw [outstanding_singleton_of_deployed mode deployed]
    exact ⟨[], [], .idle .., fun _ => rfl⟩
  | withheld eager waiting => exact ⟨[], [], .refused .., fun _ => rfl⟩
  | failed onDemand waiting outcome =>
    subst onDemand
    rw [outstanding_singleton_of_not_deployed fun _ => waiting.not_deployed]
    obtain ⟨steps, ids, issuing⟩ := outcome.issuing sound
    exact ⟨steps, ids, issuing.stop List.prefix_rfl, fun same => by cases same⟩
  | deployed onDemand waiting outcome =>
    subst onDemand
    rw [outstanding_singleton_of_not_deployed fun _ => waiting.not_deployed]
    obtain ⟨steps, ids, issuing⟩ := outcome.issuing sound
    exact ⟨steps, ids, { issuing with finished := fun _ _ => issuing.finished _ rfl },
      fun same => by cases same⟩

theorem exists_deployed (sound : session.registry.Sound)
    (ensured : Ensured gateway mode id session outside world (.ok ()) after final) :
    ∃ found, after.registry.deployed id = .ok found := by
  cases ensured with
  | standing deployed => exact ⟨_, deployed⟩
  | deployed onDemand waiting outcome =>
    obtain ⟨steps, ids, issuing⟩ := outcome.issuing sound
    obtain ⟨rfl, answered⟩ := issuing.finished _ rfl
    have first : [id][0]? = some id := rfl
    obtain ⟨exchange, made, noted⟩ := issuing.issued.exchange_at first
    exact noted.deployed (answered exchange (List.mem_of_getElem? made))

/-- The registry is at fault only for a contract that it does not have, or in eager mode for one that has
not been deployed. -/
theorem registryFault {fault : SubmissionError} {cause : RegistryError}
    (ensured : Ensured gateway mode id session outside world (.error fault) after final)
    (same : fault.registryFault? = some cause) :
    (cause = .unknownContract id ∧ session.registry.get id = .error (.unknownContract id)) ∨
      (cause = .notDeployed id ∧ mode = .eager ∧ session.registry.Waiting id) := by
  cases ensured with
  | unknown missing => exact .inl ⟨(Option.some.inj same).symm, missing⟩
  | withheld eager waiting => exact .inr ⟨(Option.some.inj same).symm, eager, waiting⟩
  | failed onDemand waiting outcome =>
    rw [SubmissionError.registryFault?, outcome.registryFault_of_waiting waiting] at same
    cases same

theorem not_gateway {fault : SubmissionError}
    (ensured : Ensured gateway mode id session outside world (.error fault) after final) (place : Nat)
    (method : String) (cause : GatewayError) : fault ≠ .gateway place method cause := by
  cases ensured <;> exact nofun

/-- For a contract that is not there nothing is done. -/
theorem of_unknown (missing : session.registry.get id = .error (.unknownContract id))
    (ensured : Ensured gateway mode id session outside world result after final) :
    result = .error (.registry (.unknownContract id)) ∧ after = session ∧ final = world := by
  have absent : ¬session.registry.Waiting id := by
    rintro ⟨entry, found, -⟩
    rw [missing] at found
    cases found
  cases ensured with
  | unknown missing => exact ⟨rfl, rfl, rfl⟩
  | standing deployed =>
    obtain ⟨entry, found, -⟩ := Registry.deployed_eq_ok_iff.mp deployed
    rw [missing] at found
    cases found
  | withheld eager waiting => exact absurd waiting absent
  | failed onDemand waiting outcome => exact absurd waiting absent
  | deployed onDemand waiting outcome => exact absurd waiting absent

end Ensured

/-! ### Sending a call -/

def requestFor (call : Call) (address : Ledger.Address) (artifact : Artifact) : CallRequest :=
  ⟨address, call.method, call.arguments, artifact.interface⟩

inductive Handled (gateway : Gateway) (mode : DeploymentMode) (index : Nat) (call : Call)
    (session : Session) (outside : Outside) (world : World) :
    List Event.Sending → Except SubmissionError LastCall → Session → World → Prop where
  | stopped {fault : SubmissionError} {after : Session} {final : World}
      (ran : ensureDeployed gateway mode call.contract session outside world = (.error fault, after, final))
      (ensured : Ensured gateway mode call.contract session outside world (.error fault) after final) :
      Handled gateway mode index call session outside world [] (.error fault) after final
  | refused {moment : Session} {between final : World} {address : Ledger.Address} {artifact : Artifact}
      {fault : GatewayError}
      (ready : ensureDeployed gateway mode call.contract session outside world = (.ok (), moment, between))
      (ensured : Ensured gateway mode call.contract session outside world (.ok ()) moment between)
      (known : moment.registry.deployed call.contract = .ok (address, artifact))
      (answered : gateway.command (.send (requestFor call address artifact)) outside between =
        (.error fault, final)) :
      Handled gateway mode index call session outside world [(requestFor call address artifact, .error fault)]
        (.error (.gateway index call.method fault)) moment final
  | sent {moment : Session} {between final : World} {address : Ledger.Address} {artifact : Artifact}
      {message : Ledger.MessageHash}
      (ready : ensureDeployed gateway mode call.contract session outside world = (.ok (), moment, between))
      (ensured : Ensured gateway mode call.contract session outside world (.ok ()) moment between)
      (known : moment.registry.deployed call.contract = .ok (address, artifact))
      (answered : gateway.command (.send (requestFor call address artifact)) outside between =
        (.ok message, final)) :
      Handled gateway mode index call session outside world [(requestFor call address artifact, .ok message)]
        (.ok ⟨message, call.contract, address⟩) moment final

/-- Once the contract is ready, what comes of a call is what the ledger answers. -/
theorem send_of_ready {moment : Session} {between : World} {address : Ledger.Address} {artifact : Artifact}
    {answer : Except GatewayError Ledger.MessageHash}
    (ready : ensureDeployed gateway mode call.contract session outside world = (.ok (), moment, between))
    (known : moment.registry.deployed call.contract = .ok (address, artifact))
    (answered : gateway.command (.send (requestFor call address artifact)) outside between = (answer, final)) :
    send gateway mode index call session outside world =
      ((answer.mapError (.gateway index call.method)).map (⟨·, call.contract, address⟩), moment, final) := by
  have consulted : ((Stage.consult (·.deployed call.contract)).mapError .registry :
      Stage SubmissionError (Ledger.Address × Artifact)) moment outside between =
      (.ok (address, artifact), moment, between) :=
    Stage.mapError_of_ok (by simp only [Stage.consult, known])
  unfold send
  rw [Stage.bind_of_ok ready, Stage.bind_of_ok consulted]
  cases answer with
  | error fault => exact Stage.bind_of_error (Stage.ofRun_of (Run.mapError_of_error answered))
  | ok message => exact Stage.bind_of_ok (Stage.ofRun_of (Run.mapError_of_ok answered))

theorem send_handled (gateway : Gateway) (mode : DeploymentMode) (index : Nat) (call : Call)
    (outside : Outside) (world : World) (sound : session.registry.Sound) :
    ∃ sent result after final, send gateway mode index call session outside world = (result, after, final) ∧
      Handled gateway mode index call session outside world sent result after final := by
  obtain ⟨result, moment, between, ran, ensured⟩ :=
    ensureDeployed_ensured gateway mode call.contract outside world sound
  cases result with
  | error fault => exact ⟨_, _, _, _, Stage.bind_of_error ran, .stopped ran ensured⟩
  | ok value =>
    obtain ⟨⟨address, artifact⟩, known⟩ := ensured.exists_deployed sound
    cases answered : gateway.command (.send (requestFor call address artifact)) outside between with
    | mk answer final =>
      cases answer with
      | error fault => exact ⟨_, _, _, _, send_of_ready ran known answered, .refused ran ensured known answered⟩
      | ok message => exact ⟨_, _, _, _, send_of_ready ran known answered, .sent ran ensured known answered⟩

namespace Handled

variable {sent : List Event.Sending} {result : Except SubmissionError LastCall}

/-- The command for a call adds the sending to what making the contract ready has added. -/
theorem issuing_of_answer {α : Type} {moment : Session} {between : World} {asked : CallRequest}
    {answer : Except GatewayError Ledger.MessageHash} {result : Except SubmissionError α}
    (sound : session.registry.Sound)
    (ensured : Ensured gateway mode call.contract session outside world (.ok ()) moment between)
    (answered : gateway.command (.send asked) outside between = (answer, final)) :
    ∃ steps ids, Issuing session world (outstanding mode session.registry [call.contract])
        [(asked, answer)] result moment final steps ids ∧
      (mode = .eager → compilations steps = []) := by
  obtain ⟨steps, ids, issuing, eager⟩ := ensured.issuing sound
  have unchanged : deployments (steps ++ [.wallet (.send asked) answer]) = deployments steps := by
    rw [deployments_append]
    exact List.append_nil _
  refine ⟨_, ids, ⟨issuing.leads.trans (Gateway.command_leads answered), ?_, ?_, issuing.within, ?_, ?_⟩, ?_⟩
  · rw [sendings_append, issuing.sendings_eq]
    rfl
  · rw [receipts_append, issuing.noReceipts]
    rfl
  · rw [unchanged]
    exact issuing.issued
  · intro value same
    rw [unchanged]
    exact issuing.finished () rfl
  · intro same
    rw [compilations_append, eager same]
    rfl

theorem issuing (sound : session.registry.Sound)
    (handled : Handled gateway mode index call session outside world sent result after final) :
    ∃ steps ids, Issuing session world (outstanding mode session.registry [call.contract]) sent result
        after final steps ids ∧
      (mode = .eager → compilations steps = []) := by
  cases handled with
  | stopped ran ensured =>
    obtain ⟨steps, ids, issuing, eager⟩ := ensured.issuing sound
    exact ⟨steps, ids, issuing.stop List.prefix_rfl, eager⟩
  | refused ready ensured known answered => exact issuing_of_answer sound ensured answered
  | sent ready ensured known answered => exact issuing_of_answer sound ensured answered

/-- At most one command is sent for the call, once its contract is ready and before anything else is
sent. -/
theorem sent_cases (sound : session.registry.Sound)
    (handled : Handled gateway mode index call session outside world sent result after final) :
    sent = [] ∨ ∃ between address artifact answer steps, sent = [(requestFor call address artifact, answer)] ∧
      ensureDeployed gateway mode call.contract session outside world = (.ok (), after, between) ∧
      after.registry.deployed call.contract = .ok (address, artifact) ∧
      world.Leads steps between ∧ sendings steps = [] ∧ between.journal <+: final.journal := by
  have told : ∀ {moment between address artifact answer},
      Ensured gateway mode call.contract session outside world (.ok ()) moment between →
      gateway.command (.send (requestFor call address artifact)) outside between = (answer, final) →
      ∃ steps, world.Leads steps between ∧ sendings steps = [] ∧ between.journal <+: final.journal := by
    intro moment between address artifact answer ensured answered
    obtain ⟨steps, ids, issuing, -⟩ := ensured.issuing sound
    exact ⟨steps, issuing.leads, issuing.sendings_eq, ⟨_, (Gateway.command_leads answered).journal_eq.symm⟩⟩
  cases handled with
  | stopped ran ensured => exact .inl rfl
  | refused ready ensured known answered =>
    obtain ⟨steps, leads, noSendings, within⟩ := told ensured answered
    exact .inr ⟨_, _, _, _, steps, rfl, ready, known, leads, noSendings, within⟩
  | sent ready ensured known answered =>
    obtain ⟨steps, leads, noSendings, within⟩ := told ensured answered
    exact .inr ⟨_, _, _, _, steps, rfl, ready, known, leads, noSendings, within⟩

theorem gateway_cases {fault : SubmissionError}
    (handled : Handled gateway mode index call session outside world sent (.error fault) after final) :
    (∃ request cause, fault = .gateway index call.method cause ∧ sent = [(request, .error cause)]) ∨
      (∀ place method cause, fault ≠ .gateway place method cause) ∧ sent = [] := by
  cases handled with
  | stopped ran ensured => exact .inr ⟨ensured.not_gateway, rfl⟩
  | refused ready ensured known answered => exact .inl ⟨_, _, rfl, rfl⟩

theorem of_unknown (missing : session.registry.get call.contract = .error (.unknownContract call.contract))
    (handled : Handled gateway mode index call session outside world sent result after final) :
    result = .error (.registry (.unknownContract call.contract)) ∧ after = session ∧ final = world := by
  cases handled with
  | stopped ran ensured =>
    obtain ⟨same, rfl, rfl⟩ := ensured.of_unknown missing
    exact ⟨by rw [Except.error.inj same], rfl, rfl⟩
  | refused ready ensured known answered => cases (ensured.of_unknown missing).1
  | sent ready ensured known answered => cases (ensured.of_unknown missing).1

theorem registryFault {fault : SubmissionError} {cause : RegistryError}
    (handled : Handled gateway mode index call session outside world sent (.error fault) after final)
    (same : fault.registryFault? = some cause) :
    (cause = .unknownContract call.contract ∧
      session.registry.get call.contract = .error (.unknownContract call.contract)) ∨
    (cause = .notDeployed call.contract ∧ mode = .eager ∧ session.registry.Waiting call.contract) := by
  cases handled with
  | stopped ran ensured => exact ensured.registryFault same
  | refused ready ensured known answered => cases same

end Handled

end Submission

end LedgerCapture
