import LedgerCapture.Proofs.Submission.Replay
import LedgerCapture.Rehearsal.Compiler
import LedgerCapture.Rehearsal.Ledger
import LedgerCapture.Rehearsal.Outside

/-!
The account of a replay, command by command: which call each command was sent for and in which moment,
which contract each deployment was made for, and where and why a replay stops.
-/
namespace LedgerCapture

open Journal
open Deployment (Issued)

namespace Replay

variable {replay : Replay} {call : Call} {place : Nat}

/-! ### Single commands -/

/-- The command for the call at `place`, in this place among all commands for calls: it was sent from a
session in which the contract of the call was deployed, to the address that was noted there. -/
def SentAt (replay : Replay) (place : Nat) (sending : Event.Sending) : Prop :=
  ∃ call moment between address artifact, replay.calls[place]? = some call ∧
    replay.Ready place call moment between ∧ between.journal <+: replay.final.journal ∧
    (sendings (replay.world.since between)).length = place ∧
    moment.registry.deployed call.contract = .ok (address, artifact) ∧
    sending.1 = ⟨address, call.method, call.arguments, artifact.interface⟩

/-- The deployment in this place among all deployments: it was made for a call whose contract waited when
the call was reached. -/
def DeployedAt (replay : Replay) (place : Nat) : Prop :=
  ∃ index call before between, replay.calls[index]? = some call ∧ replay.Reached index before between ∧
    before.registry.Waiting call.contract ∧ between.journal <+: replay.final.journal ∧
    (deployments (replay.world.since between)).length = place ∧
    replay.outstanding[place]? = some call.contract

theorem getElem?_extend {there : Call} (call : Call) (present : replay.calls[place]? = some there) :
    (replay.extend call).calls[place]? = some there ∧ place < replay.calls.length := by
  have bound := (List.getElem?_eq_some_iff.mp present).1
  exact ⟨(List.getElem?_append_left bound).trans present, bound⟩

theorem SentAt.extend {sending : Event.Sending} (sent : replay.SentAt place sending)
    (grows : replay.final.journal <+: (replay.extend call).final.journal) :
    (replay.extend call).SentAt place sending := by
  obtain ⟨there, moment, between, address, artifact, present, ready, within, count, known⟩ := sent
  obtain ⟨presentLater, bound⟩ := getElem?_extend call present
  obtain ⟨before, middle, reached, ensured⟩ := ready
  exact ⟨there, moment, between, address, artifact, presentLater,
    ⟨before, middle, reached.extend (Nat.le_of_lt bound), ensured⟩, within.trans grows, count, known⟩

theorem sentAt (replay : Replay) (sound : replay.session.registry.Sound) {place : Nat}
    {sending : Event.Sending} (there : (sendings replay.events)[place]? = some sending) :
    replay.SentAt place sending := by
  induction replay using inductionOn with
  | nil replay =>
    rw [events_nil] at there
    cases there
  | extend replay call ih =>
    obtain ⟨steps, ids, issuing, -⟩ := replay.issuing sound
    cases replay.extended call (replay.after_sound sound) with
    | failed before same =>
      rw [events_of_run same] at there
      exact (ih sound there).extend (grows_of_run same)
    | @went earlier sent result after final before handled ran =>
      have known := replay.finished sound before
      obtain ⟨sendingsEq, grows, -⟩ := replay.extend_events call sound handled ran
      obtain ⟨-, -, finalEq⟩ := parts_of_run ran
      rw [sendingsEq] at there
      by_cases early : place < (sendings replay.events).length
      · rw [List.getElem?_append_left early] at there
        exact (ih sound there).extend (finalEq ▸ grows)
      · -- The only command that is left is the one for the last call.
        rw [List.getElem?_append_right (Nat.le_of_not_lt early)] at there
        rcases handled.sent_cases (replay.after_sound sound) with none | ⟨between, address, artifact,
          answer, later, one, ready, deployed, leads, noSendings, within⟩
        · rw [none] at there
          cases there
        · rw [one, List.getElem?_singleton] at there
          split at there
          · next first =>
            have place_eq : place = replay.calls.length := by
              rw [← known.all]
              omega
            cases there
            subst place_eq
            refine ⟨call, after, between, address, artifact, by simp [extend],
              ⟨replay.after, replay.final, reached_extend call before, ready⟩, finalEq ▸ within, ?_,
              deployed, rfl⟩
            rw [← known.all]
            show (sendings (replay.world.since between)).length = _
            rw [(issuing.leads.trans leads).sendings_since, sendings_append, noSendings, List.append_nil,
              events, issuing.leads.sendings_since]
          · cases there

theorem DeployedAt.extend (deployed : replay.DeployedAt place)
    (grows : replay.final.journal <+: (replay.extend call).final.journal) :
    (replay.extend call).DeployedAt place := by
  obtain ⟨index, there, before, between, present, reached, waiting, within, count, met⟩ := deployed
  obtain ⟨presentLater, bound⟩ := getElem?_extend call present
  refine ⟨index, there, before, between, presentLater, reached.extend (Nat.le_of_lt bound), waiting,
    within.trans grows, count, ?_⟩
  obtain ⟨room, same⟩ := List.getElem?_eq_some_iff.mp met
  rw [outstanding_extend, ← same]
  exact List.prefix_iff_getElem?.mp (Submission.outstanding_prefix ..) place room

theorem deployedAt (replay : Replay) (sound : replay.session.registry.Sound) {place : Nat}
    (bound : place < (deployments replay.events).length) : replay.DeployedAt place := by
  induction replay using inductionOn with
  | nil replay =>
    rw [events_nil] at bound
    cases bound
  | extend replay call ih =>
    obtain ⟨steps, ids, issuing, -⟩ := replay.issuing sound
    cases replay.extended call (replay.after_sound sound) with
    | failed before same =>
      rw [events_of_run same] at bound
      exact (ih sound bound).extend (grows_of_run same)
    | @went earlier sent result after final before handled ran =>
      obtain ⟨-, grows, made, idsLater, deploymentsEq, within, issued⟩ :=
        replay.extend_events call sound handled ran
      obtain ⟨-, -, finalEq⟩ := parts_of_run ran
      rw [deploymentsEq, List.length_append] at bound
      by_cases early : place < (deployments replay.events).length
      · exact (ih sound early).extend (finalEq ▸ grows)
      · -- The only deployment that is left is one for the last call.
        have lengths : idsLater.length = made.length := issued.noted.length_eq
        obtain ⟨whole, one⟩ := Submission.eq_singleton_of_made within issued (by
          rintro rfl
          rw [List.length_nil] at bound
          omega)
        rw [whole, List.length_singleton] at lengths
        rw [before] at issuing
        obtain ⟨rfl, answered⟩ := issuing.finished earlier rfl
        have counted : replay.outstanding.length = (deployments replay.events).length := by
          rw [events, issuing.leads.deployments_since]
          exact issuing.issued.noted.length_eq
        have place_eq : place = (deployments replay.events).length := by omega
        refine ⟨replay.calls.length, call, replay.after, replay.final, by simp [extend],
          reached_extend call before, issued.waiting _ (by simp [whole]), finalEq ▸ grows,
          place_eq.symm, ?_⟩
        rw [outstanding_extend, Submission.outstanding_concat call.contract issuing.issued answered, one,
          place_eq, ← counted]
        exact List.getElem?_concat_length ..

/-! ### Replays that stop -/

structure StoppedAt (replay : Replay) (place : Nat) (call : Call) (before : Session) (between : World)
    (fault : SubmissionError) : Prop where
  there : replay.calls[place]? = some call
  reached : replay.Reached place before between
  /-- The later calls make no difference. -/
  rest : replay.run = (replay.upTo (place + 1)).run
  /-- Either the ledger refused the call, or the call was not sent. -/
  gateway : (∃ request cause, fault = .gateway place call.method cause ∧
      (sendings replay.events)[place]? = some (request, .error cause)) ∨
    (∀ index method cause, fault ≠ .gateway index method cause) ∧
      (sendings replay.events).length = place
  unknown : replay.session.registry.get call.contract = .error (.unknownContract call.contract) →
    fault = .registry (.unknownContract call.contract) ∧ replay.after = before ∧ replay.final = between
  registry : ∀ cause, fault.registryFault? = some cause →
    (cause = .unknownContract call.contract ∧
      replay.session.registry.get call.contract = .error (.unknownContract call.contract)) ∨
    (cause = .notDeployed call.contract ∧ replay.mode = .eager ∧
      replay.session.registry.Waiting call.contract)

theorem StoppedAt.extend {before : Session} {between : World} {fault : SubmissionError} {there : Call}
    (stopped : replay.StoppedAt place there before between fault)
    (same : (replay.extend call).run = replay.run) :
    (replay.extend call).StoppedAt place there before between fault := by
  obtain ⟨present, bound⟩ := getElem?_extend call stopped.there
  obtain ⟨-, afterEq, finalEq⟩ := parts_of_run (same.trans replay.run_eq)
  refine ⟨present, stopped.reached.extend (Nat.le_of_lt bound), ?_, ?_, ?_, stopped.registry⟩
  · rw [same, upTo_extend bound]
    exact stopped.rest
  · rw [events_of_run same]
    exact stopped.gateway
  · rw [afterEq, finalEq]
    exact stopped.unknown

theorem stoppedAt (replay : Replay) (sound : replay.session.registry.Sound) {fault : SubmissionError}
    (failed : replay.result = .error fault) :
    ∃ place call before between, replay.StoppedAt place call before between fault := by
  induction replay using inductionOn with
  | nil replay => cases failed
  | extend replay call ih =>
    obtain ⟨steps, ids, issuing, -⟩ := replay.issuing sound
    cases replay.extended call (replay.after_sound sound) with
    | failed before same =>
      rw [(parts_of_run (same.trans replay.run_eq)).1] at failed
      obtain ⟨place, there, middle, between, stopped⟩ := ih sound failed
      exact ⟨place, there, middle, between, stopped.extend same⟩
    | @went earlier sent result after final before handled ran =>
      have known := replay.finished sound before
      obtain ⟨sendingsEq, -, -⟩ := replay.extend_events call sound handled ran
      obtain ⟨answer, afterEq, finalEq⟩ := parts_of_run ran
      have whole : (replay.extend call).upTo (replay.calls.length + 1) = replay.extend call := by
        have long : (replay.extend call).calls.length = replay.calls.length + 1 := List.length_append
        rw [← long, upTo_length]
      rw [answer] at failed
      cases result with
      | ok handle => cases failed
      | error fault =>
        cases failed
        refine ⟨replay.calls.length, call, replay.after, replay.final, by simp [extend],
          reached_extend call before, by rw [whole], ?_, ?_, ?_⟩
        · rw [sendingsEq, ← known.all]
          rcases handled.gateway_cases with ⟨request, cause, same, one⟩ | ⟨other, none⟩
          · refine .inl ⟨request, cause, same ▸ known.all ▸ rfl, ?_⟩
            rw [one, List.getElem?_concat_length]
          · exact .inr ⟨other, by rw [none, List.append_nil]⟩
        · intro missing
          obtain ⟨same, rfl, rfl⟩ := handled.of_unknown ((issuing.issued.lasts.unknown_iff sound).mpr missing)
          exact ⟨Except.error.inj same, afterEq, finalEq⟩
        · intro cause same
          rcases handled.registryFault same with ⟨rfl, missing⟩ | ⟨rfl, eager, waiting⟩
          · exact .inl ⟨rfl, (issuing.issued.lasts.unknown_iff sound).mp missing⟩
          · exact .inr ⟨rfl, eager, issuing.issued.lasts.waiting sound waiting⟩

/-! ### The account of a replay -/

structure Account (replay : Replay) : Prop where
  grows : replay.final.journal = replay.world.journal ++ replay.events
  /-- The calls that were sent are the first ones, in order. -/
  sent : ∀ place sending, (sendings replay.events)[place]? = some sending → replay.SentAt place sending
  /-- The contracts that were deployed are the first ones of those that have to be, in order. -/
  deployed : ∃ ids, ids <+: replay.outstanding ∧
    Issued replay.session.registry replay.after.registry ids (deployments replay.events)
  onDemand : ∀ place < (deployments replay.events).length, replay.DeployedAt place
  eager : replay.mode = .eager → deployments replay.events = [] ∧ compilations replay.events = []
  ok_iff : (∃ last, replay.result = .ok last) ↔
    (sendings replay.events).length = replay.calls.length ∧
      ∀ sending ∈ sendings replay.events, ∃ message, sending.2 = .ok message
  finished : ∀ last, replay.result = .ok last → replay.Finished last
  stopped : ∀ fault, replay.result = .error fault →
    ∃ place call before between, replay.StoppedAt place call before between fault

theorem deployments_of_eager (sound : replay.session.registry.Sound) (eager : replay.mode = .eager) :
    deployments replay.events = [] ∧ compilations replay.events = [] := by
  obtain ⟨steps, ids, issuing, silent⟩ := replay.issuing sound
  have nothing : replay.outstanding = [] := by
    rw [outstanding, eager]
    rfl
  have none : ids = [] := by
    have within := issuing.within
    rwa [nothing, List.prefix_nil] at within
  have noted := issuing.issued.noted
  rw [none, List.forall₂_nil_left_iff] at noted
  rw [events, issuing.leads.deployments_since, issuing.leads.compilations_since]
  exact ⟨noted, silent eager⟩

/-- If every call was sent and answered, none is left at which the replay could have stopped. -/
theorem ok_of_answered (sound : replay.session.registry.Sound)
    (all : (sendings replay.events).length = replay.calls.length)
    (answered : ∀ sending ∈ sendings replay.events, ∃ message, sending.2 = .ok message) :
    ∃ last, replay.result = .ok last := by
  cases result : replay.result with
  | ok last => exact ⟨last, rfl⟩
  | error fault =>
    obtain ⟨place, call, before, between, stopped⟩ := replay.stoppedAt sound result
    rcases stopped.gateway with ⟨request, cause, -, refused⟩ | ⟨-, count⟩
    · obtain ⟨message, same⟩ := answered _ (List.mem_of_getElem? refused)
      cases same
    · have bound := (List.getElem?_eq_some_iff.mp stopped.there).1
      omega

/-- Whatever the compiler and the ledger answer, a replay sends the first of its calls in order, each to
the contract that the registry has deployed by then, and stops at the first that fails. -/
theorem account_of_reachable (replay : Replay) (reachable : replay.session.registry.Reachable) :
    replay.Account := by
  have sound := reachable.sound
  obtain ⟨steps, ids, issuing, -⟩ := replay.issuing sound
  exact {
    grows := issuing.leads.journal_eq
    sent := fun place sending there => replay.sentAt sound there
    deployed := ⟨ids, issuing.within, by
      rw [events, issuing.leads.deployments_since]
      exact issuing.issued⟩
    onDemand := fun place bound => replay.deployedAt sound bound
    eager := deployments_of_eager sound
    ok_iff := by
      constructor
      · rintro ⟨last, went⟩
        have finished := replay.finished sound went
        exact ⟨finished.all, finished.answered⟩
      · rintro ⟨all, answered⟩
        exact ok_of_answered sound all answered
    finished := fun last went => replay.finished sound went
    stopped := fun fault failed => replay.stoppedAt sound failed }

/-- The first call finds its contract compiled and has it deployed; the second one names no contract. -/
theorem account_of_compiled_contract :
    let known : ContractId := ⟨1⟩
    let other : ContractId := ⟨2⟩
    let artifact : Artifact := ⟨"/Token.sol", "/Token.bin", "/Token.abi"⟩
    let registry := Registry.after [.register ⟨known, "Token.sol"⟩, .markCompiled known artifact]
    let files : Files := ⟨[], []⟩
    let replay : Replay := ⟨Rehearsal.gateway [], .lazy, [⟨known, "mint", ["7"]⟩, ⟨other, "mint", []⟩],
      ⟨registry, .empty (Rehearsal.compiler []) ⟨"/scope", ["scope"]⟩⟩,
      Rehearsal.outside files "/tmp" [], ⟨files, []⟩⟩
    registry.Reachable ∧ replay.Account ∧
      replay.result = .error (.registry (.unknownContract other)) ∧
      (sendings replay.events).length = 1 ∧ (deployments replay.events).length = 1 := by
  refine ⟨⟨_, rfl⟩, account_of_reachable _ ⟨_, rfl⟩, ?_, ?_, ?_⟩
  · decide +kernel
  · decide +kernel
  · decide +kernel

end Replay

end LedgerCapture
