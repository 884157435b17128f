import LedgerCapture.Proofs.Submission.Step

/-!
A whole replay of calls. Each further call goes on from where the calls before it have led, so what a
replay does is told by induction on the calls from the end.
-/
namespace LedgerCapture

open Journal
open Config (DeploymentMode)
open Deployment (Answered Issued Issuing)

namespace Submission

theorem submitFrom_concat (gateway : Gateway) (mode : DeploymentMode) (index : Nat)
    (last : Option LastCall) (calls : List Call) (call : Call) :
    submitFrom gateway mode index last (calls ++ [call]) =
      submitFrom gateway mode index last calls >>= fun _ =>
        some <$> send gateway mode (index + calls.length) call := by
  induction calls generalizing index last with
  | nil =>
    rw [map_eq_pure_bind]
    rfl
  | cons first rest ih =>
    have later : index + (first :: rest).length = index + 1 + rest.length := by
      rw [List.length_cons]
      omega
    rw [later, List.cons_append]
    unfold submitFrom
    rw [bind_assoc]
    congr 1
    funext sent
    exact ih (index + 1) (some sent)

theorem submit_concat (gateway : Gateway) (mode : DeploymentMode) (calls : List Call) (call : Call) :
    submit gateway mode (calls ++ [call]) =
      submit gateway mode calls >>= fun _ => some <$> send gateway mode calls.length call := by
  rw [submit, submitFrom_concat, Nat.zero_add]
  rfl

end Submission

structure Replay where
  gateway : Gateway
  mode : DeploymentMode
  calls : List Call
  session : Session
  outside : Outside
  world : World

namespace Replay

section Running

variable (replay : Replay)

def run : Except SubmissionError (Option LastCall) × Session × World :=
  Submission.submit replay.gateway replay.mode replay.calls replay.session replay.outside replay.world

def result : Except SubmissionError (Option LastCall) :=
  replay.run.1

def after : Session :=
  replay.run.2.1

def final : World :=
  replay.run.2.2

def events : Journal :=
  replay.world.since replay.final

def upTo (count : Nat) : Replay :=
  { replay with calls := replay.calls.take count }

def extend (call : Call) : Replay :=
  { replay with calls := replay.calls ++ [call] }

def outstanding : List ContractId :=
  Submission.outstanding replay.mode replay.session.registry (replay.calls.map (·.contract))

/-- The calls before `place` went well and have led to this session and this world. -/
def Reached (place : Nat) (session : Session) (world : World) : Prop :=
  ∃ last, (replay.upTo place).run = (.ok last, session, world)

/-- The call at `place` is about to be sent from this session and this world. -/
def Ready (place : Nat) (call : Call) (session : Session) (world : World) : Prop :=
  ∃ before between, replay.Reached place before between ∧
    Submission.ensureDeployed replay.gateway replay.mode call.contract before replay.outside between =
      (.ok (), session, world)

end Running

variable {replay : Replay} {call : Call} {place : Nat}

theorem run_eq (replay : Replay) : replay.run = (replay.result, replay.after, replay.final) :=
  rfl

theorem upTo_extend (bound : place ≤ replay.calls.length) :
    (replay.extend call).upTo place = replay.upTo place := by
  simp only [upTo, extend, List.take_append_of_le_length bound]

theorem upTo_length (replay : Replay) : replay.upTo replay.calls.length = replay := by
  simp only [upTo, List.take_length]

theorem Reached.extend {session : Session} {world : World} (bound : place ≤ replay.calls.length)
    (reached : replay.Reached place session world) : (replay.extend call).Reached place session world := by
  unfold Reached at reached ⊢
  rwa [upTo_extend bound]

/-- The induction on the calls from the end. -/
theorem inductionOn {motive : Replay → Prop} (replay : Replay)
    (nil : ∀ replay : Replay, motive { replay with calls := [] })
    (extend : ∀ replay call, motive replay → motive (replay.extend call)) : motive replay := by
  obtain ⟨gateway, mode, calls, session, outside, world⟩ := replay
  induction calls using List.reverseRecOn with
  | nil => exact nil ⟨gateway, mode, [], session, outside, world⟩
  | append_singleton calls call ih => exact extend ⟨gateway, mode, calls, session, outside, world⟩ call ih

inductive Extended (replay : Replay) (call : Call) : Prop where
  | failed {fault : SubmissionError} (before : replay.result = .error fault)
      (same : (replay.extend call).run = replay.run)
  | went {last : Option LastCall} {sent : List Event.Sending} {result : Except SubmissionError LastCall}
      {after : Session} {final : World} (before : replay.result = .ok last)
      (handled : Submission.Handled replay.gateway replay.mode replay.calls.length call replay.after
        replay.outside replay.final sent result after final)
      (ran : (replay.extend call).run = (result.map some, after, final))

theorem extended (replay : Replay) (call : Call) (sound : replay.after.registry.Sound) :
    Extended replay call := by
  have joined : (replay.extend call).run =
      (Submission.submit replay.gateway replay.mode replay.calls >>= fun _ =>
        some <$> Submission.send replay.gateway replay.mode replay.calls.length call)
        replay.session replay.outside replay.world :=
    congrFun (congrFun (congrFun (Submission.submit_concat ..) _) _) _
  cases before : replay.result with
  | error fault =>
    have ran : replay.run = (.error fault, replay.after, replay.final) := by rw [← before, run_eq]
    exact .failed before (joined.trans ((Stage.bind_of_error ran).trans ran.symm))
  | ok last =>
    have ran : replay.run = (.ok last, replay.after, replay.final) := by rw [← before, run_eq]
    obtain ⟨sent, result, after, final, ranNext, handled⟩ :=
      Submission.send_handled replay.gateway replay.mode replay.calls.length call replay.outside
        replay.final sound
    refine .went before handled ?_
    rw [joined, Stage.bind_of_ok ran, map_eq_pure_bind]
    cases result with
    | error fault => exact Stage.bind_of_error ranNext
    | ok handle => exact Stage.bind_of_ok ranNext

/-! ### What is issued -/

theorem parts_of_run {result : Except SubmissionError (Option LastCall)} {after : Session} {final : World}
    (ran : replay.run = (result, after, final)) :
    replay.result = result ∧ replay.after = after ∧ replay.final = final := by
  unfold Replay.result Replay.after Replay.final
  rw [ran]
  exact ⟨rfl, rfl, rfl⟩

theorem outstanding_extend (replay : Replay) (call : Call) :
    (replay.extend call).outstanding = Submission.outstanding replay.mode replay.session.registry
      (replay.calls.map (·.contract) ++ [call.contract]) := by
  simp only [outstanding, extend, List.map_append, List.map_cons, List.map_nil]

theorem issuing (replay : Replay) (sound : replay.session.registry.Sound) :
    ∃ steps ids, Issuing replay.session replay.world replay.outstanding (sendings steps) replay.result
        replay.after replay.final steps ids ∧
      (replay.mode = .eager → compilations steps = []) := by
  induction replay using inductionOn with
  | nil replay =>
    have nothing : outstanding { replay with calls := [] } = [] := by
      unfold outstanding Submission.outstanding
      cases replay.mode <;> rfl
    rw [nothing]
    exact ⟨[], [], .idle .., fun _ => rfl⟩
  | extend replay call ih =>
    obtain ⟨steps, ids, issuing, eager⟩ := ih sound
    rw [outstanding_extend]
    cases replay.extended call (issuing.issued.lasts.sound sound) with
    | failed before same =>
      obtain ⟨result, after, final⟩ := parts_of_run (same.trans replay.run_eq)
      rw [result, after, final, before]
      rw [before] at issuing
      exact ⟨steps, ids, issuing.stop (Submission.outstanding_prefix ..), eager⟩
    | @went last sent result after final before handled ran =>
      rw [before] at issuing
      obtain ⟨later, idsLater, issuingLater, eagerLater⟩ :=
        handled.issuing (issuing.issued.lasts.sound sound)
      obtain ⟨rfl, answered⟩ := issuing.finished last rfl
      have joined := issuing.append sound issuingLater
      obtain ⟨answer, afterEq, finalEq⟩ := parts_of_run ran
      rw [answer, afterEq, finalEq, Submission.outstanding_concat call.contract issuing.issued answered]
      refine ⟨steps ++ later, _, ⟨joined.leads, rfl, joined.noReceipts, joined.within, joined.issued, ?_⟩, ?_⟩
      · intro value same
        cases result with
        | error fault => cases same
        | ok handle => exact joined.finished handle rfl
      · intro same
        rw [compilations_append, eager same, eagerLater same]
        rfl

theorem after_sound (replay : Replay) (sound : replay.session.registry.Sound) :
    replay.after.registry.Sound := by
  obtain ⟨steps, ids, issuing, -⟩ := replay.issuing sound
  exact issuing.issued.lasts.sound sound

theorem reached_extend {last : Option LastCall} (call : Call) (before : replay.result = .ok last) :
    (replay.extend call).Reached replay.calls.length replay.after replay.final := by
  refine Reached.extend (Nat.le_refl _) ⟨last, ?_⟩
  rw [upTo_length, run_eq, before]

/-- What one more call adds, if the calls before it went well. -/
theorem extend_events (replay : Replay) (call : Call) (sound : replay.session.registry.Sound)
    {sent : List Event.Sending} {result : Except SubmissionError LastCall} {after : Session} {final : World}
    (handled : Submission.Handled replay.gateway replay.mode replay.calls.length call replay.after
      replay.outside replay.final sent result after final)
    (ran : (replay.extend call).run = (result.map some, after, final)) :
    sendings (replay.extend call).events = sendings replay.events ++ sent ∧
      replay.final.journal <+: final.journal ∧
      ∃ made ids, deployments (replay.extend call).events = deployments replay.events ++ made ∧
        ids <+: Submission.outstanding replay.mode replay.after.registry [call.contract] ∧
        Issued replay.after.registry after.registry ids made := by
  obtain ⟨steps, ids, issuing, -⟩ := replay.issuing sound
  obtain ⟨later, idsLater, issuingLater, -⟩ := handled.issuing (issuing.issued.lasts.sound sound)
  have leads := issuing.leads.trans issuingLater.leads
  have grown := issuingLater.leads.journal_eq
  have whole : (replay.extend call).events = replay.world.since final := by
    rw [events, (parts_of_run ran).2.2]
    rfl
  refine ⟨?_, ⟨_, grown.symm⟩, deployments later, idsLater, ?_, issuingLater.within, issuingLater.issued⟩
  · calc
      sendings (replay.extend call).events = sendings (steps ++ later) := by
        rw [whole, leads.sendings_since]
      _ = sendings steps ++ sendings later := sendings_append ..
      _ = sendings replay.events ++ sent := by
        rw [issuingLater.sendings_eq, events, issuing.leads.sendings_since]
  · calc
      deployments (replay.extend call).events = deployments (steps ++ later) := by
        rw [whole, leads.deployments_since]
      _ = deployments steps ++ deployments later := deployments_append ..
      _ = deployments replay.events ++ deployments later := by
        rw [events, issuing.leads.deployments_since]

theorem events_nil (replay : Replay) : events { replay with calls := [] } = [] := by
  simp [events, World.since, final, run, Submission.submit, Submission.submitFrom, pure, Stage.pure]

theorem events_of_run (same : (replay.extend call).run = replay.run) :
    (replay.extend call).events = replay.events := by
  unfold events
  rw [(parts_of_run (same.trans replay.run_eq)).2.2]
  rfl

theorem grows_of_run (same : (replay.extend call).run = replay.run) :
    replay.final.journal <+: (replay.extend call).final.journal :=
  ⟨[], by rw [(parts_of_run (same.trans replay.run_eq)).2.2, List.append_nil]⟩

/-! ### Replays that go well -/

structure Finished (replay : Replay) (last : Option LastCall) : Prop where
  all : (sendings replay.events).length = replay.calls.length
  answered : ∀ sending ∈ sendings replay.events, ∃ message, sending.2 = .ok message
  none_iff : last = none ↔ replay.calls = []
  handle : ∀ handle, last = some handle → ∃ call artifact, replay.calls.getLast? = some call ∧
    (sendings replay.events).getLast? =
      some (Submission.requestFor call handle.address artifact, .ok handle.message) ∧
    handle.contract = call.contract ∧
    replay.after.registry.deployed call.contract = .ok (handle.address, artifact)

theorem finished (replay : Replay) (sound : replay.session.registry.Sound) {last : Option LastCall}
    (went : replay.result = .ok last) : replay.Finished last := by
  induction replay using inductionOn generalizing last with
  | nil replay =>
    cases went
    refine ⟨by rw [events_nil]; rfl, ?_, by simp, fun _ same => by cases same⟩
    rw [events_nil]
    simp [sendings]
  | extend replay call ih =>
    cases replay.extended call (replay.after_sound sound) with
    | failed before same =>
      rw [(parts_of_run (same.trans replay.run_eq)).1, before] at went
      cases went
    | @went earlier sent result after final before handled ran =>
      have known := ih sound before
      obtain ⟨sendingsEq, -, -⟩ := replay.extend_events call sound handled ran
      obtain ⟨answer, afterEq, -⟩ := parts_of_run ran
      rw [answer] at went
      cases handled with
      | stopped ran ensured => cases went
      | refused ready ensured deployed answered => cases went
      | @sent _ between _ address artifact message ready ensured deployed answered =>
        cases went
        refine ⟨?_, ?_, by simp [extend], ?_⟩
        · rw [sendingsEq, List.length_append, known.all]
          simp [extend]
        · intro sending member
          rw [sendingsEq] at member
          rcases List.mem_append.mp member with member | member
          · exact known.answered sending member
          · rw [List.mem_singleton.mp member]
            exact ⟨message, rfl⟩
        · rintro handle ⟨⟩
          refine ⟨call, artifact, by simp [extend], ?_, rfl, ?_⟩
          · rw [sendingsEq]
            simp
          · rw [afterEq]
            exact deployed

end Replay

end LedgerCapture
