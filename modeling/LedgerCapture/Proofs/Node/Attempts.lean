import LedgerCapture.Proofs.Engine.Supervision
import LedgerCapture.Proofs.Failure
import LedgerCapture.Rehearsal.Ledger
import LedgerCapture.Rehearsal.Outside

/-!
The wait for a node, attempt by attempt. In each attempt a node that was launched is looked at, and if it runs the
ledger is probed. The first attempt that shows the end of the node, or whose probe succeeds, decides the wait; if
there is none, all attempts are made. The journal tells the attempts, with a pause between any two.
-/
namespace LedgerCapture

def NodeStatus.end? : NodeStatus → Option String
  | running => none
  | exited status => some status
  | unknown reason => some reason

theorem Event.isProbe_of_isCarrier (event : Event) (carrier : event.isCarrier) : event.isProbe = false := by
  cases event <;> first | rfl | simp [isCarrier] at carrier

namespace Journal

def probeCount (journal : Journal) : Nat :=
  journal.countP Event.isProbe

@[simp] theorem probeCount_append (journal more : Journal) :
    probeCount (journal ++ more) = probeCount journal + probeCount more :=
  List.countP_append

theorem probeCount_steps (journal : Journal) : probeCount (steps journal) = probeCount journal := by
  rw [probeCount, probeCount, steps, List.countP_filter]
  refine List.countP_congr fun event _ => ?_
  cases carrier : event.isCarrier with
  | true => simp [event.isProbe_of_isCarrier carrier]
  | false => simp

end Journal

namespace Node

/-- Attempts one after the other, with a pause between any two. -/
def paced (interval : UInt64) (rounds : List Journal) : Journal :=
  [.slept interval].intercalate rounds

@[simp] theorem paced_single (interval : UInt64) (round : Journal) : paced interval [round] = round := by
  simp [paced]

theorem paced_cons {interval : UInt64} {round : Journal} {rounds : List Journal} (more : rounds ≠ []) :
    paced interval (round :: rounds) = round ++ [.slept interval] ++ paced interval rounds := by
  rw [paced, List.intercalate_cons_of_ne_nil more]
  rfl

/-- Pauses are no probes. -/
theorem probeCount_paced (interval : UInt64) (rounds : List Journal) :
    Journal.probeCount (paced interval rounds) = Journal.probeCount rounds.flatten := by
  induction rounds with
  | nil => rfl
  | cons round rest ih =>
    rcases eq_or_ne rest [] with rfl | more
    · simp
    · have pause : Journal.probeCount [.slept interval] = 0 := rfl
      rw [paced_cons more, Journal.probeCount_append, Journal.probeCount_append, pause, ih, List.flatten_cons,
        Journal.probeCount_append, Nat.add_zero]

variable (node : Node)

/-- What shows of a node that runs: it is looked at only if it was launched. -/
def look : Journal :=
  if node.owned then [.checked .running] else []

def refusal (fault : GatewayError) : Journal :=
  node.look ++ [.lookup .probe (.error fault)]

@[simp] theorem probeCount_look : Journal.probeCount node.look = 0 := by
  unfold look
  split <;> rfl

@[simp] theorem probeCount_refusal (fault : GatewayError) : Journal.probeCount (node.refusal fault) = 1 := by
  rw [refusal, Journal.probeCount_append, probeCount_look]
  rfl

theorem probeCount_refusals (faults : List GatewayError) :
    Journal.probeCount (faults.map node.refusal).flatten = faults.length := by
  induction faults with
  | nil => rfl
  | cons fault rest ih =>
    rw [List.map_cons, List.flatten_cons, Journal.probeCount_append, ih, probeCount_refusal, List.length_cons,
      Nat.add_comm]

/-- How a wait of so many attempts is decided: the number of probes, the attempts, and the result. The faults are
those of the attempts before the one that decides, which has their number plus one. -/
inductive Decision (attempts : Nat) : Nat → List Journal → Except NodeError Unit → Prop where
  | ended {faults : List GatewayError} {status : NodeStatus} {reason : String} (early : faults.length < attempts)
      (owned : node.owned = true) (seen : status.end? = some reason) :
      Decision attempts faults.length (faults.map node.refusal ++ [[.checked status]]) (.error (.exited reason))
  | ready {faults : List GatewayError} (early : faults.length < attempts) :
      Decision attempts (faults.length + 1)
        (faults.map node.refusal ++ [node.look ++ [.lookup .probe (.ok ())]]) (.ok ())
  | exhausted {faults : List GatewayError} {last : GatewayError} (all : faults.length + 1 = attempts) :
      Decision attempts attempts (faults.map node.refusal ++ [node.refusal last])
        (.error (.notReady attempts last.message))

section

variable {node : Node} {attempts probes : Nat} {rounds : List Journal} {result : Except NodeError Unit}

theorem Decision.probeCount_eq (decision : node.Decision attempts probes rounds result) (interval : UInt64) :
    Journal.probeCount (paced interval rounds) = probes := by
  rw [probeCount_paced]
  cases decision with
  | ended early owned seen =>
    have looking (status : NodeStatus) : Journal.probeCount [.checked status] = 0 := rfl
    rw [List.flatten_append, Journal.probeCount_append, probeCount_refusals, List.flatten_singleton, looking,
      Nat.add_zero]
  | ready early =>
    have probing : Journal.probeCount [.lookup .probe (.ok ())] = 1 := rfl
    rw [List.flatten_append, Journal.probeCount_append, probeCount_refusals, List.flatten_singleton,
      Journal.probeCount_append, probeCount_look, probing]
  | exhausted all =>
    rw [List.flatten_append, Journal.probeCount_append, probeCount_refusals, List.flatten_singleton,
      probeCount_refusal, all]

theorem Decision.probeCount_since {interval : UInt64} {world after : World}
    (decision : node.Decision attempts probes rounds result) (leads : world.Leads (paced interval rounds) after) :
    Journal.probeCount (world.since after) = probes := by
  rw [← Journal.probeCount_steps, leads.steps_since]
  exact decision.probeCount_eq interval

end

/-- A look at the node goes on, or it is the end of the wait. -/
theorem checkAlive_decides (outside : Outside) (world : World) :
    (∃ looked, node.checkAlive outside world = (.ok (), looked) ∧ world.Leads node.look looked) ∨
    ∃ status reason, node.owned = true ∧ status.end? = some reason ∧
      node.checkAlive outside world = (.error (.exited reason), world.record (.checked status)) := by
  unfold checkAlive look status
  cases node.owned with
  | false => exact .inl ⟨world, rfl, .refl world⟩
  | true =>
    rw [if_pos rfl, if_pos rfl]
    cases seen : outside.nodeStatus world.journal with
    | running =>
      rw [Run.bind_of_ok (World.exchange_of seen)]
      exact .inl ⟨_, rfl, .record world rfl⟩
    | exited status =>
      rw [Run.bind_of_ok (World.exchange_of seen)]
      exact .inr ⟨_, status, rfl, rfl, rfl⟩
    | unknown reason =>
      rw [Run.bind_of_ok (World.exchange_of seen)]
      exact .inr ⟨_, reason, rfl, rfl, rfl⟩

variable (gateway : Gateway) (readiness : Config.Readiness) (outside : Outside)

/-- An attempt decides the wait, after any attempts that have failed, or it leaves it to the next one, if there is
one, after a pause. -/
theorem probe_attempt (left : Nat) (lastError : String) (world : World) :
    (∃ round result after, node.probe gateway readiness (left + 1) lastError outside world = (result, after) ∧
      world.Leads round after ∧
      ∀ past : List GatewayError, past.length < readiness.maxAttempts.toNat → ∃ probes,
        node.Decision readiness.maxAttempts.toNat probes (past.map node.refusal ++ [round]) result) ∨
    ∃ fault refused, world.Leads (node.refusal fault) refused ∧
      node.probe gateway readiness (left + 1) lastError outside world =
        node.probe gateway readiness left fault.message outside
          (if left = 0 then refused else refused.record (.slept readiness.pollInterval)) := by
  rcases node.checkAlive_decides outside world with ⟨looked, alive, looks⟩ | ⟨status, reason, owned, seen, gone⟩
  · cases answered : gateway.ask .probe outside looked with
    | mk answer probed =>
      have round := looks.trans (Gateway.ask_leads answered)
      cases answer with
      | ok done =>
        refine .inl ⟨_, .ok (), probed, ?_, round, fun past early => ⟨_, .ready early⟩⟩
        rw [probe, Run.bind_of_ok alive, Run.bind_of_ok (Run.attempt_of answered)]
        rfl
      | error fault =>
        refine .inr ⟨fault, probed, round, ?_⟩
        rw [probe, Run.bind_of_ok alive, Run.bind_of_ok (Run.attempt_of answered)]
        cases left with
        | zero => rfl
        | succ left => rfl
  · refine .inl ⟨[.checked status], .error (.exited reason), _, ?_, .record world rfl,
      fun past early => ⟨_, .ended early owned seen⟩⟩
    rw [probe, Run.bind_of_error gone]

/-- The wait after some attempts that have failed, with at least one attempt left: together these are all. -/
theorem probe_decided (left : Nat) (past : List GatewayError)
    (together : past.length + (left + 1) = readiness.maxAttempts.toNat) (lastError : String) (world : World) :
    ∃ probes rounds result after,
      node.probe gateway readiness (left + 1) lastError outside world = (result, after) ∧
      node.Decision readiness.maxAttempts.toNat probes (past.map node.refusal ++ rounds) result ∧
      world.Leads (paced readiness.pollInterval rounds) after ∧ rounds ≠ [] := by
  induction left generalizing past lastError world with
  | zero =>
    rcases node.probe_attempt gateway readiness outside 0 lastError world with
      ⟨round, result, after, ran, leads, decides⟩ | ⟨fault, refused, leads, ran⟩
    · obtain ⟨probes, decision⟩ := decides past (by omega)
      exact ⟨probes, [round], result, after, ran, decision, by rwa [paced_single], List.cons_ne_nil round []⟩
    · -- The last of all attempts has failed.
      exact ⟨_, [node.refusal fault], _, refused, ran, .exhausted together, by rwa [paced_single], List.cons_ne_nil _ []⟩
  | succ left ih =>
    rcases node.probe_attempt gateway readiness outside (left + 1) lastError world with
      ⟨round, result, after, ran, leads, decides⟩ | ⟨fault, refused, leads, ran⟩
    · obtain ⟨probes, decision⟩ := decides past (by omega)
      exact ⟨probes, [round], result, after, ran, decision, by rwa [paced_single], List.cons_ne_nil round []⟩
    · -- The attempt counts among those that have failed, and after a pause the wait goes on.
      have further : (past ++ [fault]).length + (left + 1) = readiness.maxAttempts.toNat := by
        rw [List.length_append, List.length_singleton]
        omega
      obtain ⟨probes, rounds, result, after, later, decision, leadsLater, some⟩ :=
        ih (past ++ [fault]) further fault.message (refused.record (.slept readiness.pollInterval))
      rw [if_neg (Nat.succ_ne_zero left)] at ran
      rw [List.map_append, List.append_assoc] at decision
      refine ⟨probes, node.refusal fault :: rounds, result, after, ran.trans later, decision, ?_,
        List.cons_ne_nil _ rounds⟩
      rw [paced_cons some]
      exact (leads.trans (.record _ rfl)).trans leadsLater

theorem waitReady_course (positive : 0 < readiness.maxAttempts.toNat) (world : World) :
    ∃ probes rounds result after,
      node.waitReady gateway readiness outside world = (result, after) ∧
      node.Decision readiness.maxAttempts.toNat probes rounds result ∧
      world.Leads (paced readiness.pollInterval rounds) after := by
  obtain ⟨left, some⟩ := Nat.exists_eq_add_one.mpr positive
  obtain ⟨probes, rounds, result, after, waited, decision, leads, -⟩ :=
    node.probe_decided gateway readiness outside left [] (by rw [some, List.length_nil, Nat.zero_add])
      "no probe attempted" world
  rw [← some] at waited
  exact ⟨probes, rounds, result, after, waited, decision, leads⟩

/-- The first attempt that shows the end of the node, or whose probe succeeds, decides the wait for it; without such
an attempt all are made, and the last fault is told. There is no pause but between two attempts, and a node that was
not launched is never said to have exited. -/
theorem waitReady_decided (positive : 0 < readiness.maxAttempts.toNat) (world : World) :
    ∃ probes rounds result after,
      node.waitReady gateway readiness outside world = (result, after) ∧
      node.Decision readiness.maxAttempts.toNat probes rounds result ∧
      world.Leads (paced readiness.pollInterval rounds) after ∧
      Journal.probeCount (world.since after) = probes ∧
      (node.owned = false → ∀ status, result ≠ .error (.exited status)) := by
  obtain ⟨probes, rounds, result, after, waited, decision, leads⟩ :=
    node.waitReady_course gateway readiness outside positive world
  refine ⟨probes, rounds, result, after, waited, decision, leads, decision.probeCount_since leads, ?_⟩
  intro external status exited
  cases decision with
  | ended early owned seen => rw [external] at owned; cases owned
  | ready early => cases exited
  | exhausted all => cases exited

def lateLedger : Gateway :=
  Rehearsal.gateway [("probe", [.error (.http "connection refused"), .ok .null])]

/-- Of three attempts the second is the last. -/
theorem waitReady_of_late_ledger :
    let readiness : Config.Readiness := ⟨10, 3⟩
    let outside := Rehearsal.outside ⟨[], []⟩ "/tmp" []
    let world : World := ⟨⟨[], []⟩, []⟩
    0 < readiness.maxAttempts.toNat ∧ ∃ rounds after,
      external.waitReady lateLedger readiness outside world = (.ok (), after) ∧
      external.Decision 3 2 rounds (.ok ()) ∧ world.Leads (paced 10 rounds) after := by
  intro readiness outside world
  obtain ⟨probes, rounds, result, after, waited, decision, leads, count, -⟩ :=
    external.waitReady_decided lateLedger readiness outside (by decide) world
  have ran : external.waitReady lateLedger readiness outside world = (.ok (), ⟨⟨[], []⟩,
      [.lookup .probe (.error (.http "connection refused")), .slept 10, .lookup .probe (.ok ())]⟩) := rfl
  obtain ⟨rfl, rfl⟩ := Prod.mk.inj (waited.symm.trans ran)
  subst count
  exact ⟨by decide, rounds, _, ran, decision, leads⟩

end Node

end LedgerCapture
