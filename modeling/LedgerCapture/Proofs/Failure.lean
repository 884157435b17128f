import LedgerCapture.Proofs.Journal

/-!
Runs that stop at their first failure. A program or a request belongs to the step that is entered behind it,
so whether its failure matters is told by that step: a node that is still starting is probed until it answers.
-/
namespace LedgerCapture

namespace Event

/-- Whether something goes out: a program is started, or a request is sent. -/
def isOutgoing : Event → Bool
  | process _ _ => true
  | request _ _ => true
  | launched _ _ => true
  | _ => false

/-- Whether an event shows a failure: a program could not be started or did not end with success, a request
was not answered in full with a status of success, or what came back was rejected. -/
def isFailed : Event → Bool
  | process _ (.ok output) => !output.success
  | process _ (.error _) => true
  | request _ (.answered status text) => !(200 ≤ status && status < 300 && text.isOk)
  | request _ .unreachable => true
  | wallet _ answer => !answer.isOk
  | lookup _ answer => !answer.isOk
  | compiled _ _ result => !result.isOk
  | _ => false

def isProbe : Event → Bool
  | lookup .probe _ => true
  | _ => false

def isTidy (event : Event) : Bool :=
  !event.isOutgoing && !event.isFailed

theorem isTidy_iff {event : Event} :
    event.isTidy = true ↔ event.isOutgoing = false ∧ event.isFailed = false := by
  simp [isTidy]

theorem isCarrier_of_not_isOutgoing {event : Event} (quiet : event.isOutgoing = false) :
    event.isCarrier = false := by
  cases event <;> first | rfl | simp [isOutgoing] at quiet

end Event

namespace Journal

def startsInProbe (journal : Journal) : Bool :=
  (steps journal).head?.any Event.isProbe

/-- An event that shows a failure of a command other than a probe, given what was entered after it. -/
def Failure (event : Event) (after : Journal) : Prop :=
  event.isFailed = true ∧ startsInProbe (event :: after) = false

def Quiet (journal : Journal) : Prop :=
  ∀ event ∈ journal, event.isOutgoing = false

/-- Every program and every request has its step. -/
def Complete (journal : Journal) : Prop :=
  ∀ event, journal.getLast? = some event → event.isCarrier = false

theorem Complete.append {first second : Journal} (complete : Complete first)
    (completeLater : Complete second) : Complete (first ++ second) := by
  intro event last
  rw [List.getLast?_append] at last
  cases later : second.getLast? with
  | none =>
    rw [later] at last
    exact complete event last
  | some other =>
    rw [later] at last
    cases last
    exact completeLater event later

/-- The step of an event is found without looking further than the command. -/
theorem startsInProbe_append {event : Event} {after : Journal} (complete : Complete (event :: after))
    (more : Journal) : startsInProbe (event :: after ++ more) = startsInProbe (event :: after) := by
  have some : steps (event :: after) ≠ [] := by
    intro none
    have last := List.getLast_mem (List.cons_ne_nil event after)
    have carrier := List.filter_eq_nil_iff.mp none _ last
    rw [complete _ (List.getLast?_eq_some_getLast (List.cons_ne_nil event after))] at carrier
    exact carrier rfl
  obtain ⟨first, rest, same⟩ := List.exists_cons_of_ne_nil some
  rw [startsInProbe, startsInProbe, steps_append, same]
  rfl

theorem Complete.of_append {before after : Journal} {event : Event}
    (complete : Complete (before ++ event :: after)) : Complete (event :: after) := by
  intro last same
  apply complete
  rw [List.getLast?_append, same]
  rfl

/-- What a run entered, held against its result: nothing goes out behind a failure, and a failure is
answered with one. -/
structure Heeded {ε α : Type} (added : Journal) (result : Except ε α) : Prop where
  complete : Complete added
  heeded : ∀ before event after, added = before ++ event :: after → Failure event after →
    Quiet after ∧ ∃ fault, result = .error fault

namespace Heeded

variable {ε ε' α β : Type} {first second : Journal} {result : Except ε α}

theorem nil (result : Except ε α) : Heeded [] result where
  complete := nofun
  heeded before event after split := by simp at split

/-- Steps that carry no command and show no failure. -/
theorem of_fine (fine : ∀ event ∈ first, event.isCarrier = false ∧ event.isFailed = false)
    (result : Except ε α) : Heeded first result where
  complete event last := (fine event (List.mem_of_getLast? last)).1
  heeded before event after split failure := by
    have member : event ∈ first := by
      rw [split]
      exact List.mem_append_right before (List.mem_cons_self ..)
    exact absurd failure.1 (by simp [(fine event member).2])

theorem of_tidy (tidy : ∀ event ∈ first, event.isTidy = true) (result : Except ε α) : Heeded first result :=
  of_fine (fun event member =>
    (Event.isTidy_iff.mp (tidy event member)).imp_left Event.isCarrier_of_not_isOutgoing) result

/-- Only whether there was a failure matters. -/
theorem congr {result' : Except ε' β} (same : ∀ fault, result = .error fault → ∃ fault, result' = .error fault)
    (before : Heeded first result) : Heeded first result' where
  complete := before.complete
  heeded front event after split failure := by
    obtain ⟨quiet, fault, failed⟩ := before.heeded front event after split failure
    exact ⟨quiet, same fault failed⟩

/-- Where a split of two journals put together falls. -/
theorem split_append {before after : Journal} {event : Event}
    (split : first ++ second = before ++ event :: after) :
    (∃ rest, first = before ++ event :: rest ∧ after = rest ++ second) ∨
      ∃ front, second = front ++ event :: after := by
  rcases List.append_eq_append_iff.mp split with ⟨front, -, later⟩ | ⟨rest, earlier, later⟩
  · exact .inr ⟨front, later⟩
  · cases rest with
    | nil => exact .inr ⟨[], later.symm⟩
    | cons head rest =>
      obtain ⟨rfl, rfl⟩ := List.cons.inj later
      exact .inl ⟨rest, earlier, rfl⟩

/-- A part that went well shows no failure. -/
theorem append {value : α} {result : Except ε' β} (before : Heeded first (.ok value : Except ε α))
    (after : Heeded second result) : Heeded (first ++ second) result where
  complete := before.complete.append after.complete
  heeded front event rest split failure := by
    rcases split_append split with ⟨rest, rfl, rfl⟩ | ⟨front, rfl⟩
    · have inner : Failure event rest :=
        ⟨failure.1, by rw [← startsInProbe_append before.complete.of_append second]; exact failure.2⟩
      obtain ⟨-, fault, failed⟩ := before.heeded front event rest rfl inner
      cases failed
    · exact after.heeded front event rest rfl failure

/-- What only tidies up may follow a failure. -/
theorem append_tidy (before : Heeded first result) (tidy : ∀ event ∈ second, event.isTidy = true) :
    Heeded (first ++ second) result where
  complete := before.complete.append (of_tidy tidy result).complete
  heeded front event rest split failure := by
    rcases split_append split with ⟨rest, rfl, rfl⟩ | ⟨front, rfl⟩
    · have inner : Failure event rest :=
        ⟨failure.1, by rw [← startsInProbe_append before.complete.of_append second]; exact failure.2⟩
      obtain ⟨still, failed⟩ := before.heeded front event rest rfl inner
      refine ⟨fun later member => ?_, failed⟩
      exact (List.mem_append.mp member).elim (still later) fun member =>
        (Event.isTidy_iff.mp (tidy later member)).1
    · exact (of_tidy tidy result).heeded front event rest rfl failure

end Heeded

end Journal

open Journal

/-- A run that stops at its first failure: behind it no program is started and no request is sent any more,
and the run fails. -/
def Run.StopsAtFailure {ε α : Type} (run : Run ε α) : Prop :=
  ∀ outside world, ∃ added, (run outside world).2.journal = world.journal ++ added ∧
    Heeded added (run outside world).1

namespace Run.StopsAtFailure

variable {ε ε' α β : Type}

/-- A run that enters nothing. -/
theorem of_journal_eq {run : Run ε α} (same : ∀ outside world, (run outside world).2.journal = world.journal) :
    run.StopsAtFailure :=
  fun outside world => ⟨[], by simp [same], .nil _⟩

theorem pure (value : α) : (Pure.pure value : Run ε α).StopsAtFailure :=
  of_journal_eq fun _ _ => rfl

theorem fail (fault : ε) : (Run.fail fault : Run ε α).StopsAtFailure :=
  of_journal_eq fun _ _ => rfl

theorem throw (fault : ε) : (MonadExcept.throw fault : Run ε α).StopsAtFailure :=
  of_journal_eq fun _ _ => rfl

theorem lift (result : Except ε α) : (Run.lift result).StopsAtFailure :=
  of_journal_eq fun _ _ => rfl

theorem inspect (read : Files → Except SystemError α) : (World.inspect read).StopsAtFailure :=
  of_journal_eq fun _ _ => rfl

theorem alter (change : Files → Except SystemError Files) : (World.alter change).StopsAtFailure :=
  of_journal_eq fun _ _ => by unfold World.alter; split <;> rfl

/-- The second part matters only for what the first one can come to. -/
theorem bind_of {first : Run ε α} {next : α → Run ε β} (stops : first.StopsAtFailure)
    (stopsNext : ∀ outside world value final, first outside world = (.ok value, final) →
      (next value).StopsAtFailure) : (first >>= next).StopsAtFailure := by
  intro outside world
  obtain ⟨added, journal, heeded⟩ := stops outside world
  cases ran : first outside world with
  | mk result between =>
    rw [ran] at journal heeded
    cases result with
    | error fault =>
      rw [Run.bind_of_error ran]
      exact ⟨added, journal, heeded.congr fun fault same => ⟨fault, by cases same; rfl⟩⟩
    | ok value =>
      rw [Run.bind_of_ok ran]
      obtain ⟨later, journalLater, heededLater⟩ := stopsNext outside world value between ran outside between
      exact ⟨added ++ later, by rw [journalLater, journal, List.append_assoc], heeded.append heededLater⟩

theorem bind {first : Run ε α} {next : α → Run ε β} (stops : first.StopsAtFailure)
    (stopsNext : ∀ value, (next value).StopsAtFailure) : (first >>= next).StopsAtFailure :=
  bind_of stops fun _ _ value _ _ => stopsNext value

theorem discard {run : Run ε α} (stops : run.StopsAtFailure) : (Functor.discard run).StopsAtFailure :=
  bind stops fun _ => pure ()

theorem mapError {run : Run ε α} (change : ε → ε') (stops : run.StopsAtFailure) :
    (run.mapError change).StopsAtFailure := by
  intro outside world
  obtain ⟨added, journal, heeded⟩ := stops outside world
  cases ran : run outside world with
  | mk result final =>
    rw [ran] at journal heeded
    cases result with
    | error fault =>
      rw [Run.mapError_of_error ran]
      exact ⟨added, journal, heeded.congr fun _ _ => ⟨change fault, rfl⟩⟩
    | ok value =>
      rw [Run.mapError_of_ok ran]
      exact ⟨added, journal, heeded.congr fun _ same => by cases same⟩

/-- An exchange that is no command. -/
theorem exchange {ask : Outside → Journal → α} {event : α → Event}
    (step : ∀ answer, (event answer).isCarrier = false) (fine : ∀ answer, (event answer).isFailed = false) :
    (World.exchange ask event : Run ε α).StopsAtFailure :=
  fun outside world => ⟨[event (ask outside world.journal)], rfl,
    .of_fine (by simpa using ⟨step _, fine _⟩) _⟩

end Run.StopsAtFailure

/-! ### Commands -/

/-- A run that only starts programs and sends requests, and gives up with the first of them that fails. -/
def Run.GivesUp {ε α : Type} (run : Run ε α) : Prop :=
  ∀ outside world, ∃ carried, (run outside world).2.journal = world.journal ++ carried ∧
    (∀ event ∈ carried, event.isCarrier = true) ∧
    ∀ before event after, carried = before ++ event :: after → event.isFailed = true →
      after = [] ∧ ∃ fault, (run outside world).1 = .error fault

namespace Run.GivesUp

variable {ε ε' α β : Type}

theorem of_journal_eq {run : Run ε α} (same : ∀ outside world, (run outside world).2.journal = world.journal) :
    run.GivesUp :=
  fun outside world => ⟨[], by simp [same], by simp, fun before event after split => by simp at split⟩

/-- A run that starts one program or sends one request, and fails if that fails. -/
theorem of_single {run : Run ε α} (event : Outside → World → Event)
    (journal : ∀ outside world, (run outside world).2.journal = world.journal ++ [event outside world])
    (carrier : ∀ outside world, (event outside world).isCarrier = true)
    (reported : ∀ outside world, (event outside world).isFailed = true →
      ∃ fault, (run outside world).1 = .error fault) : run.GivesUp := by
  intro outside world
  refine ⟨[event outside world], journal outside world, by simpa using carrier outside world, ?_⟩
  intro before other after split failed
  cases before with
  | nil =>
    obtain ⟨rfl, rfl⟩ := List.cons.inj split
    exact ⟨rfl, reported outside world failed⟩
  | cons head tail => simp at split

theorem pure (value : α) : (Pure.pure value : Run ε α).GivesUp :=
  of_journal_eq fun _ _ => rfl

theorem throw (fault : ε) : (MonadExcept.throw fault : Run ε α).GivesUp :=
  of_journal_eq fun _ _ => rfl

theorem lift (result : Except ε α) : (Run.lift result).GivesUp :=
  of_journal_eq fun _ _ => rfl

theorem bind {first : Run ε α} {next : α → Run ε β} (givesUp : first.GivesUp)
    (givesUpNext : ∀ value, (next value).GivesUp) : (first >>= next).GivesUp := by
  intro outside world
  obtain ⟨carried, journal, carriers, given⟩ := givesUp outside world
  cases ran : first outside world with
  | mk result between =>
    rw [ran] at journal given
    cases result with
    | error fault =>
      rw [Run.bind_of_error ran]
      refine ⟨carried, journal, carriers, fun before event after split failed => ?_⟩
      exact ⟨(given before event after split failed).1, fault, rfl⟩
    | ok value =>
      rw [Run.bind_of_ok ran]
      obtain ⟨later, journalLater, carriersLater, givenLater⟩ := givesUpNext value outside between
      refine ⟨carried ++ later, by rw [journalLater, journal, List.append_assoc], ?_, ?_⟩
      · intro event member
        exact (List.mem_append.mp member).elim (carriers event) (carriersLater event)
      · intro before event after split failed
        rcases Heeded.split_append split with ⟨rest, rfl, rfl⟩ | ⟨front, rfl⟩
        · obtain ⟨-, fault, failed⟩ := given before event rest rfl failed
          cases failed
        · exact givenLater front event after rfl failed

theorem discard {run : Run ε α} (givesUp : run.GivesUp) : (Functor.discard run).GivesUp :=
  bind givesUp fun _ => pure ()

/-- A run whose outcome is entered as a step stops at its first failure, if the step shows one. -/
theorem recorded {run recorded : Run ε α} (givesUp : run.GivesUp) (event : Except ε α → Event)
    (quiet : ∀ answer, (event answer).isOutgoing = false)
    (shows : ∀ answer, (event answer).isFailed = true → ∃ fault, answer = .error fault)
    (same : ∀ outside world, recorded outside world =
      ((run outside world).1, (run outside world).2.record (event (run outside world).1))) :
    recorded.StopsAtFailure := by
  intro outside world
  obtain ⟨carried, journal, carriers, given⟩ := givesUp outside world
  rw [same]
  generalize answered : (run outside world).1 = answer at given ⊢
  refine ⟨carried ++ [event answer], ?_, ?_, ?_⟩
  · simp only [World.record, journal, List.append_assoc]
  · intro last same
    rw [List.getLast?_concat] at same
    cases same
    exact Event.isCarrier_of_not_isOutgoing (quiet answer)
  · intro before other after split failure
    rcases Heeded.split_append split with ⟨rest, rfl, rfl⟩ | ⟨front, later⟩
    · obtain ⟨rfl, failed⟩ := given before other rest rfl failure.1
      refine ⟨?_, failed⟩
      intro later member
      rw [List.nil_append, List.mem_singleton] at member
      rw [member]
      exact quiet answer
    · cases front with
      | nil =>
        obtain ⟨rfl, rfl⟩ := List.cons.inj later
        exact ⟨by simp [Quiet], shows answer failure.1⟩
      | cons head tail => simp at later

end Run.GivesUp

end LedgerCapture
