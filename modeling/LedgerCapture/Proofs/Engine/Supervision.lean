import LedgerCapture.Proofs.Engine.Work

/-!
A mode and its node. The journal of a mode falls into parts that follow each other: the launch, the wait until the
node answers, the work, and the stop. Whatever the outside answers, a node that was launched is stopped, and
nothing that happens later hides the first failure.
-/
namespace LedgerCapture

theorem World.exchange_of {ε α : Type} {ask : Outside → Journal → α} {event : α → Event} {answer : α}
    {outside : Outside} {world : World} (answered : ask outside world.journal = answer) :
    (World.exchange ask event : Run ε α) outside world = (.ok answer, world.record (event answer)) := by
  rw [← answered]
  rfl

/-! ### The parts -/

/-- Whether an event leaves open if a node gets ready: a look at a node that runs, a pause, or what carries a
probe. -/
def Event.isWaiting : Event → Bool
  | checked .running | slept _ => true
  | event => event.isCarrier

theorem Event.isWaiting_of_isCarrier (event : Event) (carrier : event.isCarrier) : event.isWaiting := by
  cases event <;> first | exact carrier | rfl | simp [isCarrier] at carrier

namespace Node

def launching (settings : Config.Node) : Journal :=
  if settings.launch then [.launched ⟨settings.command, settings.arguments⟩ (.ok ())] else []

/-- The wait for a node and what comes of it, event by event; the text tells what the last probe failed with. The
first probe that succeeds ends the wait, and so does the first look at a node that does not run any more. -/
inductive Waited (attempts : Nat) : String → Journal → Except NodeError Unit → Prop where
  | ready (lastError : String) : Waited attempts lastError [.lookup .probe (.ok ())] (.ok ())
  | ended (lastError status : String) :
    Waited attempts lastError [.checked (.exited status)] (.error (.exited status))
  | unseen (lastError reason : String) :
    Waited attempts lastError [.checked (.unknown reason)] (.error (.exited reason))
  | exhausted (lastError : String) : Waited attempts lastError [] (.error (.notReady attempts lastError))
  | passing {lastError : String} {event : Event} {rest : Journal} {result : Except NodeError Unit}
      (waiting : event.isWaiting = true) (later : Waited attempts lastError rest result) :
    Waited attempts lastError (event :: rest) result
  | refused {lastError : String} {fault : GatewayError} {rest : Journal} {result : Except NodeError Unit}
      (later : Waited attempts fault.message rest result) :
    Waited attempts lastError (.lookup .probe (.error fault) :: rest) result

/-- The stop of a node and what comes of it. Only a node that was launched is stopped: if it has not ended by
itself it is asked to, and if that does not help it is killed. -/
inductive Stopped : Bool → Journal → Except NodeError Unit → Prop where
  | external : Stopped false [] (.ok ())
  | ended (status : String) : Stopped true [.checked (.exited status)] (.ok ())
  | unseen (reason : String) : Stopped true [.checked (.unknown reason)] (.error (.shutdown reason))
  | obeyed : Stopped true [.checked .running, .terminated .stopped] (.ok ())
  | lost (reason : String) :
    Stopped true [.checked .running, .terminated (.failed reason)] (.error (.shutdown reason))
  | killed : Stopped true [.checked .running, .terminated .persisting, .killed (.ok ())] (.ok ())
  | survived (reason : String) : Stopped true
    [.checked .running, .terminated .persisting, .killed (.error reason)] (.error (.shutdown reason))

/-! ### The launch -/

theorem start_cases (settings : Config.Node) (outside : Outside) (world : World) :
    (∃ fault : SystemError, settings.launch = true ∧ start settings outside world =
      (.error (.launch (ProcessStart.line ⟨settings.command, settings.arguments⟩) fault.message),
        world.record (.launched ⟨settings.command, settings.arguments⟩ (.error fault)))) ∨
    ∃ node after, start settings outside world = (.ok node, after) ∧ node.owned = settings.launch ∧
      after.journal = world.journal ++ launching settings := by
  unfold start launching
  cases launches : settings.launch with
  | false => exact .inr ⟨external, world, rfl, rfl, (List.append_nil _).symm⟩
  | true =>
    cases launched : outside.launch world.journal ⟨settings.command, settings.arguments⟩ with
    | error fault =>
      refine .inl ⟨fault, rfl, ?_⟩
      rw [if_pos rfl, Run.bind_of_ok (World.exchange_of launched)]
      rfl
    | ok done =>
      rw [if_pos rfl, Run.bind_of_ok (World.exchange_of launched)]
      exact .inr ⟨_, _, rfl, rfl, rfl⟩

/-! ### The wait -/

end Node

def World.Waits (attempts : Nat) (lastError : String) (world : World) (result : Except NodeError Unit)
    (after : World) : Prop :=
  ∃ events, after.journal = world.journal ++ events ∧ Node.Waited attempts lastError events result

namespace World.Waits

variable {attempts : Nat} {lastError : String} {first second third : World} {result : Except NodeError Unit}

theorem of_record {event : Event} (waited : Node.Waited attempts lastError [event] result) (world : World) :
    World.Waits attempts lastError world result (world.record event) :=
  ⟨[event], rfl, waited⟩

theorem passing (adds : World.Adds Event.isWaiting first second)
    (waits : World.Waits attempts lastError second result third) :
    World.Waits attempts lastError first result third := by
  obtain ⟨before, journal, waiting⟩ := adds
  obtain ⟨events, journalLater, waited⟩ := waits
  refine ⟨before ++ events, by rw [journalLater, journal, List.append_assoc], ?_⟩
  clear journal
  induction before with
  | nil => exact waited
  | cons event rest ih =>
    obtain ⟨waitingFirst, waitingRest⟩ := List.forall_mem_cons.mp waiting
    exact .passing waitingFirst (ih waitingRest)

theorem refused {fault : GatewayError}
    (waits : World.Waits attempts fault.message (first.record (.lookup .probe (.error fault))) result third) :
    World.Waits attempts lastError first result third := by
  obtain ⟨events, journal, waited⟩ := waits
  exact ⟨_ :: events, by rw [journal]; exact List.append_assoc .., .refused waited⟩

end World.Waits

theorem Gateway.ask_probe {gateway : Gateway} {outside : Outside} {world after : World}
    {answer : Except GatewayError Unit} (answered : gateway.ask .probe outside world = (answer, after)) :
    ∃ carried, World.Adds Event.isWaiting world carried ∧ after = carried.record (.lookup .probe answer) := by
  simp only [ask, Prod.mk.injEq] at answered
  obtain ⟨rfl, rfl⟩ := answered
  exact ⟨_, (gateway.lookup.perform_adds .probe outside world).mono Event.isWaiting_of_isCarrier, rfl⟩

namespace Node

theorem checkAlive_cases (node : Node) (outside : Outside) (world : World) :
    (∃ after, node.checkAlive outside world = (.ok (), after) ∧ World.Adds Event.isWaiting world after) ∨
    (∃ status, node.checkAlive outside world =
      (.error (.exited status), world.record (.checked (.exited status)))) ∨
    ∃ reason, node.checkAlive outside world =
      (.error (.exited reason), world.record (.checked (.unknown reason))) := by
  unfold checkAlive status
  cases node.owned with
  | false => exact .inl ⟨world, rfl, .refl world⟩
  | true =>
    rw [if_pos rfl]
    cases seen : outside.nodeStatus world.journal with
    | running =>
      rw [Run.bind_of_ok (World.exchange_of seen)]
      exact .inl ⟨_, rfl, .record world rfl⟩
    | exited status =>
      rw [Run.bind_of_ok (World.exchange_of seen)]
      exact .inr (.inl ⟨status, rfl⟩)
    | unknown reason =>
      rw [Run.bind_of_ok (World.exchange_of seen)]
      exact .inr (.inr ⟨reason, rfl⟩)

/-- Each attempt decides the wait or leaves it to the attempts after it. -/
theorem probe_waits (node : Node) (gateway : Gateway) (readiness : Config.Readiness) (outside : Outside)
    (left : Nat) (lastError : String) (world : World) :
    World.Waits readiness.maxAttempts.toNat lastError world
      (node.probe gateway readiness left lastError outside world).1
      (node.probe gateway readiness left lastError outside world).2 := by
  induction left generalizing lastError world with
  | zero => exact ⟨[], (List.append_nil _).symm, .exhausted lastError⟩
  | succ left ih =>
    unfold probe
    rcases node.checkAlive_cases outside world with ⟨between, alive, looked⟩ | ⟨status, gone⟩ | ⟨reason, gone⟩
    · rw [Run.bind_of_ok alive]
      cases answered : gateway.ask .probe outside between with
      | mk answer probed =>
        obtain ⟨carried, carries, rfl⟩ := Gateway.ask_probe answered
        rw [Run.bind_of_ok (Run.attempt_of answered)]
        refine .passing (looked.trans carries) ?_
        cases answer with
        | ok done => exact .of_record (.ready lastError) carried
        | error fault =>
          dsimp only
          split
          · exact .refused (.passing (.record _ rfl) (ih fault.message _))
          · exact .refused (ih fault.message _)
    · rw [Run.bind_of_error gone]
      exact .of_record (.ended lastError status) world
    · rw [Run.bind_of_error gone]
      exact .of_record (.unseen lastError reason) world

theorem waitReady_waits (node : Node) (gateway : Gateway) (readiness : Config.Readiness) {outside : Outside}
    {world after : World} {result : Except NodeError Unit}
    (waited : node.waitReady gateway readiness outside world = (result, after)) :
    World.Waits readiness.maxAttempts.toNat "no probe attempted" world result after := by
  have waits := node.probe_waits gateway readiness outside readiness.maxAttempts.toNat "no probe attempted" world
  rw [waitReady] at waited
  rwa [waited] at waits

/-! ### The stop -/

theorem kill_of {outside : Outside} {world : World} {killed : Except String Unit}
    (answered : outside.kill world.journal = killed) :
    kill outside world = (killed.mapError .shutdown, world.record (.killed killed)) := by
  rw [kill, Run.bind_of_ok (World.exchange_of answered)]
  cases killed <;> rfl

theorem shutdown_stopped (node : Node) (outside : Outside) (world : World) :
    ∃ stop after stopping, node.shutdown outside world = (stop, after) ∧ after.files = world.files ∧
      after.journal = world.journal ++ stopping ∧ Stopped node.owned stopping stop := by
  unfold shutdown status
  cases owned : node.owned with
  | false => exact ⟨_, world, [], rfl, rfl, (List.append_nil _).symm, .external⟩
  | true =>
    rw [if_pos rfl]
    cases seen : outside.nodeStatus world.journal with
    | exited status =>
      rw [Run.bind_of_ok (World.exchange_of seen)]
      exact ⟨_, _, _, rfl, rfl, rfl, .ended status⟩
    | unknown reason =>
      rw [Run.bind_of_ok (World.exchange_of seen)]
      exact ⟨_, _, _, rfl, rfl, rfl, .unseen reason⟩
    | running =>
      rw [Run.bind_of_ok (World.exchange_of seen)]
      cases asked : outside.terminate (world.record (.checked .running)).journal node.grace with
      | stopped =>
        dsimp only
        rw [Run.bind_of_ok (World.exchange_of asked)]
        exact ⟨_, _, _, rfl, rfl, List.append_assoc .., .obeyed⟩
      | failed reason =>
        dsimp only
        rw [Run.bind_of_ok (World.exchange_of asked)]
        exact ⟨_, _, _, rfl, rfl, List.append_assoc .., .lost reason⟩
      | persisting =>
        dsimp only
        rw [Run.bind_of_ok (World.exchange_of asked)]
        let asking := (world.record (.checked .running)).record (.terminated .persisting)
        cases answered : outside.kill asking.journal with
        | ok done =>
          refine ⟨_, _, _, kill_of answered, rfl, ?_, .killed⟩
          simp [World.record]
        | error reason =>
          refine ⟨_, _, _, kill_of answered, rfl, ?_, .survived reason⟩
          simp [World.record]

end Node

/-! ### The whole -/

namespace Engine

variable {α : Type}

/-- The result of some work after which the node was stopped. The first failure counts. -/
inductive Decided : Except EngineError α → Except NodeError Unit → Except EngineError α → Prop where
  | failed (error : EngineError) (stop : Except NodeError Unit) : Decided (.error error) stop (.error error)
  | unstopped (value : α) (fault : NodeError) : Decided (.ok value) (.error fault) (.error (.node fault))
  | done (value : α) : Decided (.ok value) (.ok ()) (.ok value)

/-- How some work with a node goes. A launch that fails is the end of it. Otherwise the node is waited for; if it
answers, the work is done, without touching the node; and then the node is stopped. -/
inductive Supervised (settings : Config.Node) (work : Run EngineError α) (outside : Outside) (world : World) :
    Except EngineError α × World → Prop where
  | unlaunched {fault : SystemError} (launches : settings.launch = true) :
    Supervised settings work outside world
      (.error (.node (.launch (ProcessStart.line ⟨settings.command, settings.arguments⟩) fault.message)),
        world.record (.launched ⟨settings.command, settings.arguments⟩ (.error fault)))
  | unready {waiting stopping : Journal} {fault : NodeError} {stop : Except NodeError Unit} {final : World}
      (waited : Node.Waited settings.readiness.maxAttempts.toNat "no probe attempted" waiting (.error fault))
      (stopped : Node.Stopped settings.launch stopping stop)
      (journal : final.journal = world.journal ++ Node.launching settings ++ waiting ++ stopping) :
    Supervised settings work outside world (.error (.node fault), final)
  | worked {waiting working stopping : Journal} {worked result : Except EngineError α}
      {stop : Except NodeError Unit} {start finish final : World}
      (waited : Node.Waited settings.readiness.maxAttempts.toNat "no probe attempted" waiting (.ok ()))
      (started : start.journal = world.journal ++ Node.launching settings ++ waiting)
      (ran : work outside start = (worked, finish)) (went : finish.journal = start.journal ++ working)
      (works : ∀ event ∈ working, event.isWork = true) (stopped : Node.Stopped settings.launch stopping stop)
      (ended : final.journal = finish.journal ++ stopping) (untouched : final.files = finish.files)
      (decided : Decided worked stop result) :
    Supervised settings work outside world (result, final)

theorem outcome_decided (worked : Except EngineError α) (stop : Except NodeError Unit) :
    Decided worked stop (outcome worked stop) := by
  cases worked with
  | error error => exact .failed error stop
  | ok value =>
    cases stop with
    | error fault => exact .unstopped value fault
    | ok done => exact .done value

theorem withNode_supervised (engine : Engine) {work : Run EngineError α} (works : Run.Adds Event.isWork work)
    (outside : Outside) (world : World) :
    Supervised engine.config.node work outside world (engine.withNode work outside world) := by
  rcases Node.start_cases engine.config.node outside world with
    ⟨fault, launches, started⟩ | ⟨node, launched, started, owned, journal⟩
  · rw [withNode_of_unlaunched work started]
    exact .unlaunched launches
  cases waiting : node.waitReady engine.gateway engine.config.node.readiness outside launched with
  | mk ready start =>
    obtain ⟨events, waitedFor, waited⟩ := node.waitReady_waits _ _ waiting
    cases ready with
    | error fault =>
      obtain ⟨stop, final, stopping, stopped, -, stoppedFor, how⟩ := node.shutdown_stopped outside start
      rw [withNode_of_unready work started waiting stopped]
      rw [owned] at how
      exact .unready waited how (by rw [stoppedFor, waitedFor, journal])
    | ok done =>
      cases ran : work outside start with
      | mk worked finish =>
        obtain ⟨working, went, ofWork⟩ := works.of_ran ran
        obtain ⟨stop, final, stopping, stopped, untouched, stoppedFor, how⟩ := node.shutdown_stopped outside finish
        rw [withNode_of_ready started waiting ran stopped]
        rw [owned] at how
        exact .worked waited (by rw [waitedFor, journal]) ran went ofWork how stoppedFor untouched
          (outcome_decided worked stop)

/-! ### Making a wallet configuration -/

def Commanded (command : WalletCommand) (world : World) (answer : Except GatewayError command.Reply)
    (after : World) : Prop :=
  ∃ carried, World.Adds Event.isCarrier world carried ∧ after = carried.record (.wallet command answer)

/-- How a wallet configuration is made: the old one is cleared away, the program writes a new one, a key is
generated, and only then a node is needed. The first of these steps that fails is the last. -/
inductive Prepared (engine : Engine) (path : String) (outside : Outside) (world : World) :
    Except EngineError Ledger.Address × World → Prop where
  | uncleared {error : EngineError} {final : World} (stuck : clearPath path outside world = (.error error, final))
      (unspoken : final.journal = world.journal) : Prepared engine path outside world (.error error, final)
  | unconfigured {fault : GatewayError} {cleared final : World}
      (clear : clearPath path outside world = (.ok (), cleared)) (unspoken : cleared.journal = world.journal)
      (configured : Commanded (.initConfig engine.config.gateway.rpcEndpoint) cleared (.error fault) final) :
    Prepared engine path outside world (.error (.gateway fault), final)
  | keyless {fault : GatewayError} {cleared between final : World}
      (clear : clearPath path outside world = (.ok (), cleared)) (unspoken : cleared.journal = world.journal)
      (configured : Commanded (.initConfig engine.config.gateway.rpcEndpoint) cleared (.ok ()) between)
      (keyed : Commanded .generateKey between (.error fault) final) :
    Prepared engine path outside world (.error (.gateway fault), final)
  | prepared {key : String} {cleared between start : World} {ended : Except EngineError Ledger.Address × World}
      (clear : clearPath path outside world = (.ok (), cleared)) (unspoken : cleared.journal = world.journal)
      (configured : Commanded (.initConfig engine.config.gateway.rpcEndpoint) cleared (.ok ()) between)
      (keyed : Commanded .generateKey between (.ok key) start)
      (supervised : Supervised engine.config.node ((engine.gateway.command .createWallet).mapError .gateway)
        outside start ended) :
    Prepared engine path outside world ended

theorem commanded_of_command {gateway : Gateway} {command : WalletCommand} {outside : Outside}
    {world after : World} {answer : Except GatewayError command.Reply}
    (answered : gateway.command command outside world = (answer, after)) : Commanded command world answer after := by
  simp only [Gateway.command, Prod.mk.injEq] at answered
  obtain ⟨rfl, rfl⟩ := answered
  exact ⟨_, gateway.wallet.perform_adds command outside world, rfl⟩

theorem clearPath_journal (path : String) (outside : Outside) (world : World) :
    (clearPath path outside world).2.journal = world.journal := by
  have silent : Run.Adds (fun _ => false) (clearPath path) := by
    have looking : Run.Adds (fun _ => false) (World.now : Run EngineError World) := fun _ world => .refl world
    apply Run.Adds.bind looking
    intro world
    split
    · exact Run.Adds.mapError _ (World.alter_adds _)
    · exact Run.Adds.pure _
  obtain ⟨events, journal, none⟩ := silent outside world
  cases events with
  | nil => rw [journal, List.append_nil]
  | cons event rest => cases none event (List.mem_cons_self ..)

theorem makeConfig_prepared (engine : Engine) (path : String) (outside : Outside) (world : World) :
    Prepared engine path outside world (engine.makeConfig path outside world) := by
  have unspoken := clearPath_journal path outside world
  unfold makeConfig
  cases clear : clearPath path outside world with
  | mk done cleared =>
    rw [clear] at unspoken
    cases done with
    | error error =>
      rw [Run.bind_of_error clear]
      exact .uncleared clear unspoken
    | ok done =>
      rw [Run.bind_of_ok clear]
      cases configured : engine.gateway.command (.initConfig engine.config.gateway.rpcEndpoint) outside cleared with
      | mk answer between =>
        have commanded := commanded_of_command configured
        cases answer with
        | error fault =>
          rw [Run.bind_of_error (Run.mapError_of_error configured)]
          exact .unconfigured clear unspoken commanded
        | ok done =>
          rw [Run.bind_of_ok (Run.mapError_of_ok configured)]
          cases keyed : engine.gateway.command .generateKey outside between with
          | mk answer start =>
            have commandedToo := commanded_of_command keyed
            cases answer with
            | error fault =>
              rw [Run.bind_of_error (Run.discard_of_error (Run.mapError_of_error keyed))]
              exact .keyless clear unspoken commanded commandedToo
            | ok key =>
              rw [Run.bind_of_ok (Run.discard_of_ok (Run.mapError_of_ok keyed))]
              exact .prepared clear unspoken commanded commandedToo
                (engine.withNode_supervised
                  (Run.Adds.mapError _ (engine.gateway.command_replays replaying_work _)) outside start)

/-- Every mode keeps to the protocol of the node, whatever the settings are and whatever comes of the launch, of
looks at the node, of probes, of the work and of the stop. -/
theorem modes_supervised (engine : Engine) (outside : Outside) (world : World) :
    (∀ request, Supervised engine.config.node (engine.captureWork request) outside world
      (engine.capture request outside world)) ∧
    (∀ shard block path, Supervised engine.config.node (engine.writeBlockWork shard block path) outside world
      (engine.writeBlock shard block path outside world)) ∧
    ∀ path, Prepared engine path outside world (engine.makeConfig path outside world) :=
  ⟨fun request => engine.withNode_supervised (engine.captureWork_works request) outside world,
    fun shard block path => engine.withNode_supervised (engine.writeBlockWork_works shard block path) outside world,
    fun path => engine.makeConfig_prepared path outside world⟩

end Engine

end LedgerCapture
