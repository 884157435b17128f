import LedgerCapture.Session
import Mathlib.Data.List.Basic

/-!
The journal as the account of a run. Programs and requests only carry the exchanges of the run itself,
its steps; what a part of the run does is told by the steps it adds, in order.
-/
namespace LedgerCapture

namespace Event

abbrev Deployment := DeployRequest × Except GatewayError Ledger.Address

abbrev Sending := CallRequest × Except GatewayError Ledger.MessageHash

abbrev Fetching := Ledger.MessageHash × Except GatewayError Ledger.Receipt

def deployment? : Event → Option Deployment
  | wallet (.deploy asked) answer => some (asked, answer)
  | _ => none

def sending? : Event → Option Sending
  | wallet (.send asked) answer => some (asked, answer)
  | _ => none

def receipt? : Event → Option Fetching
  | lookup (.receipt message) answer => some (message, answer)
  | _ => none

def compilation? : Event → Option (String × String × Except String Unit)
  | compiled source output result => some (source, output, result)
  | _ => none

def salt? : Event → Option UInt64
  | salt value => some value
  | _ => none

def isCompiling : Event → Bool
  | compiled _ _ _ => true
  | event => event.isCarrier

/-- Whether an event is neither a deployment nor a sending nor the fetching of a receipt. -/
def isSilent (event : Event) : Bool :=
  event.deployment?.isNone && event.sending?.isNone && event.receipt?.isNone

theorem isSilent_of_isCompiling (event : Event) (compiling : event.isCompiling) : event.isSilent := by
  cases event <;> first | rfl | simp [isCompiling, isCarrier] at compiling

theorem isSilent_of_isCarrier (event : Event) (carrier : event.isCarrier) : event.isSilent := by
  cases event <;> first | rfl | simp [isCarrier] at carrier

end Event

namespace Journal

/-- The exchanges of the run itself. -/
def steps (journal : Journal) : Journal :=
  journal.filter (!·.isCarrier)

def deployments (journal : Journal) : List Event.Deployment :=
  journal.filterMap Event.deployment?

def sendings (journal : Journal) : List Event.Sending :=
  journal.filterMap Event.sending?

def receipts (journal : Journal) : List Event.Fetching :=
  journal.filterMap Event.receipt?

def compilations (journal : Journal) : List (String × String × Except String Unit) :=
  journal.filterMap Event.compilation?

def salts (journal : Journal) : List UInt64 :=
  journal.filterMap Event.salt?

@[simp] theorem steps_append (journal more : Journal) :
    steps (journal ++ more) = steps journal ++ steps more :=
  List.filter_append ..

@[simp] theorem deployments_append (journal more : Journal) :
    deployments (journal ++ more) = deployments journal ++ deployments more :=
  List.filterMap_append ..

@[simp] theorem sendings_append (journal more : Journal) :
    sendings (journal ++ more) = sendings journal ++ sendings more :=
  List.filterMap_append ..

@[simp] theorem receipts_append (journal more : Journal) :
    receipts (journal ++ more) = receipts journal ++ receipts more :=
  List.filterMap_append ..

@[simp] theorem compilations_append (journal more : Journal) :
    compilations (journal ++ more) = compilations journal ++ compilations more :=
  List.filterMap_append ..

@[simp] theorem salts_append (journal more : Journal) :
    salts (journal ++ more) = salts journal ++ salts more :=
  List.filterMap_append ..

/-- A view that shows no carriers needs only the steps. -/
theorem filterMap_steps {α : Type} (view : Event → Option α)
    (blind : ∀ event, event.isCarrier → view event = none) (journal : Journal) :
    (steps journal).filterMap view = journal.filterMap view := by
  induction journal with
  | nil => rfl
  | cons event rest ih =>
    unfold steps at ih ⊢
    cases carrier : event.isCarrier with
    | true => simp [carrier, blind event carrier, ih]
    | false => simp [carrier, List.filterMap_cons, ih]

theorem deployments_steps (journal : Journal) : deployments (steps journal) = deployments journal :=
  filterMap_steps _ (fun event carrier => by cases event <;> simp_all [Event.isCarrier, Event.deployment?]) _

theorem sendings_steps (journal : Journal) : sendings (steps journal) = sendings journal :=
  filterMap_steps _ (fun event carrier => by cases event <;> simp_all [Event.isCarrier, Event.sending?]) _

theorem receipts_steps (journal : Journal) : receipts (steps journal) = receipts journal :=
  filterMap_steps _ (fun event carrier => by cases event <;> simp_all [Event.isCarrier, Event.receipt?]) _

theorem compilations_steps (journal : Journal) : compilations (steps journal) = compilations journal :=
  filterMap_steps _ (fun event carrier => by cases event <;> simp_all [Event.isCarrier, Event.compilation?]) _

theorem salts_steps (journal : Journal) : salts (steps journal) = salts journal :=
  filterMap_steps _ (fun event carrier => by cases event <;> simp_all [Event.isCarrier, Event.salt?]) _

theorem views_of_silent {journal : Journal} (silent : ∀ event ∈ journal, event.isSilent = true) :
    deployments journal = [] ∧ sendings journal = [] ∧ receipts journal = [] := by
  have blind : ∀ event ∈ journal,
      event.deployment? = none ∧ event.sending? = none ∧ event.receipt? = none := by
    intro event member
    have quiet := silent event member
    simp only [Event.isSilent, Bool.and_eq_true, Option.isNone_iff_eq_none] at quiet
    exact ⟨quiet.1.1, quiet.1.2, quiet.2⟩
  refine ⟨List.filterMap_eq_nil_iff.mpr ?_, List.filterMap_eq_nil_iff.mpr ?_,
    List.filterMap_eq_nil_iff.mpr ?_⟩
  · exact fun event member => (blind event member).1
  · exact fun event member => (blind event member).2.1
  · exact fun event member => (blind event member).2.2

/-- Steps of compilations are nothing else. -/
theorem views_of_compiling {journal : Journal} (compiling : ∀ event ∈ journal, event.isCompiling = true) :
    deployments journal = [] ∧ sendings journal = [] ∧ receipts journal = [] :=
  views_of_silent fun event member => event.isSilent_of_isCompiling (compiling event member)

end Journal

/-! ### From one world to a later one -/

def World.since (world after : World) : Journal :=
  after.journal.drop world.journal.length

/-- The journal goes on from one world to another by some steps. -/
def World.Leads (world : World) (steps : Journal) (after : World) : Prop :=
  ∃ events, after.journal = world.journal ++ events ∧ Journal.steps events = steps

namespace World.Leads

variable {first second third : World} {steps more : Journal}

theorem refl (world : World) : world.Leads [] world :=
  ⟨[], by simp, rfl⟩

theorem trans (left : first.Leads steps second) (right : second.Leads more third) :
    first.Leads (steps ++ more) third := by
  obtain ⟨events, journal, rfl⟩ := left
  obtain ⟨later, journalLater, rfl⟩ := right
  exact ⟨events ++ later, by rw [journalLater, journal, List.append_assoc], Journal.steps_append ..⟩

theorem record {event : Event} (world : World) (step : event.isCarrier = false) :
    world.Leads [event] (world.record event) :=
  ⟨[event], rfl, by simp [Journal.steps, step]⟩

/-- Carriers are no steps. -/
theorem of_adds (adds : World.Adds Event.isCarrier first second) : first.Leads [] second := by
  obtain ⟨events, journal, carriers⟩ := adds
  refine ⟨events, journal, List.filter_eq_nil_iff.mpr ?_⟩
  intro event member
  simp [carriers event member]

theorem exists_of_adds {kind : Event → Bool} (adds : World.Adds kind first second) :
    ∃ steps, first.Leads steps second ∧ ∀ event ∈ steps, kind event = true := by
  obtain ⟨events, journal, ofKind⟩ := adds
  refine ⟨Journal.steps events, ⟨events, journal, rfl⟩, ?_⟩
  intro event member
  exact ofKind event (List.mem_of_mem_filter member)

theorem journal_eq (leads : first.Leads steps second) :
    second.journal = first.journal ++ first.since second := by
  obtain ⟨events, journal, -⟩ := leads
  simp [World.since, journal]

theorem steps_since (leads : first.Leads steps second) : Journal.steps (first.since second) = steps := by
  obtain ⟨events, journal, taken⟩ := leads
  simp [World.since, journal, taken]

theorem deployments_since (leads : first.Leads steps second) :
    Journal.deployments (first.since second) = Journal.deployments steps := by
  rw [← leads.steps_since, Journal.deployments_steps]

theorem sendings_since (leads : first.Leads steps second) :
    Journal.sendings (first.since second) = Journal.sendings steps := by
  rw [← leads.steps_since, Journal.sendings_steps]

theorem receipts_since (leads : first.Leads steps second) :
    Journal.receipts (first.since second) = Journal.receipts steps := by
  rw [← leads.steps_since, Journal.receipts_steps]

theorem compilations_since (leads : first.Leads steps second) :
    Journal.compilations (first.since second) = Journal.compilations steps := by
  rw [← leads.steps_since, Journal.compilations_steps]

theorem salts_since (leads : first.Leads steps second) :
    Journal.salts (first.since second) = Journal.salts steps := by
  rw [← leads.steps_since, Journal.salts_steps]

end World.Leads

/-- The journal goes on from one world to another by these deployments, sendings and fetchings, each kind
in its order. -/
def World.Shows (world : World) (deployed : List Event.Deployment) (sent : List Event.Sending)
    (fetched : List Event.Fetching) (after : World) : Prop :=
  ∃ events, after.journal = world.journal ++ events ∧ Journal.deployments events = deployed ∧
    Journal.sendings events = sent ∧ Journal.receipts events = fetched

namespace World.Shows

variable {first second third : World} {deployed deployedLater : List Event.Deployment}
  {sent sentLater : List Event.Sending} {fetched fetchedLater : List Event.Fetching}

theorem of_silent (silent : World.Adds Event.isSilent first second) : first.Shows [] [] [] second := by
  obtain ⟨events, journal, ofKind⟩ := silent
  exact ⟨events, journal, Journal.views_of_silent ofKind⟩

theorem of_leads {steps : Journal} (leads : first.Leads steps second) :
    first.Shows (Journal.deployments steps) (Journal.sendings steps) (Journal.receipts steps) second :=
  ⟨first.since second, leads.journal_eq, leads.deployments_since, leads.sendings_since, leads.receipts_since⟩

theorem trans (left : first.Shows deployed sent fetched second)
    (right : second.Shows deployedLater sentLater fetchedLater third) :
    first.Shows (deployed ++ deployedLater) (sent ++ sentLater) (fetched ++ fetchedLater) third := by
  obtain ⟨events, journal, rfl, rfl, rfl⟩ := left
  obtain ⟨later, journalLater, rfl, rfl, rfl⟩ := right
  exact ⟨events ++ later, by rw [journalLater, journal, List.append_assoc],
    Journal.deployments_append .., Journal.sendings_append .., Journal.receipts_append ..⟩

theorem trans_silent (left : first.Shows deployed sent fetched second)
    (silent : World.Adds Event.isSilent second third) : first.Shows deployed sent fetched third := by
  have joined := left.trans (of_silent silent)
  simp only [List.append_nil] at joined
  exact joined

theorem silent_trans (silent : World.Adds Event.isSilent first second)
    (right : second.Shows deployed sent fetched third) : first.Shows deployed sent fetched third :=
  (of_silent silent).trans right

end World.Shows

/-! ### Exchanges -/

theorem World.Adds.mono {kind kind' : Event → Bool} {world after : World}
    (included : ∀ event, kind event → kind' event) (adds : World.Adds kind world after) :
    World.Adds kind' world after := by
  obtain ⟨events, journal, ofKind⟩ := adds
  exact ⟨events, journal, fun event member => included event (ofKind event member)⟩

theorem Run.Adds.mono {ε α : Type} {kind kind' : Event → Bool} {run : Run ε α}
    (included : ∀ event, kind event → kind' event) (adds : Run.Adds kind run) : Run.Adds kind' run :=
  fun outside world => (adds outside world).mono included

theorem Event.isCompiling_of_isCarrier (event : Event) (carrier : event.isCarrier) : event.isCompiling := by
  cases event <;> simp_all [Event.isCarrier, Event.isCompiling]

section Exchanges

variable {gateway : Gateway} {outside : Outside} {world after : World}

theorem Gateway.command_leads {command : WalletCommand} {answer : Except GatewayError command.Reply}
    (answered : gateway.command command outside world = (answer, after)) :
    world.Leads [.wallet command answer] after := by
  have carried := World.Leads.of_adds (gateway.wallet.perform_adds command outside world)
  simp only [Gateway.command, Prod.mk.injEq] at answered
  obtain ⟨rfl, rfl⟩ := answered
  exact carried.trans (World.Leads.record _ rfl)

theorem Gateway.command_of {command : WalletCommand} {answer : Except GatewayError command.Reply}
    (performed : gateway.wallet.perform command outside world = (answer, after)) :
    gateway.command command outside world = (answer, after.record (.wallet command answer)) := by
  simp only [Gateway.command, performed]

theorem Gateway.ask_leads {command : LookupCommand} {answer : Except GatewayError command.Reply}
    (answered : gateway.ask command outside world = (answer, after)) :
    world.Leads [.lookup command answer] after := by
  have carried := World.Leads.of_adds (gateway.lookup.perform_adds command outside world)
  simp only [Gateway.ask, Prod.mk.injEq] at answered
  obtain ⟨rfl, rfl⟩ := answered
  exact carried.trans (World.Leads.record _ rfl)

theorem Compiler.build_adds (compiler : Compiler) (source output : String) :
    Run.Adds Event.isCompiling (compiler.build source output) := by
  intro outside world
  have carried := compiler.compile_adds source output outside world
  exact (carried.mono Event.isCompiling_of_isCarrier).trans (World.Adds.record _ rfl)

theorem Gateway.command_adds {kind : Event → Bool} (carriers : ∀ event, event.isCarrier → kind event)
    {command : WalletCommand} (ofKind : ∀ answer, kind (.wallet command answer)) :
    Run.Adds kind (gateway.command command) :=
  fun outside world =>
    ((gateway.wallet.perform_adds command outside world).mono carriers).trans (.record _ (ofKind _))

theorem Gateway.ask_adds {kind : Event → Bool} (carriers : ∀ event, event.isCarrier → kind event)
    {command : LookupCommand} (ofKind : ∀ answer, kind (.lookup command answer)) :
    Run.Adds kind (gateway.ask command) :=
  fun outside world =>
    ((gateway.lookup.perform_adds command outside world).mono carriers).trans (.record _ (ofKind _))

theorem Run.Adds.of_ran {ε α : Type} {kind : Event → Bool} {run : Run ε α} {outside : Outside} {world after : World}
    {result : Except ε α} (adds : run.Adds kind) (ran : run outside world = (result, after)) :
    World.Adds kind world after := by
  have added := adds outside world
  rwa [ran] at added

theorem World.exchange_adds {ε α : Type} {kind : Event → Bool} {ask : Outside → Journal → α}
    {event : α → Event} (ofKind : ∀ answer, kind (event answer)) :
    Run.Adds kind (World.exchange ask event : Run ε α) :=
  fun _ world => .record world (ofKind _)

theorem World.pause_adds {ε : Type} {kind : Event → Bool} {milliseconds : UInt64}
    (ofKind : kind (.slept milliseconds) = true) :
    Run.Adds kind (World.pause milliseconds : Run ε Unit) := by
  intro outside world
  show World.Adds kind world (world.record (.slept milliseconds))
  exact .record world ofKind

theorem World.alter_adds {kind : Event → Bool} (change : Files → Except SystemError Files) :
    Run.Adds kind (World.alter change) := by
  intro outside world
  unfold World.alter
  split <;> exact .of_journal_eq rfl

theorem World.inspect_adds {α : Type} {kind : Event → Bool} (read : Files → Except SystemError α) :
    Run.Adds kind (World.inspect read) :=
  fun _ world => .refl world

theorem ArtifactStore.compileNew_adds (store : ArtifactStore) (source key : String) :
    Run.Adds Event.isCompiling (store.compileNew source key) := by
  apply Run.Adds.bind (Run.Adds.mapError _ (World.inspect_adds _))
  intro present
  have rest : Run.Adds Event.isCompiling (do
      (store.compiler.build source (store.directory key)).mapError (.compilation source)
      let names ← (World.inspect (·.list (store.directory key))).mapError .inaccessible
      Run.lift (Artifact.collect source (store.directory key) names)) := by
    apply Run.Adds.bind (Run.Adds.mapError _ (store.compiler.build_adds _ _))
    intro _
    exact Run.Adds.bind (Run.Adds.mapError _ (World.inspect_adds _)) fun _ => Run.Adds.lift _
  split
  · exact Run.Adds.bind (Run.Adds.throw _) fun _ => rest
  · exact rest

theorem ArtifactStore.compile_adds (store : ArtifactStore) (source : String) :
    Run.Adds Event.isCompiling (store.compile source) := by
  apply Run.Adds.bind (Run.Adds.mapError _ (World.inspect_adds _))
  intro place
  dsimp only
  split
  · exact Run.Adds.pure _
  · exact Run.Adds.bind (store.compileNew_adds _ _) fun _ => Run.Adds.pure _

end Exchanges

end LedgerCapture
