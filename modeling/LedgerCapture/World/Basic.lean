import LedgerCapture.Gateway.Command
import LedgerCapture.Files.Tree

/-!
What a run deals with besides its own data: files, programs, the node, a remote endpoint, chance. A run
is a function of the world and of what the outside answers. Every exchange with the outside is entered
into a journal, and an answer may depend on all entries before it.
-/
namespace LedgerCapture

structure ProcessStart where
  program : String
  arguments : List String
  deriving DecidableEq, Repr

namespace ProcessStart

def line (start : ProcessStart) : String :=
  start.program ++ " " ++ " ".intercalate start.arguments

end ProcessStart

structure OutputDirectory where
  path : String
  files : List (String × ByteArray)

structure ProcessOutput where
  stdout : ByteArray
  stderr : ByteArray
  success : Bool
  directory : Option OutputDirectory

structure HttpRequest where
  url : String
  body : Json

inductive HttpAnswer where
  /-- No answer came. -/
  | unreachable
  /-- The text is what the client has decoded. If it could not read all of it, it gives a reason. -/
  | answered (status : Nat) (text : Except String String)

inductive NodeStatus where
  | running
  | exited (status : String)
  | unknown (reason : String)
  deriving DecidableEq, Repr

inductive Termination where
  /-- It stopped in time. -/
  | stopped
  /-- It did not stop in time, or could not be asked. -/
  | persisting
  /-- Waiting for it failed. -/
  | failed (reason : String)
  deriving DecidableEq, Repr

inductive Event where
  | wallet (command : WalletCommand) (answer : Except GatewayError command.Reply)
  | lookup (command : LookupCommand) (answer : Except GatewayError command.Reply)
  | process (start : ProcessStart) (result : Except SystemError ProcessOutput)
  | request (request : HttpRequest) (answer : HttpAnswer)
  | compiled (source output : String) (result : Except String Unit)
  | salt (value : UInt64)
  | launched (start : ProcessStart) (result : Except SystemError Unit)
  | checked (status : NodeStatus)
  | terminated (result : Termination)
  | killed (result : Except String Unit)
  | slept (milliseconds : UInt64)

/-- Whether an event is of the kind that carries a command: a program that was started for it, or a
request that was sent for it. -/
def Event.isCarrier : Event → Bool
  | process _ _ => true
  | request _ _ => true
  | _ => false

abbrev Journal := List Event

/-- The answers of the outside, each a function of what has happened before. -/
structure Outside where
  process : Journal → ProcessStart → Except SystemError ProcessOutput
  request : Journal → HttpRequest → HttpAnswer
  salt : Journal → UInt64
  /-- The names that are drawn for a new directory of artifacts, one after the other until one is free. -/
  scopeNames : Journal → List String
  temporaryDirectory : String
  /-- What cannot be taken away when a directory is removed. -/
  keeps : Journal → Place → Bool
  launch : Journal → ProcessStart → Except SystemError Unit
  nodeStatus : Journal → NodeStatus
  /-- The node is asked to stop and has some milliseconds for it. -/
  terminate : Journal → UInt64 → Termination
  kill : Journal → Except String Unit

structure World where
  files : Files
  journal : Journal

/-- A run that ends with a value of type `α` or fails with one of type `ε`. The world is there in both
cases. -/
def Run (ε α : Type) : Type :=
  Outside → World → Except ε α × World

namespace Run

variable {ε ε' α β : Type}

protected def pure (value : α) : Run ε α :=
  fun _ world => (.ok value, world)

protected def bind (first : Run ε α) (next : α → Run ε β) : Run ε β :=
  fun outside world =>
    match first outside world with
    | (.ok value, world) => next value outside world
    | (.error fault, world) => (.error fault, world)

instance : Monad (Run ε) where
  pure := Run.pure
  bind := Run.bind

def fail (fault : ε) : Run ε α :=
  fun _ world => (.error fault, world)

instance : MonadExcept ε (Run ε) where
  throw := fail
  tryCatch first handler := fun outside world =>
    match first outside world with
    | (.ok value, world) => (.ok value, world)
    | (.error fault, world) => handler fault outside world

def lift (result : Except ε α) : Run ε α :=
  fun _ world => (result, world)

def mapError (change : ε → ε') (run : Run ε α) : Run ε' α :=
  fun outside world =>
    match run outside world with
    | (.ok value, world) => (.ok value, world)
    | (.error fault, world) => (.error (change fault), world)

/-- Goes on also after a failure. -/
def attempt (run : Run ε α) : Run ε' (Except ε α) :=
  fun outside world =>
    match run outside world with
    | (result, world) => (.ok result, world)

/-- Does something afterwards, whatever the outcome. -/
def andFinally (run : Run ε α) (change : Outside → World → World) : Run ε α :=
  fun outside world =>
    match run outside world with
    | (result, world) => (result, change outside world)

theorem bind_assoc {γ : Type} (first : Run ε α) (second : α → Run ε β) (third : β → Run ε γ) :
    Run.bind (Run.bind first second) third = Run.bind first fun value => Run.bind (second value) third := by
  funext outside world
  simp only [Run.bind]
  split
  · next same =>
    split at same
    · next first => simp [same]
    · next first => simp at same
  · next same =>
    split at same
    · next first => simp [same]
    · next first => simp_all

instance : LawfulMonad (Run ε) :=
  LawfulMonad.mk' _
    (fun run => by
      funext outside world
      show Run.bind run (fun value => Run.pure value) outside world = run outside world
      simp only [Run.bind, Run.pure]
      split <;> simp_all)
    (fun _ _ => rfl)
    bind_assoc

section Running

variable {run : Run ε α} {next : α → Run ε β} {change : ε → ε'} {value : α} {fault : ε}
  {outside : Outside} {world final : World}

theorem bind_of_ok (ran : run outside world = (.ok value, final)) :
    (run >>= next) outside world = next value outside final := by
  show Run.bind run next outside world = _
  simp only [Run.bind, ran]

theorem bind_of_error (ran : run outside world = (.error fault, final)) :
    (run >>= next) outside world = (.error fault, final) := by
  show Run.bind run next outside world = _
  simp only [Run.bind, ran]

theorem discard_of_ok (ran : run outside world = (.ok value, final)) :
    discard run outside world = (.ok (), final) := by
  show (run >>= fun _ => pure ()) outside world = _
  rw [bind_of_ok ran]
  rfl

theorem discard_of_error (ran : run outside world = (.error fault, final)) :
    discard run outside world = (.error fault, final) := by
  show (run >>= fun _ => pure ()) outside world = _
  exact bind_of_error ran

/-- What went well as a whole went well in both parts. -/
theorem bind_eq_ok {result : β} (ran : (run >>= next) outside world = (.ok result, final)) :
    ∃ value between, run outside world = (.ok value, between) ∧
      next value outside between = (.ok result, final) := by
  cases before : run outside world with
  | mk first between =>
    cases first with
    | error fault => rw [bind_of_error before] at ran; cases ran
    | ok value => exact ⟨value, between, rfl, (bind_of_ok before).symm.trans ran⟩

theorem mapError_of_ok (ran : run outside world = (.ok value, final)) :
    run.mapError change outside world = (.ok value, final) := by
  simp only [mapError, ran]

theorem mapError_of_error (ran : run outside world = (.error fault, final)) :
    run.mapError change outside world = (.error (change fault), final) := by
  simp only [mapError, ran]

theorem attempt_of {result : Except ε α} (ran : run outside world = (result, final)) :
    (run.attempt : Run ε' (Except ε α)) outside world = (.ok result, final) := by
  simp only [attempt, ran]

end Running

end Run

namespace World

def now {ε : Type} : Run ε World :=
  fun _ world => (.ok world, world)

def pause {ε : Type} (milliseconds : UInt64) : Run ε Unit :=
  fun _ world => (.ok (), { world with journal := world.journal ++ [.slept milliseconds] })

def record (world : World) (event : Event) : World :=
  { world with journal := world.journal ++ [event] }

/-- Puts a question to the outside and enters the exchange into the journal. -/
def exchange {ε α : Type} (ask : Outside → Journal → α) (event : α → Event) : Run ε α :=
  fun outside world =>
    let answer := ask outside world.journal
    (.ok answer, world.record (event answer))

def inspect {α : Type} (read : Files → Except SystemError α) : Run SystemError α :=
  fun _ world => (read world.files, world)

/-- Changes the files, or leaves them alone if that is not possible. -/
def alter (change : Files → Except SystemError Files) : Run SystemError Unit :=
  fun _ world =>
    match change world.files with
    | .ok files => (.ok (), { world with files })
    | .error fault => (.error fault, world)

end World

/-- The tree with the directory that a program left in it. -/
def Files.deposit (files : Files) (directory : OutputDirectory) : Files :=
  match files.makeDirectory directory.path with
  | .error _ => files
  | .ok made =>
    directory.files.foldl (fun files file =>
      match files.write (Path.join directory.path file.1) file.2 with
      | .ok files => files
      | .error _ => files) made

def Files.depositAll (files : Files) (directory : Option OutputDirectory) : Files :=
  match directory with
  | none => files
  | some directory => files.deposit directory

/-- The journal of the second world continues that of the first with events of one kind. -/
def World.Adds (kind : Event → Bool) (world after : World) : Prop :=
  ∃ events, after.journal = world.journal ++ events ∧ ∀ event ∈ events, kind event = true

namespace World.Adds

variable {kind : Event → Bool} {first second third : World}

theorem of_journal_eq (same : second.journal = first.journal) : World.Adds kind first second :=
  ⟨[], by simp [same], by simp⟩

theorem refl (world : World) : World.Adds kind world world :=
  of_journal_eq rfl

theorem trans (left : World.Adds kind first second) (right : World.Adds kind second third) :
    World.Adds kind first third := by
  obtain ⟨before, journal, ofKind⟩ := left
  obtain ⟨later, journalLater, ofKindLater⟩ := right
  refine ⟨before ++ later, by rw [journalLater, journal, List.append_assoc], ?_⟩
  intro event member
  rcases List.mem_append.mp member with member | member
  · exact ofKind event member
  · exact ofKindLater event member

theorem record {event : Event} (world : World) (ofKind : kind event = true) :
    World.Adds kind world (world.record event) :=
  ⟨[event], rfl, by simpa using ofKind⟩

end World.Adds

/-- A run that adds only events of one kind to the journal, whatever the outside answers. -/
def Run.Adds {ε α : Type} (kind : Event → Bool) (run : Run ε α) : Prop :=
  ∀ outside world, World.Adds kind world (run outside world).2

namespace Run.Adds

variable {ε ε' α β : Type} {kind : Event → Bool}

theorem pure (value : α) : Run.Adds kind (Pure.pure value : Run ε α) :=
  fun _ world => .refl world

theorem fail (fault : ε) : Run.Adds kind (Run.fail fault : Run ε α) :=
  fun _ world => .refl world

theorem throw (fault : ε) : Run.Adds kind (MonadExcept.throw fault : Run ε α) :=
  fun _ world => .refl world

theorem lift (result : Except ε α) : Run.Adds kind (Run.lift result) :=
  fun _ world => .refl world

theorem bind {first : Run ε α} {next : α → Run ε β} (adds : Run.Adds kind first)
    (addsNext : ∀ value, Run.Adds kind (next value)) : Run.Adds kind (first >>= next) := by
  intro outside world
  have before := adds outside world
  show World.Adds kind world (Run.bind first next outside world).2
  simp only [Run.bind]
  split
  · next value between same =>
    rw [same] at before
    exact before.trans (addsNext value outside between)
  · next fault between same =>
    rw [same] at before
    exact before

theorem discard {run : Run ε α} (adds : Run.Adds kind run) : Run.Adds kind (Functor.discard run) :=
  bind adds fun _ => pure ()

theorem mapError {run : Run ε α} (change : ε → ε') (adds : Run.Adds kind run) :
    Run.Adds kind (run.mapError change) := by
  intro outside world
  have before := adds outside world
  simp only [Run.mapError]
  split <;> (next same => rw [same] at before; exact before)

theorem attempt {run : Run ε α} (adds : Run.Adds kind run) :
    Run.Adds kind (run.attempt : Run ε' (Except ε α)) :=
  fun outside world => adds outside world

end Run.Adds

def ProcessStart.run (start : ProcessStart) : Run SystemError ProcessOutput :=
  fun outside world =>
    let result := outside.process world.journal start
    let world := world.record (.process start result)
    match result with
    | .ok output => (.ok output, { world with files := world.files.depositAll output.directory })
    | .error fault => (.error fault, world)

theorem ProcessStart.run_adds (start : ProcessStart) : Run.Adds Event.isCarrier start.run := by
  intro outside world
  simp only [ProcessStart.run]
  split
  · exact (World.Adds.record world rfl).trans (.of_journal_eq rfl)
  · exact World.Adds.record world rfl

end LedgerCapture
