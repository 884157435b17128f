import LedgerCapture.Artifact.Store
import LedgerCapture.Gateway.Implementation
import LedgerCapture.Proofs.Failure
import LedgerCapture.Proofs.Result

/-!
The commands of the known gateways and of the compiler program. Each of them gives up with the first program
or request that fails, also where it needs several, and an answer that is rejected fails the command.
-/
namespace LedgerCapture

open Journal

/-! ### Programs and requests -/

namespace ProcessStart

variable {start : ProcessStart} {outside : Outside} {world : World}

theorem run_of_error {fault : SystemError} (started : outside.process world.journal start = .error fault) :
    start.run outside world = (.error fault, world.record (.process start (.error fault))) := by
  simp only [run, started]

theorem run_of_ok {output : ProcessOutput} (started : outside.process world.journal start = .ok output) :
    start.run outside world = (.ok output, ⟨world.files.depositAll output.directory,
      world.journal ++ [.process start (.ok output)]⟩) := by
  simp only [run, started, World.record]

/-- A run that starts one program and then only looks at what came of it, if it does not overlook a failure. -/
theorem checked_givesUp {ε α : Type} (start : ProcessStart) (change : SystemError → ε)
    {next : ProcessOutput → Run ε α}
    (silent : ∀ output outside world, (next output outside world).2.journal = world.journal)
    (checked : ∀ output outside world, output.success = false →
      ∃ fault, (next output outside world).1 = .error fault) :
    (start.run.mapError change >>= next).GivesUp := by
  apply Run.GivesUp.of_single fun outside world => .process start (outside.process world.journal start)
  · intro outside world
    cases started : outside.process world.journal start with
    | error fault =>
      rw [Run.bind_of_error (Run.mapError_of_error (run_of_error started))]
      rfl
    | ok output => rw [Run.bind_of_ok (Run.mapError_of_ok (run_of_ok started)), silent]
  · exact fun _ _ => rfl
  · intro outside world failed
    cases started : outside.process world.journal start with
    | error fault =>
      exact ⟨change fault, by rw [Run.bind_of_error (Run.mapError_of_error (run_of_error started))]⟩
    | ok output =>
      rw [started] at failed
      rw [Run.bind_of_ok (Run.mapError_of_ok (run_of_ok started))]
      exact checked output outside _ (by simpa [Event.isFailed] using failed)

end ProcessStart

namespace WalletProgram

theorem run_givesUp (program : WalletProgram) (arguments : List String) : (program.run arguments).GivesUp := by
  apply ProcessStart.checked_givesUp
  · intro output outside world
    split <;> rfl
  · intro output outside world failed
    exact ⟨_, by rw [failed]; rfl⟩

theorem runCapture_givesUp (program : WalletProgram) (arguments : List String) (pattern : Pattern) :
    (program.runCapture arguments pattern).GivesUp :=
  Run.GivesUp.bind (program.run_givesUp arguments) fun _ => Run.GivesUp.lift _

theorem runDocument_givesUp {α : Type} (program : WalletProgram) (arguments : List String) (marker : String)
    (read : Json.Reading → Json.Draft → Except Json.DecodeError α) :
    (program.runDocument arguments marker read).GivesUp :=
  Run.GivesUp.bind (program.run_givesUp arguments) fun _ => Run.GivesUp.lift _

theorem perform_givesUp (program : WalletProgram) (command : WalletCommand) :
    (program.perform command).GivesUp := by
  cases command with
  | initConfig endpoint =>
    simp only [perform]
    have steps : (do
        discard (program.run ["config", "init"])
        discard (program.run ["config", "set", "rpc_endpoint", endpoint])).GivesUp :=
      Run.GivesUp.bind (Run.GivesUp.discard (program.run_givesUp _)) fun _ =>
        Run.GivesUp.discard (program.run_givesUp _)
    split
    · exact Run.GivesUp.bind (Run.GivesUp.throw _) fun _ => steps
    · exact steps
  | generateKey => exact Run.GivesUp.bind (program.run_givesUp _) fun _ => Run.GivesUp.pure _
  | createWallet => exact Run.GivesUp.bind (program.runCapture_givesUp _ _) fun _ => Run.GivesUp.lift _
  | walletAddress => exact Run.GivesUp.bind (program.runCapture_givesUp _ _) fun _ => Run.GivesUp.lift _
  | deploy request => exact Run.GivesUp.bind (program.runCapture_givesUp _ _) fun _ => Run.GivesUp.lift _
  | send request => exact Run.GivesUp.bind (program.runCapture_givesUp _ _) fun _ => Run.GivesUp.pure _

theorem answer_givesUp (program : WalletProgram) (command : LookupCommand) :
    (program.answer command).GivesUp := by
  cases command with
  | probe => exact Run.GivesUp.discard (program.run_givesUp _)
  | receipt message => exact program.runDocument_givesUp _ _ _
  | block shard block => exact program.runDocument_givesUp _ _ _
  | contractState address block => exact Run.GivesUp.throw _

end WalletProgram

namespace RemoteNode

/-- A request without an answer, or with one of another status than success or without a text, has no result. -/
theorem interpret_of_failed {α : Type} (node : RemoteNode)
    (read : Json.Reading → Json.Draft → Except Json.DecodeError α) (method url : String)
    {request : HttpRequest} {answer : HttpAnswer} (failed : (Event.request request answer).isFailed = true) :
    ∃ fault, node.interpret read method url answer = .error fault := by
  cases answer with
  | unreachable => exact ⟨_, rfl⟩
  | answered status text =>
    by_cases success : 200 ≤ status ∧ status < 300
    · cases text with
      | error reason => exact ⟨_, by rw [interpret, if_pos success]; rfl⟩
      | ok text => simp [Event.isFailed, success, Except.isOk, Except.toBool] at failed
    · exact ⟨_, by rw [interpret, if_neg success]⟩

theorem call_givesUp {α : Type} (node : RemoteNode)
    (read : Json.Reading → Json.Draft → Except Json.DecodeError α) (method : String)
    (parameters : List Json) : (node.call read method parameters).GivesUp := by
  unfold call
  split
  · exact Run.GivesUp.throw _
  · exact Run.GivesUp.throw _
  · next url parsed =>
    exact Run.GivesUp.of_single
      (fun outside world =>
        let request : HttpRequest :=
          ⟨url.text, question ((world.journal.filter isRequest).length + 1) method parameters⟩
        .request request (outside.request world.journal request))
      (fun _ _ => rfl) (fun _ _ => rfl) fun _ _ failed => node.interpret_of_failed read method url.text failed

theorem answer_givesUp (node : RemoteNode) (command : LookupCommand) : (node.answer command).GivesUp := by
  cases command with
  | probe => exact Run.GivesUp.discard (node.call_givesUp _ _ _)
  | receipt message => exact node.call_givesUp _ _ _
  | block shard block => exact node.call_givesUp _ _ _
  | contractState address block => exact node.call_givesUp _ _ _

end RemoteNode

theorem Compiler.ofProgram_givesUp (settings : Config.Compiler) (source output : String) :
    ((Compiler.ofProgram settings).compile source output).GivesUp := by
  apply ProcessStart.checked_givesUp
  · intro result outside world
    split <;> rfl
  · intro result outside world failed
    exact ⟨_, by rw [failed]; rfl⟩

/-! ### Commands -/

structure Gateway.GivesUp (gateway : Gateway) : Prop where
  wallet : ∀ command, (gateway.wallet.perform command).GivesUp
  lookup : ∀ command, (gateway.lookup.perform command).GivesUp

namespace Gateway

variable {gateway : Gateway}

theorem command_stops (givesUp : gateway.GivesUp) (command : WalletCommand) :
    (gateway.command command).StopsAtFailure :=
  (givesUp.wallet command).recorded (.wallet command) (fun _ => rfl)
    (fun _ => exists_error_of_not_isOk) fun _ _ => rfl

theorem ask_stops (givesUp : gateway.GivesUp) (command : LookupCommand) :
    (gateway.ask command).StopsAtFailure :=
  (givesUp.lookup command).recorded (.lookup command) (fun _ => rfl)
    (fun _ => exists_error_of_not_isOk) fun _ _ => rfl

end Gateway

end LedgerCapture
