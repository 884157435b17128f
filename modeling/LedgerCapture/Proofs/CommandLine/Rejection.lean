import LedgerCapture.CommandLine.Execution
import LedgerCapture.Proofs.Engine.Category
import LedgerCapture.Proofs.Failure
import LedgerCapture.Rehearsal.Outside

/-!
Configurations are checked before anything happens. What is rejected leaves the world as it was, and once a
program was started or a request was sent, the configuration is not blamed any more.
-/
namespace LedgerCapture

/-- A run that leaves the world as it is. -/
def Run.Idle {ε α : Type} (run : Run ε α) : Prop :=
  ∀ outside world, (run outside world).2 = world

namespace Run.Idle

variable {ε ε' α β : Type}

theorem lift (result : Except ε α) : (Run.lift result).Idle :=
  fun _ _ => rfl

theorem mapError {run : Run ε α} (change : ε → ε') (idle : run.Idle) : (run.mapError change).Idle := by
  intro outside world
  have same := idle outside world
  cases ran : run outside world with
  | mk result final =>
    rw [ran] at same
    cases result with
    | ok value => rw [mapError_of_ok ran, same]
    | error fault => rw [mapError_of_error ran, same]

theorem bind {first : Run ε α} {next : α → Run ε β} (idle : first.Idle)
    (idleNext : ∀ value, (next value).Idle) : (first >>= next).Idle := by
  intro outside world
  have same := idle outside world
  cases ran : first outside world with
  | mk result between =>
    rw [ran] at same
    cases result with
    | ok value => rw [bind_of_ok ran]; exact (idleNext value outside between).trans same
    | error fault => rw [bind_of_error ran, same]

/-- What an idle run comes to, told by its result. -/
theorem run_of {run : Run ε α} {outside : Outside} {world : World} {result : Except ε α} (idle : run.Idle)
    (same : (run outside world).1 = result) : run outside world = (result, world) :=
  Prod.ext same (idle outside world)

end Run.Idle

theorem Config.loadText_idle (path : String) : (Config.loadText path).Idle :=
  .mapError _ fun _ _ => rfl

theorem Config.load_idle (environment : Config.Environment) (path : String) :
    (Config.load environment path).Idle :=
  .bind (Config.loadText_idle path) fun _ => .lift _

theorem BlockConfig.load_idle (path : String) : (BlockConfig.load path).Idle :=
  .bind (Config.loadText_idle path) fun _ => .lift _

/-- No number is given twice in a block configuration that was loaded. -/
theorem BlockConfig.ids_nodup_of_load {path : String} {block : BlockConfig} {outside : Outside}
    {world final : World} (loaded : BlockConfig.load path outside world = (.ok block, final)) :
    (block.contracts.map (·.id)).Nodup := by
  obtain ⟨text, between, -, parsed⟩ := Run.bind_eq_ok loaded
  exact BlockConfig.ids_nodup_of_parse (Prod.mk.inj parsed).1

namespace CommandLine

variable {environment : Config.Environment} {invocation : Invocation} {outside : Outside} {world : World}

theorem Invocation.loadSettings_idle (environment : Config.Environment) (invocation : Invocation) :
    (invocation.loadSettings environment).Idle := by
  unfold loadSettings
  split
  · exact Config.load_idle environment _
  · exact .lift _

/-- How an invocation is rejected: for its settings, for a half of the gateway, or for the block configuration
of a capture. -/
inductive Invocation.Rejected (environment : Config.Environment) (invocation : Invocation) (outside : Outside)
    (world : World) : Prop where
  | settings {fault : ConfigError}
      (refused : (invocation.loadSettings environment outside world).1 = .error fault)
  | gateway {config : Config} {fault : AssemblyError}
      (loaded : (invocation.loadSettings environment outside world).1 = .ok config)
      (refused : Engine.assemble config ⟨invocation.command.walletConfig⟩ none = .error fault)
  | block {options : CaptureOptions} {fault : ConfigError} (capturing : invocation.command = .capture options)
      (refused : (BlockConfig.load options.blockConfig outside world).1 = .error fault)

section

variable {config : Config} {engine : Engine}

theorem Invocation.run_of_unloaded {fault : ConfigError}
    (refused : (invocation.loadSettings environment outside world).1 = .error fault) :
    invocation.run environment outside world = (.error (.config fault), world) :=
  Run.bind_of_error (Run.mapError_of_error ((invocation.loadSettings_idle environment).run_of refused))

theorem Invocation.run_of_loaded
    (loaded : (invocation.loadSettings environment outside world).1 = .ok config) :
    invocation.run environment outside world =
      ((Run.lift (Engine.assemble config ⟨invocation.command.walletConfig⟩ none)).mapError .assembly >>=
        fun engine => (invocation.command.run engine).mapError .engine) outside world :=
  Run.bind_of_ok (Run.mapError_of_ok ((invocation.loadSettings_idle environment).run_of loaded))

theorem Invocation.run_of_assembled
    (loaded : (invocation.loadSettings environment outside world).1 = .ok config)
    (assembled : Engine.assemble config ⟨invocation.command.walletConfig⟩ none = .ok engine) :
    invocation.run environment outside world =
      (invocation.command.run engine).mapError .engine outside world := by
  rw [Invocation.run_of_loaded loaded, assembled]
  exact Run.bind_of_ok (Run.mapError_of_ok rfl)

theorem Invocation.run_of_unassembled {fault : AssemblyError}
    (loaded : (invocation.loadSettings environment outside world).1 = .ok config)
    (refused : Engine.assemble config ⟨invocation.command.walletConfig⟩ none = .error fault) :
    invocation.run environment outside world = (.error (.assembly fault), world) := by
  rw [Invocation.run_of_loaded loaded, refused]
  exact Run.bind_of_error (Run.mapError_of_error rfl)

theorem Command.run_of_refused {options : CaptureOptions} {fault : ConfigError}
    (refused : (BlockConfig.load options.blockConfig outside world).1 = .error fault) :
    (Command.capture options).run engine outside world = (.error (.config fault), world) :=
  Run.bind_of_error (Run.mapError_of_error ((BlockConfig.load_idle _).run_of refused))

/-- A rejected invocation fails, and nothing has happened. -/
theorem Invocation.run_of_rejected (rejected : invocation.Rejected environment outside world) :
    ∃ error, invocation.run environment outside world = (.error error, world) := by
  cases rejected with
  | settings refused => exact ⟨_, run_of_unloaded refused⟩
  | gateway loaded refused => exact ⟨_, run_of_unassembled loaded refused⟩
  | block capturing refused =>
    -- The settings and the gateway are looked at first.
    cases loaded : (invocation.loadSettings environment outside world).1 with
    | error fault => exact ⟨_, run_of_unloaded loaded⟩
    | ok config =>
      cases assembled : Engine.assemble config ⟨invocation.command.walletConfig⟩ none with
      | error fault => exact ⟨_, run_of_unassembled loaded assembled⟩
      | ok engine =>
        rw [run_of_assembled loaded assembled, capturing]
        exact ⟨_, Run.mapError_of_error (Command.run_of_refused refused)⟩

/-- A command does nothing before its block configuration is accepted, and what fails afterwards is not the
configuration. -/
theorem Command.run_blames {command : Command} {error : EngineError} {final : World}
    (failed : command.run engine outside world = (.error error, final)) :
    final = world ∨ error.Operational := by
  cases command with
  | makeConfig path =>
    exact .inr (Run.FailsWith.bind (Run.FailsWith.bind (engine.makeConfig_failsWith path)
      fun _ => Run.FailsWith.pure _) (fun _ => Run.FailsWith.pure _) outside world error final failed)
  | writeBlock shard block output path =>
    exact .inr (Run.FailsWith.bind (engine.writeBlock_failsWith shard block output)
      (fun _ => Run.FailsWith.pure _) outside world error final failed)
  | capture options =>
    cases loaded : (BlockConfig.load options.blockConfig outside world).1 with
    | error fault =>
      rw [Command.run_of_refused loaded] at failed
      exact .inl (Prod.mk.inj failed).2.symm
    | ok block =>
      have accepted := (BlockConfig.load_idle _).run_of loaded
      rw [Command.run, Run.bind_of_ok (Run.mapError_of_ok accepted)] at failed
      exact .inr (Run.FailsWith.bind (engine.capture_failsWith (BlockConfig.ids_nodup_of_load accepted))
        (fun _ => Run.FailsWith.pure _) outside world error final failed)

theorem Invocation.run_blames {error : CommandError} {final : World}
    (failed : invocation.run environment outside world = (.error error, final)) :
    final = world ∨ ∃ cause, error = .engine cause ∧ cause.Operational := by
  cases loaded : (invocation.loadSettings environment outside world).1 with
  | error fault =>
    rw [run_of_unloaded loaded] at failed
    exact .inl (Prod.mk.inj failed).2.symm
  | ok config =>
    cases assembled : Engine.assemble config ⟨invocation.command.walletConfig⟩ none with
    | error fault =>
      rw [run_of_unassembled loaded assembled] at failed
      exact .inl (Prod.mk.inj failed).2.symm
    | ok engine =>
      rw [run_of_assembled loaded assembled] at failed
      cases ran : invocation.command.run engine outside world with
      | mk result after =>
        cases result with
        | ok text => rw [Run.mapError_of_ok ran] at failed; cases failed
        | error cause =>
          rw [Run.mapError_of_error ran] at failed
          cases failed
          exact (Command.run_blames ran).imp_right fun operational => ⟨cause, rfl, operational⟩

end

/-- An invocation whose configuration is rejected fails with nothing done: no program is started, no request is
sent, no file is touched. Once something has gone out, a failure is none of the configuration. -/
theorem execute_rejection {arguments : List String}
    (parsed : Invocation.parse environment arguments = .ok invocation) (outside : Outside) (world : World) :
    (invocation.Rejected environment outside world → ∃ fault : CommandError,
      execute environment arguments outside world = (⟨1, "", some fault.message⟩, world)) ∧
    ∀ error final, invocation.run environment outside world = (.error error, final) →
      (∃ event ∈ world.since final, event.isOutgoing = true) →
        ∃ cause, error = .engine cause ∧ cause.category ≠ .configuration := by
  constructor
  · intro rejected
    obtain ⟨error, failed⟩ := Invocation.run_of_rejected rejected
    refine ⟨error, ?_⟩
    simp only [execute, parsed, failed]
  · rintro error final failed ⟨event, entered, -⟩
    rcases Invocation.run_blames failed with rfl | blamed
    · simp [World.since] at entered
    · exact blamed

/-- Settings that are not there, and settings with which the wallet program is started and fails. -/
theorem execute_of_absent_settings_and_failed_program :
    let settings := "gateway = \x7brpc_endpoint = \"\", wallet = \"cli\", lookup = \"cli\", " ++
      "implementations = \x7bcli = \x7b\x7d\x7d\x7d"
    let environment : Config.Environment := fun _ => none
    let arguments := fun path => ["--config", path, "make-config", "--cli-config-name", "wallet.ini"]
    let invocation : Invocation := ⟨some "settings", .makeConfig "wallet.ini"⟩
    let world : World := ⟨⟨[(["settings"], .file settings.toUTF8)], []⟩, []⟩
    let outside := Rehearsal.outside world.files "/tmp" [⟨.empty, .empty, 1, none⟩]
    (∃ fault : CommandError,
      execute environment (arguments "absent") outside world = (⟨1, "", some fault.message⟩, world)) ∧
    ∃ final cause, Invocation.parse environment (arguments "settings") = .ok invocation ∧
      invocation.run environment outside world = (.error (.engine cause), final) ∧
      (∃ event ∈ world.since final, event.isOutgoing = true) ∧ cause.category ≠ .configuration := by
  intro settings environment arguments invocation world outside
  constructor
  · have absent : (⟨some "absent", .makeConfig "wallet.ini"⟩ : Invocation).Rejected environment outside world :=
      .settings rfl
    exact (execute_rejection rfl outside world).1 absent
  · have parsed : Invocation.parse environment (arguments "settings") = .ok invocation := by decide +kernel
    have failed : (invocation.run environment outside world).1.isOk = false := by decide +kernel
    have went : (world.since (invocation.run environment outside world).2).any Event.isOutgoing = true := by
      decide +kernel
    cases ran : invocation.run environment outside world with
    | mk result final =>
      rw [ran] at failed went
      cases result with
      | ok text => cases failed
      | error error =>
        have out := List.any_eq_true.mp went
        obtain ⟨cause, rfl, operational⟩ := (execute_rejection parsed outside world).2 error final ran out
        exact ⟨final, cause, parsed, rfl, out, operational⟩

end CommandLine

end LedgerCapture
