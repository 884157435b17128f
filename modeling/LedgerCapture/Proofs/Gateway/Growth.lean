import LedgerCapture.Proofs.Engine.Assembly
import LedgerCapture.Proofs.Engine.MissingBlock
import LedgerCapture.Proofs.Files.Standing

/-!
What gateways leave among the files. A program may leave a directory of its own and a remote node leaves nothing,
so whatever an engine of the settings asks of the ledger, nothing that was there goes.
-/
namespace LedgerCapture

/-- A run after which everything is still there, and nothing is left in the air. -/
def Run.Spares {ε α : Type} (run : Run ε α) : Prop :=
  ∀ outside (world : World), world.files.Grows (run outside world).2.files

namespace Run.Spares

variable {ε ε' α β : Type}

theorem of_keepsFiles {run : Run ε α} (keeps : run.KeepsFiles) : run.Spares :=
  fun outside world => .of_eq (keeps outside world)

theorem pure (value : α) : (Pure.pure value : Run ε α).Spares :=
  of_keepsFiles (.pure value)

theorem throw (fault : ε) : (MonadExcept.throw fault : Run ε α).Spares :=
  of_keepsFiles (.throw fault)

theorem lift (result : Except ε α) : (Run.lift result).Spares :=
  of_keepsFiles (.lift result)

theorem bind {first : Run ε α} {next : α → Run ε β} (spares : first.Spares)
    (sparesNext : ∀ value, (next value).Spares) : (first >>= next).Spares := by
  intro outside world
  have before := spares outside world
  cases ran : first outside world with
  | mk result between =>
    rw [ran] at before
    cases result with
    | error fault =>
      rw [bind_of_error ran]
      exact before
    | ok value =>
      rw [bind_of_ok ran]
      exact before.trans (sparesNext value outside between)

theorem mapError {run : Run ε α} (change : ε → ε') (spares : run.Spares) : (run.mapError change).Spares := by
  intro outside world
  have before := spares outside world
  cases ran : run outside world with
  | mk result final =>
    rw [ran] at before
    cases result with
    | error fault =>
      rw [mapError_of_error ran]
      exact before
    | ok value =>
      rw [mapError_of_ok ran]
      exact before

theorem discard {run : Run ε α} (spares : run.Spares) : (Functor.discard run).Spares :=
  bind spares fun _ => pure ()

theorem of_ran {run : Run ε α} {outside : Outside} {world after : World} {result : Except ε α} (spares : run.Spares)
    (ran : run outside world = (result, after)) : world.files.Grows after.files := by
  have grown := spares outside world
  rwa [ran] at grown

end Run.Spares

theorem ProcessStart.run_spares (start : ProcessStart) : start.run.Spares := by
  intro outside world
  simp only [run]
  split
  · exact Files.depositAll_rel .refl .trans Files.makeDirectory_grows Files.write_grows _ _
  · exact .of_eq rfl

theorem writeDocument_spares (path : String) (document : Json) : (writeDocument path document).Spares := by
  refine .mapError _ fun outside world => ?_
  simp only [World.alter]
  split
  · next written => exact Files.write_grows written
  · exact .of_eq rfl

namespace WalletProgram

variable (program : WalletProgram)

theorem run_spares (arguments : List String) : (program.run arguments).Spares := by
  apply Run.Spares.bind (.mapError _ (program.start arguments).run_spares)
  intro output
  split
  · exact .pure _
  · exact .throw _

end WalletProgram

structure Gateway.Spares (gateway : Gateway) : Prop where
  command : ∀ command, (gateway.command command).Spares
  ask : ∀ command, (gateway.ask command).Spares

theorem Gateway.spares_of_perform {gateway : Gateway} (wallet : ∀ command, (gateway.wallet.perform command).Spares)
    (lookup : ∀ command, (gateway.lookup.perform command).Spares) : gateway.Spares where
  command command := wallet command
  ask command := lookup command

namespace Engine

end Engine

end LedgerCapture
