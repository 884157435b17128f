import LedgerCapture.Session

/-!
A stage that is run from a session is a run. What holds of all runs is told of stages by these equations.
-/
namespace LedgerCapture.Stage

variable {ε ε' α β : Type}

theorem run_bind (first : Stage ε α) (next : α → Stage ε β) (session : Session) :
    (first >>= next).run session = first.run session >>= fun reached => (next reached.1).run reached.2 := by
  funext outside world
  cases ran : first session outside world with
  | mk result rest =>
    obtain ⟨after, final⟩ := rest
    cases result with
    | error fault => rw [run_of_error (bind_of_error ran), Run.bind_of_error (run_of_error ran)]
    | ok value =>
      rw [Run.bind_of_ok (run_of_ok ran)]
      simp only [run, bind_of_ok ran]

theorem run_mapError (change : ε → ε') (stage : Stage ε α) (session : Session) :
    (stage.mapError change).run session = (stage.run session).mapError change := by
  funext outside world
  cases ran : stage session outside world with
  | mk result rest =>
    obtain ⟨after, final⟩ := rest
    cases result with
    | error fault => rw [run_of_error (mapError_of_error ran), Run.mapError_of_error (run_of_error ran)]
    | ok value => rw [run_of_ok (mapError_of_ok ran), Run.mapError_of_ok (run_of_ok ran)]

theorem run_ofRun (run : Run ε α) (session : Session) :
    (ofRun run).run session = run >>= fun value => Pure.pure (value, session) := by
  funext outside world
  cases ran : run outside world with
  | mk result final =>
    cases result with
    | error fault => rw [run_of_error (ofRun_of ran), Run.bind_of_error ran]
    | ok value =>
      rw [run_of_ok (ofRun_of ran), Run.bind_of_ok ran]
      rfl

theorem run_consult (look : Registry → Except ε α) (session : Session) :
    (consult look).run session = Run.lift ((look session.registry).map (·, session)) := by
  funext outside world
  cases found : look session.registry with
  | error fault => simp only [run, consult, found, Run.lift, Except.map]
  | ok value => simp only [run, consult, found, Run.lift, Except.map]

theorem run_revise (change : Registry → Except ε Registry) (session : Session) :
    (revise change).run session =
      Run.lift ((change session.registry).map fun registry => ((), { session with registry })) := by
  funext outside world
  cases revised : change session.registry with
  | error fault => simp only [run, revise, revised, Run.lift, Except.map]
  | ok registry => simp only [run, revise, revised, Run.lift, Except.map]

theorem run_compile (source : String) (session : Session) :
    (compile source).run session = session.store.compile source >>= fun made =>
      Pure.pure (made.1, { session with store := made.2 }) := by
  funext outside world
  cases compiled : session.store.compile source outside world with
  | mk result final =>
    cases result with
    | error fault => rw [run_of_error (compile_of_error compiled), Run.bind_of_error compiled]
    | ok made =>
      rw [run_of_ok (compile_of_ok compiled), Run.bind_of_ok compiled]
      rfl

end LedgerCapture.Stage
