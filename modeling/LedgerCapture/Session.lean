import LedgerCapture.Artifact.Store
import LedgerCapture.Gateway.Basic
import LedgerCapture.Registry

/-!
What a run builds up while it deploys and calls contracts. A stage of the run that fails keeps what it
has built up so far, so a later stage can go on from there.
-/
namespace LedgerCapture

structure Session where
  registry : Registry
  store : ArtifactStore

/-- A part of a run that changes the session, whatever its outcome. -/
def Stage (ε α : Type) : Type :=
  Session → Outside → World → Except ε α × Session × World

namespace Stage

variable {ε ε' α β : Type}

protected def pure (value : α) : Stage ε α :=
  fun session _ world => (.ok value, session, world)

protected def bind (first : Stage ε α) (next : α → Stage ε β) : Stage ε β :=
  fun session outside world =>
    match first session outside world with
    | (.ok value, session, world) => next value session outside world
    | (.error fault, session, world) => (.error fault, session, world)

instance : Monad (Stage ε) where
  pure := Stage.pure
  bind := Stage.bind

def fail (fault : ε) : Stage ε α :=
  fun session _ world => (.error fault, session, world)

def ofRun (run : Run ε α) : Stage ε α :=
  fun session outside world =>
    match run outside world with
    | (result, world) => (result, session, world)

def mapError (change : ε → ε') (stage : Stage ε α) : Stage ε' α :=
  fun session outside world =>
    match stage session outside world with
    | (.ok value, session, world) => (.ok value, session, world)
    | (.error fault, session, world) => (.error (change fault), session, world)

def consult (look : Registry → Except ε α) : Stage ε α :=
  fun session _ world => (look session.registry, session, world)

/-- Changes the registry, or leaves it alone if that is not possible. -/
def revise (change : Registry → Except ε Registry) : Stage ε Unit :=
  fun session _ world =>
    match change session.registry with
    | .ok registry => (.ok (), { session with registry }, world)
    | .error fault => (.error fault, session, world)

def compile (source : String) : Stage ArtifactError Artifact :=
  fun session outside world =>
    match session.store.compile source outside world with
    | (.ok (artifact, store), world) => (.ok artifact, { session with store }, world)
    | (.error fault, world) => (.error fault, session, world)

def run (stage : Stage ε α) (session : Session) : Run ε (α × Session) :=
  fun outside world =>
    match stage session outside world with
    | (.ok value, session, world) => (.ok (value, session), world)
    | (.error fault, _, world) => (.error fault, world)

theorem bind_assoc {γ : Type} (first : Stage ε α) (second : α → Stage ε β) (third : β → Stage ε γ) :
    Stage.bind (Stage.bind first second) third =
      Stage.bind first fun value => Stage.bind (second value) third := by
  funext session outside world
  simp only [Stage.bind]
  split
  · next same =>
    split at same
    · next first => simp [same]
    · next first => simp at same
  · next same =>
    split at same
    · next first => simp [same]
    · next first => simp_all

instance : LawfulMonad (Stage ε) :=
  LawfulMonad.mk' _
    (fun stage => by
      funext session outside world
      show Stage.bind stage (fun value => Stage.pure value) session outside world =
        stage session outside world
      simp only [Stage.bind, Stage.pure]
      split <;> simp_all)
    (fun _ _ => rfl)
    bind_assoc

/-! ### Running a stage -/

section Running

variable {stage : Stage ε α} {next : α → Stage ε β} {change : ε → ε'} {value : α} {fault : ε}
  {session after : Session} {outside : Outside} {world final : World}

theorem bind_of_ok (ran : stage session outside world = (.ok value, after, final)) :
    (stage >>= next) session outside world = next value after outside final := by
  show Stage.bind stage next session outside world = _
  simp only [Stage.bind, ran]

theorem bind_of_error (ran : stage session outside world = (.error fault, after, final)) :
    (stage >>= next) session outside world = (.error fault, after, final) := by
  show Stage.bind stage next session outside world = _
  simp only [Stage.bind, ran]

theorem discard_of_ok (ran : stage session outside world = (.ok value, after, final)) :
    discard stage session outside world = (.ok (), after, final) := by
  show (stage >>= fun _ => pure ()) session outside world = _
  rw [bind_of_ok ran]
  rfl

theorem discard_of_error (ran : stage session outside world = (.error fault, after, final)) :
    discard stage session outside world = (.error fault, after, final) := by
  show (stage >>= fun _ => pure ()) session outside world = _
  exact bind_of_error ran

theorem mapError_of_ok (ran : stage session outside world = (.ok value, after, final)) :
    stage.mapError change session outside world = (.ok value, after, final) := by
  simp only [mapError, ran]

theorem mapError_of_error (ran : stage session outside world = (.error fault, after, final)) :
    stage.mapError change session outside world = (.error (change fault), after, final) := by
  simp only [mapError, ran]

theorem mapError_of {result : Except ε α} (ran : stage session outside world = (result, after, final)) :
    stage.mapError change session outside world = (result.mapError change, after, final) := by
  cases result with
  | ok value => exact mapError_of_ok ran
  | error fault => exact mapError_of_error ran

theorem ofRun_of {run : Run ε α} {result : Except ε α} (ran : run outside world = (result, final)) :
    ofRun run session outside world = (result, session, final) := by
  simp only [ofRun, ran]

theorem run_of_ok (ran : stage session outside world = (.ok value, after, final)) :
    stage.run session outside world = (.ok (value, after), final) := by
  simp only [run, ran]

theorem run_of_error (ran : stage session outside world = (.error fault, after, final)) :
    stage.run session outside world = (.error fault, final) := by
  simp only [run, ran]

theorem revise_of_ok {revision : Registry → Except ε Registry} {registry : Registry}
    (revised : revision session.registry = .ok registry) :
    revise revision session outside world = (.ok (), { session with registry }, world) := by
  simp only [revise, revised]

theorem compile_of_ok {source : String} {artifact : Artifact} {store : ArtifactStore}
    (compiled : session.store.compile source outside world = (.ok (artifact, store), final)) :
    compile source session outside world = (.ok artifact, { session with store }, final) := by
  simp only [compile, compiled]

theorem compile_of_error {source : String} {fault : ArtifactError}
    (failed : session.store.compile source outside world = (.error fault, final)) :
    compile source session outside world = (.error fault, session, final) := by
  simp only [compile, failed]

end Running

end Stage

end LedgerCapture
