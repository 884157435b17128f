import LedgerCapture.Proofs.Artifact.Collect
import LedgerCapture.Proofs.Journal
import LedgerCapture.Proofs.Result

/-!
What one request for an artifact comes to. The outcomes are listed with all that leads to each of them;
when the compiler is started, and what the store keeps, is read off the list.
-/
namespace LedgerCapture

open Journal

theorem Compiler.build_leads {compiler : Compiler} {source output : String} {result : Except String Unit}
    {outside : Outside} {world final : World}
    (built : compiler.build source output outside world = (result, final)) :
    world.Leads [.compiled source output result] final := by
  have carried := World.Leads.of_adds (compiler.compile_adds source output outside world)
  simp only [Compiler.build, Prod.mk.injEq] at built
  obtain ⟨rfl, rfl⟩ := built
  exact carried.trans (World.Leads.record _ rfl)

theorem Compiler.build_of {compiler : Compiler} {source output : String} {result : Except String Unit}
    {outside : Outside} {world between : World}
    (ran : compiler.compile source output outside world = (result, between)) :
    compiler.build source output outside world = (result, between.record (.compiled source output result)) := by
  simp only [Compiler.build, ran]

theorem World.inspect_of {α : Type} {read : Files → Except SystemError α} {result : Except SystemError α}
    {outside : Outside} {world : World} (found : read world.files = result) :
    World.inspect read outside world = (result, world) := by
  simp only [inspect, found]

abbrev Place.key (place : Place) : String :=
  Artifact.keyOfText place.path

namespace ArtifactStore

variable {store after : ArtifactStore} {source : String} {outside : Outside} {world final : World}
  {result : Except ArtifactError (Artifact × ArtifactStore)}

/-- The store has nothing for the place that the source resolves to, and nothing is at the directory for
it yet. -/
structure Starts (store : ArtifactStore) (source : String) (world : World) (place : Place) : Prop where
  resolved : world.files.canonical source = .ok place
  missing : store.cached.lookup place.key = none
  vacant : world.files.isPresent (store.directory place.key) = .ok false

theorem Starts.lookup_eq_none {place other : Place} (starts : store.Starts source world place)
    (resolved : world.files.canonical source = .ok other) : store.cached.lookup other.key = none := by
  have same := starts.resolved
  rw [resolved] at same
  cases same
  exact starts.missing

def Builds (store : ArtifactStore) (place : Place) (outside : Outside) (world : World)
    (result : Except String Unit) (final : World) : Prop :=
  store.compiler.build place.path (store.directory place.key) outside world = (result, final)

theorem Builds.leads {place : Place} {built : Except String Unit}
    (builds : store.Builds place outside world built final) :
    world.Leads [.compiled place.path (store.directory place.key) built] final :=
  Compiler.build_leads builds

def add (store : ArtifactStore) (key : String) (artifact : Artifact) : ArtifactStore :=
  { store with cached := (key, artifact) :: store.cached }

inductive Outcome (store : ArtifactStore) (source : String) (outside : Outside) (world : World) :
    Except ArtifactError (Artifact × ArtifactStore) → World → Prop where
  | unresolved {fault : SystemError} (missing : world.files.canonical source = .error fault) :
      Outcome store source outside world (.error (.sourceNotFound source fault)) world
  | known {place : Place} {artifact : Artifact} (resolved : world.files.canonical source = .ok place)
      (found : store.cached.lookup place.key = some artifact) :
      Outcome store source outside world (.ok (artifact, store)) world
  | blocked {place : Place} {fault : ArtifactError} (resolved : world.files.canonical source = .ok place)
      (missing : store.cached.lookup place.key = none)
      (present : world.files.isPresent (store.directory place.key) ≠ .ok false) :
      Outcome store source outside world (.error fault) world
  | failed {place : Place} {reason : String} {final : World} (starts : store.Starts source world place)
      (built : store.Builds place outside world (.error reason) final) :
      Outcome store source outside world (.error (.compilation place.path reason)) final
  | useless {place : Place} {fault : ArtifactError} {final : World} (starts : store.Starts source world place)
      (built : store.Builds place outside world (.ok ()) final) :
      Outcome store source outside world (.error fault) final
  | compiled {place : Place} {names : List String} {artifact : Artifact} {final : World}
      (starts : store.Starts source world place) (built : store.Builds place outside world (.ok ()) final)
      (listed : final.files.list (store.directory place.key) = .ok names)
      (collected : Artifact.collect place.path (store.directory place.key) names =
        .ok artifact) :
      Outcome store source outside world
        (.ok (artifact, store.add place.key artifact)) final

theorem compileNew_of_present (source : String) (outside : Outside) {key : String}
    (present : world.files.isPresent (store.directory key) ≠ .ok false) :
    ∃ fault, store.compileNew source key outside world = (.error fault, world) := by
  unfold compileNew
  cases found : world.files.isPresent (store.directory key) with
  | error fault =>
    exact ⟨.inaccessible fault, Run.bind_of_error (Run.mapError_of_error (World.inspect_of found))⟩
  | ok value =>
    cases value with
    | false => exact absurd found present
    | true =>
      exact ⟨.directoryExists (store.directory key),
        (Run.bind_of_ok (Run.mapError_of_ok (World.inspect_of found))).trans rfl⟩

/-- Where nothing is in the way the compiler is started, and then its files are read. -/
theorem compileNew_of_vacant {key : String} {built : Except String Unit}
    (vacant : world.files.isPresent (store.directory key) = .ok false)
    (ran : store.compiler.build source (store.directory key) outside world = (built, final)) :
    store.compileNew source key outside world = (do
      built.mapError (.compilation source)
      let names ← (final.files.list (store.directory key)).mapError .inaccessible
      Artifact.collect source (store.directory key) names, final) := by
  unfold compileNew
  rw [Run.bind_of_ok (Run.mapError_of_ok (World.inspect_of vacant))]
  simp only [Bool.false_eq_true, if_false]
  cases built with
  | error reason =>
    rw [Run.bind_of_error (Run.mapError_of_error ran)]
    rfl
  | ok value =>
    rw [Run.bind_of_ok (Run.mapError_of_ok ran)]
    cases listed : final.files.list (store.directory key) with
    | error fault =>
      rw [Run.bind_of_error (Run.mapError_of_error (World.inspect_of listed))]
      rfl
    | ok names =>
      rw [Run.bind_of_ok (Run.mapError_of_ok (World.inspect_of listed))]
      rfl

theorem compile_of_lookup {place : Place} {artifact : Artifact} (outside : Outside)
    (resolved : world.files.canonical source = .ok place)
    (found : store.cached.lookup place.key = some artifact) :
    store.compile source outside world = (.ok (artifact, store), world) := by
  unfold compile
  rw [Run.bind_of_ok (Run.mapError_of_ok (World.inspect_of resolved))]
  simp only [found]
  rfl

theorem compile_of_missing {place : Place} (outside : Outside) (resolved : world.files.canonical source = .ok place)
    (missing : store.cached.lookup place.key = none) :
    store.compile source outside world =
      (store.compileNew place.path place.key >>= fun artifact => pure (artifact, store.add place.key artifact))
        outside world := by
  unfold compile
  rw [Run.bind_of_ok (Run.mapError_of_ok (World.inspect_of resolved))]
  simp only [missing]
  rfl

/-- Where nothing is in the way and the compiler leaves an artifact, this is what the store gets. -/
theorem compile_of_collected {place : Place} {names : List String} {artifact : Artifact}
    (starts : store.Starts source world place) (built : store.Builds place outside world (.ok ()) final)
    (listed : final.files.list (store.directory place.key) = .ok names)
    (collected : Artifact.collect place.path (store.directory place.key) names = .ok artifact) :
    store.compile source outside world = (.ok (artifact, store.add place.key artifact), final) := by
  have made := compileNew_of_vacant starts.vacant built
  rw [listed] at made
  rw [compile_of_missing outside starts.resolved starts.missing]
  exact Run.bind_of_ok (made.trans (congrArg (·, final) collected))

theorem compile_outcome (store : ArtifactStore) (source : String) (outside : Outside) (world : World) :
    ∃ result final, store.compile source outside world = (result, final) ∧
      Outcome store source outside world result final := by
  cases resolved : world.files.canonical source with
  | error fault =>
    exact ⟨_, _, Run.bind_of_error (Run.mapError_of_error (World.inspect_of resolved)), .unresolved resolved⟩
  | ok place =>
    cases cached : store.cached.lookup place.key with
    | some artifact => exact ⟨_, _, compile_of_lookup outside resolved cached, .known resolved cached⟩
    | none =>
      have began := compile_of_missing outside resolved cached
      by_cases vacant : world.files.isPresent (store.directory place.key) = .ok false
      · have starts : store.Starts source world place := ⟨resolved, cached, vacant⟩
        cases ran : store.compiler.build place.path (store.directory place.key) outside world with
        | mk built final =>
          have made := compileNew_of_vacant vacant ran
          cases built with
          | error reason => exact ⟨_, _, began.trans (Run.bind_of_error made), .failed starts ran⟩
          | ok value =>
            cases listed : final.files.list (store.directory place.key) with
            | error fault =>
              rw [listed] at made
              exact ⟨_, _, began.trans (Run.bind_of_error made), .useless starts ran⟩
            | ok names =>
              cases collected : Artifact.collect place.path (store.directory place.key) names with
              | error fault =>
                rw [listed] at made
                have refused := made.trans (congrArg (·, final) collected)
                exact ⟨_, _, began.trans (Run.bind_of_error refused), .useless starts ran⟩
              | ok artifact =>
                exact ⟨_, _, compile_of_collected starts ran listed collected,
                  .compiled starts ran listed collected⟩
      · obtain ⟨fault, blocked⟩ := compileNew_of_present place.path outside vacant
        exact ⟨_, _, began.trans (Run.bind_of_error blocked), .blocked resolved cached vacant⟩

/-! ### What a request leaves -/

/-- The second store has what the first one has, and makes more in the same way. -/
structure Grows (store after : ArtifactStore) : Prop where
  compiler : after.compiler = store.compiler
  scope : after.scope = store.scope
  lookup : ∀ key artifact, store.cached.lookup key = some artifact → after.cached.lookup key = some artifact

theorem Grows.refl (store : ArtifactStore) : store.Grows store :=
  ⟨rfl, rfl, fun _ _ found => found⟩

theorem Grows.trans {between : ArtifactStore} (left : store.Grows between) (right : between.Grows after) :
    store.Grows after :=
  ⟨right.compiler.trans left.compiler, right.scope.trans left.scope,
    fun key artifact found => right.lookup key artifact (left.lookup key artifact found)⟩

theorem Grows.directory (grows : store.Grows after) (key : String) : after.directory key = store.directory key := by
  rw [ArtifactStore.directory, ArtifactStore.directory, grows.scope]

theorem lookup_add (key : String) (artifact : Artifact) :
    (store.add key artifact).cached.lookup key = some artifact := by
  simp [add]

theorem add_grows {key : String} {artifact : Artifact} (missing : store.cached.lookup key = none) :
    store.Grows (store.add key artifact) := by
  refine ⟨rfl, rfl, fun other present found => ?_⟩
  have different : (other == key) = false := by
    rw [beq_eq_false_iff_ne]
    rintro rfl
    rw [missing] at found
    cases found
  rw [add, List.lookup_cons, different]
  exact found

namespace Outcome

variable {artifact : Artifact}

theorem grows (outcome : Outcome store source outside world (.ok (artifact, after)) final) : store.Grows after := by
  cases outcome with
  | known resolved found => exact .refl store
  | compiled starts built listed collected => exact add_grows starts.missing

theorem exists_resolved (outcome : Outcome store source outside world (.ok (artifact, after)) final) :
    ∃ place, world.files.canonical source = .ok place := by
  cases outcome with
  | known resolved found => exact ⟨_, resolved⟩
  | compiled starts built listed collected => exact ⟨_, starts.resolved⟩

/-- What was answered is there from then on. -/
theorem lookup {place : Place} (outcome : Outcome store source outside world (.ok (artifact, after)) final)
    (resolved : world.files.canonical source = .ok place) : after.cached.lookup place.key = some artifact := by
  cases outcome with
  | known again found =>
    rw [resolved] at again
    cases again
    exact found
  | compiled starts built listed collected =>
    have again := starts.resolved
    rw [resolved] at again
    cases again
    exact lookup_add ..

/-- What is there is answered, and nothing else happens. -/
theorem of_lookup {place : Place} (outcome : Outcome store source outside world result final)
    (resolved : world.files.canonical source = .ok place) (found : store.cached.lookup place.key = some artifact) :
    result = .ok (artifact, store) ∧ final = world := by
  cases outcome with
  | unresolved missing => rw [resolved] at missing; cases missing
  | known again foundAgain =>
    rw [resolved] at again
    cases again
    rw [found] at foundAgain
    cases foundAgain
    exact ⟨rfl, rfl⟩
  | blocked again missing present =>
    rw [resolved] at again
    cases again
    exact nomatch missing.symm.trans found
  | failed starts built => exact nomatch (starts.lookup_eq_none resolved).symm.trans found
  | useless starts built => exact nomatch (starts.lookup_eq_none resolved).symm.trans found
  | compiled starts built listed collected => exact nomatch (starts.lookup_eq_none resolved).symm.trans found

/-- The compiler is started at most once, and without it nothing happens. -/
theorem idle_or_builds (outcome : Outcome store source outside world result final) :
    final = world ∨
      ∃ place built, store.Starts source world place ∧ store.Builds place outside world built final := by
  cases outcome with
  | unresolved missing => exact .inl rfl
  | known resolved found => exact .inl rfl
  | blocked resolved missing present => exact .inl rfl
  | failed starts built => exact .inr ⟨_, _, starts, built⟩
  | useless starts built => exact .inr ⟨_, _, starts, built⟩
  | compiled starts built listed collected => exact .inr ⟨_, _, starts, built⟩

end Outcome

end ArtifactStore

end LedgerCapture
