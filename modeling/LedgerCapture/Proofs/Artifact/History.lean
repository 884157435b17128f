import LedgerCapture.Proofs.Artifact.Store
import LedgerCapture.Proofs.Files.Growth

/-!
All requests for artifacts that one store serves. Between them anything may happen to the world; a source
that was answered once is answered the same from then on, and whatever the store holds was made for it.
-/
namespace LedgerCapture

open Journal

/-- A request for the artifact of a source, and what happens to the world before it. -/
structure Request where
  source : String
  meanwhile : World → World

/-- A request takes nothing away before it is made. -/
def Request.Keeps (request : Request) : Prop :=
  ∀ world : World, world.files.Lasts (request.meanwhile world).files

/-- A request as it was served: what it met, what it answered, and what it left. -/
structure Served where
  source : String
  session : Session
  world : World
  result : Except ArtifactError Artifact
  after : Session
  final : World

namespace Served

def ofRequest (source : String) (session : Session) (outside : Outside) (world : World) : Served :=
  let (result, after, final) := Stage.compile source session outside world
  ⟨source, session, world, result, after, final⟩

def Resolves (served : Served) (path : String) : Prop :=
  ∃ place : Place, served.world.files.canonical served.source = .ok place ∧ place.path = path

def compilations (served : Served) : List (String × String × Except String Unit) :=
  Journal.compilations (served.world.since served.final)

def Starts (served : Served) (output : String) : Prop :=
  ∃ path built, (path, output, built) ∈ served.compilations

/-- The artifact was made for this request: the compiler succeeded, and it left one file of each kind and
nothing besides. -/
def Makes (served : Served) (output : String) (artifact : Artifact) : Prop :=
  served.result = .ok artifact ∧ served.Resolves artifact.source ∧
    served.compilations = [(artifact.source, output, .ok ())] ∧
    ∃ names bytecode interface, served.final.files.list output = .ok names ∧
      names.Perm [bytecode, interface] ∧ Artifact.isBytecodeName bytecode ∧ Artifact.isInterfaceName interface ∧
      artifact = ⟨artifact.source, Path.join output bytecode, Path.join output interface⟩

end Served

def serve (outside : Outside) (session : Session) (world : World) : List Request → List Served
  | [] => []
  | request :: rest =>
    let served := Served.ofRequest request.source session outside (request.meanwhile world)
    served :: serve outside served.after served.final rest

/-! ### One request -/

section Single

variable {session : Session} {outside : Outside} {world : World} {source : String} {requests : List Request}
  {served : Served}

inductive Served.Done (outside : Outside) : Served → Prop where
  | answered {source : String} {session : Session} {world final : World} {artifact : Artifact} {store : ArtifactStore}
      (outcome : ArtifactStore.Outcome session.store source outside world (.ok (artifact, store)) final) :
      Done outside ⟨source, session, world, .ok artifact, { session with store }, final⟩
  | refused {source : String} {session : Session} {world final : World} {fault : ArtifactError}
      (outcome : ArtifactStore.Outcome session.store source outside world (.error fault) final) :
      Done outside ⟨source, session, world, .error fault, session, final⟩

theorem Served.done_ofRequest (source : String) (session : Session) (outside : Outside) (world : World) :
    (ofRequest source session outside world).Done outside := by
  obtain ⟨result, final, ran, outcome⟩ := session.store.compile_outcome source outside world
  unfold ofRequest
  cases result with
  | error fault =>
    rw [Stage.compile_of_error ran]
    exact .refused outcome
  | ok made =>
    obtain ⟨artifact, store⟩ := made
    rw [Stage.compile_of_ok ran]
    exact .answered outcome

namespace Served.Done

theorem outcome (done : served.Done outside) :
    ∃ result, ArtifactStore.Outcome served.session.store served.source outside served.world result served.final := by
  cases done with
  | answered outcome => exact ⟨_, outcome⟩
  | refused outcome => exact ⟨_, outcome⟩

theorem grows (done : served.Done outside) : served.session.store.Grows served.after.store := by
  cases done with
  | answered outcome => exact outcome.grows
  | refused outcome => exact .refl _

theorem after_of_error {fault : ArtifactError} (done : served.Done outside) (failed : served.result = .error fault) :
    served.after = served.session := by
  cases done with
  | answered outcome => cases failed
  | refused outcome => rfl

theorem lookup {path : String} {artifact : Artifact} (done : served.Done outside) (resolves : served.Resolves path)
    (answered : served.result = .ok artifact) :
    served.after.store.cached.lookup (Artifact.keyOfText path) = some artifact := by
  obtain ⟨place, resolved, rfl⟩ := resolves
  cases done with
  | answered outcome =>
    cases answered
    exact outcome.lookup resolved
  | refused outcome => cases answered

theorem of_lookup {path : String} {artifact : Artifact} (done : served.Done outside) (resolves : served.Resolves path)
    (found : served.session.store.cached.lookup (Artifact.keyOfText path) = some artifact) :
    served.result = .ok artifact ∧ served.final = served.world := by
  obtain ⟨place, resolved, rfl⟩ := resolves
  cases done with
  | answered outcome =>
    obtain ⟨same, rfl⟩ := outcome.of_lookup resolved found
    cases same
    exact ⟨rfl, rfl⟩
  | refused outcome => exact nomatch (outcome.of_lookup resolved found).1

/-- The compiler is started at most once, with the directory of the key and only if nothing is there. -/
theorem starts (done : served.Done outside) :
    (served.compilations = [] ∧ served.final = served.world) ∨
    ∃ path built, served.Resolves path ∧
      served.world.files.isPresent (served.session.store.directory (Artifact.keyOfText path)) = .ok false ∧
      served.compilations = [(path, served.session.store.directory (Artifact.keyOfText path), built)] := by
  obtain ⟨result, outcome⟩ := done.outcome
  rcases outcome.idle_or_builds with same | ⟨place, built, starts, builds⟩
  · refine .inl ⟨?_, same⟩
    rw [Served.compilations, same, (World.Leads.refl _).compilations_since]
    rfl
  · refine .inr ⟨place.path, built, ⟨place, starts.resolved, rfl⟩, starts.vacant, ?_⟩
    rw [Served.compilations, builds.leads.compilations_since]
    rfl

theorem lasts (done : served.Done outside) (keeps : served.session.store.compiler.Keeps) :
    served.world.files.Lasts served.final.files := by
  obtain ⟨result, outcome⟩ := done.outcome
  rcases outcome.idle_or_builds with same | ⟨place, built, starts, builds⟩
  · rw [same]
    exact .refl _
  · have kept := keeps place.path (served.session.store.directory place.key) outside served.world
    simp only [ArtifactStore.Builds, Compiler.build, Prod.mk.injEq] at builds
    rw [← builds.2]
    exact kept

/-- What the store has after a request is what it had before, or it was made for the request. -/
theorem cached {entry : String × Artifact} (done : served.Done outside)
    (member : entry ∈ served.after.store.cached) :
    entry ∈ served.session.store.cached ∨
      entry.1 = Artifact.keyOfText entry.2.source ∧ served.Makes (served.session.store.directory entry.1) entry.2 := by
  cases done with
  | refused outcome => exact .inl member
  | answered outcome =>
    cases outcome with
    | known resolved found => exact .inl member
    | @compiled place names artifact final starts built listed collected =>
      rcases List.mem_cons.mp member with rfl | earlier
      · obtain ⟨bytecode, interface, perm, isBytecode, isInterface, rfl⟩ := Artifact.collect_eq_ok_iff.mp collected
        refine .inr ⟨rfl, rfl, ⟨place, starts.resolved, rfl⟩, ?_, names, bytecode, interface, listed, perm,
          isBytecode, isInterface, rfl⟩
        exact ArtifactStore.Builds.leads built |>.compilations_since
      · exact .inl earlier

end Served.Done

end Single

/-! ### All requests -/

section History

variable {outside : Outside} {session : Session} {world : World} {requests : List Request} {served : Served}

theorem done_of_mem (member : served ∈ serve outside session world requests) : served.Done outside := by
  induction requests generalizing session world with
  | nil => cases member
  | cons request rest ih =>
    rcases List.mem_cons.mp member with rfl | later
    · exact Served.done_ofRequest ..
    · exact ih later

/-- Every request finds what the store had at the start. -/
theorem grows_of_mem (member : served ∈ serve outside session world requests) :
    session.store.Grows served.session.store := by
  induction requests generalizing session world with
  | nil => cases member
  | cons request rest ih =>
    have done := Served.done_ofRequest request.source session outside (request.meanwhile world)
    rcases List.mem_cons.mp member with rfl | later
    · exact .refl _
    · exact done.grows.trans (ih later)

theorem lasts_of_mem (keeps : session.store.compiler.Keeps) (between : ∀ request ∈ requests, request.Keeps)
    (member : served ∈ serve outside session world requests) : world.files.Lasts served.world.files := by
  induction requests generalizing session world with
  | nil => cases member
  | cons request rest ih =>
    have before := between request (List.mem_cons_self ..) world
    have done := Served.done_ofRequest request.source session outside (request.meanwhile world)
    rcases List.mem_cons.mp member with rfl | later
    · exact before
    · have made := done.lasts keeps
      have keepsAfter : (Served.ofRequest request.source session outside
          (request.meanwhile world)).after.store.compiler.Keeps := done.grows.compiler ▸ keeps
      exact before.trans (made.trans
        (ih keepsAfter (fun request member => between request (List.mem_cons_of_mem _ member)) later))

theorem pairwise_grows (outside : Outside) (session : Session) (world : World) (requests : List Request) :
    (serve outside session world requests).Pairwise fun first later =>
      first.after.store.Grows later.session.store := by
  induction requests generalizing session world with
  | nil => exact .nil
  | cons request rest ih => exact .cons (fun later member => grows_of_mem member) (ih _ _)

theorem pairwise_lasts (keeps : session.store.compiler.Keeps) (between : ∀ request ∈ requests, request.Keeps) :
    (serve outside session world requests).Pairwise fun first later =>
      first.final.files.Lasts later.world.files := by
  induction requests generalizing session world with
  | nil => exact .nil
  | cons request rest ih =>
    have done := Served.done_ofRequest request.source session outside (request.meanwhile world)
    have keepsAfter : (Served.ofRequest request.source session outside
        (request.meanwhile world)).after.store.compiler.Keeps := done.grows.compiler ▸ keeps
    have betweenAfter : ∀ request ∈ rest, request.Keeps :=
      fun request member => between request (List.mem_cons_of_mem _ member)
    exact .cons (fun later member => lasts_of_mem keepsAfter betweenAfter member) (ih keepsAfter betweenAfter)

/-- What the store has after a request it had at the start, or it was made by then. -/
theorem cached_of_eq {past rest : List Served} (same : serve outside session world requests = past ++ served :: rest)
    {entry : String × Artifact} (member : entry ∈ served.after.store.cached) :
    entry ∈ session.store.cached ∨ ∃ made ∈ past ++ [served], entry.1 = Artifact.keyOfText entry.2.source ∧
      made.Makes (session.store.directory entry.1) entry.2 := by
  induction requests generalizing session world past with
  | nil => cases past <;> cases same
  | cons request requests ih =>
    have done := Served.done_ofRequest request.source session outside (request.meanwhile world)
    cases past with
    | nil =>
      obtain ⟨rfl, -⟩ := List.cons.inj same
      rcases done.cached member with earlier | ⟨key, makes⟩
      · exact .inl earlier
      · exact .inr ⟨_, List.mem_singleton_self _, key, makes⟩
    | cons first past =>
      obtain ⟨rfl, sameRest⟩ := List.cons.inj same
      rcases ih sameRest with earlier | ⟨made, memberPast, key, makes⟩
      · rcases done.cached earlier with earliest | ⟨key, makes⟩
        · exact .inl earliest
        · exact .inr ⟨_, List.mem_cons_self .., key, makes⟩
      · rw [done.grows.directory] at makes
        exact .inr ⟨made, List.mem_cons_of_mem _ memberPast, key, makes⟩

/-- What is known of all requests to a store that had no artifacts at the start. -/
structure Account (compiler : Compiler) (scope : Scope) (requests : List Request) (history : List Served) : Prop where
  /-- A path that was answered once is answered the same from then on, and nothing else happens. -/
  once : history.Pairwise fun first later => ∀ path artifact, first.Resolves path → later.Resolves path →
    first.result = .ok artifact → later.result = .ok artifact ∧ later.final = later.world
  /-- The compiler is started at most once for a request, with the directory of the path's key and only if
  nothing is there yet. -/
  starts : ∀ served ∈ history, (served.compilations = [] ∧ served.final = served.world) ∨
    ∃ path built, served.Resolves path ∧
      served.world.files.isPresent (Path.join scope.path (Artifact.keyOfText path)) = .ok false ∧
      served.compilations = [(path, Path.join scope.path (Artifact.keyOfText path), built)]
  /-- Where nothing is taken away, a directory that a start has left is never used for another start. -/
  single : compiler.Keeps → (∀ request ∈ requests, request.Keeps) → history.Pairwise fun first later =>
    ∀ output, first.Starts output → later.Starts output → first.final.files.isPresent output ≠ .ok true
  program : ∀ settings, compiler = .ofProgram settings → compiler.Keeps
  /-- What was answered is in the store, under the key of the path. -/
  cached : ∀ served ∈ history, ∀ path artifact, served.Resolves path → served.result = .ok artifact →
    served.after.store.cached.lookup (Artifact.keyOfText path) = some artifact
  failed : ∀ served ∈ history, ∀ fault, served.result = .error fault → served.after = served.session
  /-- Every artifact in the store was made for a request. -/
  made : ∀ past served rest, history = past ++ served :: rest → ∀ key artifact,
    (key, artifact) ∈ served.after.store.cached → key = Artifact.keyOfText artifact.source ∧
      ∃ maker ∈ past ++ [served], maker.Makes (Path.join scope.path key) artifact

/-- Whatever sources are asked for, whatever the compiler does and whatever happens in between: no path is
compiled again once it has an artifact, and the store only has what was compiled without fault. -/
theorem serve_account (compiler : Compiler) (scope : Scope) (registry : Registry) (outside : Outside) (world : World)
    (requests : List Request) :
    Account compiler scope requests (serve outside ⟨registry, .empty compiler scope⟩ world requests) := by
  have starts : ∀ served ∈ serve outside ⟨registry, .empty compiler scope⟩ world requests,
      (served.compilations = [] ∧ served.final = served.world) ∨
      ∃ path built, served.Resolves path ∧
        served.world.files.isPresent (Path.join scope.path (Artifact.keyOfText path)) = .ok false ∧
        served.compilations = [(path, Path.join scope.path (Artifact.keyOfText path), built)] := by
    intro served member
    have directory := (grows_of_mem member).directory
    have cases := (done_of_mem member).starts
    simp only [directory] at cases
    exact cases
  refine ⟨?_, starts, ?_, ?_, ?_, ?_, ?_⟩
  · refine (pairwise_grows ..).imp_of_mem fun memberFirst memberLater grows path artifact resolves again answered => ?_
    have kept := (done_of_mem memberFirst).lookup resolves answered
    exact (done_of_mem memberLater).of_lookup again (grows.lookup _ _ kept)
  · intro keeps between
    have lasting : (serve outside ⟨registry, .empty compiler scope⟩ world requests).Pairwise fun first later =>
        first.final.files.Lasts later.world.files := pairwise_lasts keeps between
    refine lasting.imp_of_mem fun _ memberLater lasts output _ again present => ?_
    obtain ⟨path, built, member⟩ := again
    rcases starts _ memberLater with ⟨none, -⟩ | ⟨path', built', -, vacant, one⟩
    · rw [none] at member
      cases member
    · rw [one] at member
      cases List.mem_singleton.mp member
      exact nomatch (lasts _ present).symm.trans vacant
  · rintro settings rfl
    exact Compiler.ofProgram_keeps settings
  · exact fun served member path artifact resolves answered => (done_of_mem member).lookup resolves answered
  · exact fun served member fault failed => (done_of_mem member).after_of_error failed
  · intro past served rest same key artifact member
    rcases cached_of_eq same member with earlier | ⟨maker, memberPast, key, makes⟩
    · cases earlier
    · exact ⟨key, maker, memberPast, makes⟩

end History

end LedgerCapture
