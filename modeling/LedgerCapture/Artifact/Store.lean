import LedgerCapture.Artifact.Basic
import LedgerCapture.Config.Settings
import LedgerCapture.World.Basic

/-!
Compiling contracts, each source at most once in a run. All artifacts of a run are kept below one
directory, its scope, that is removed at the end as far as the system permits.
-/
namespace LedgerCapture

/-- Compiles a source into a directory that it makes. A failure is told by what the compiler reports. -/
structure Compiler where
  compile : (source output : String) → Run String Unit
  compile_adds : ∀ source output, Run.Adds Event.isCarrier (compile source output)

namespace Compiler

def build (compiler : Compiler) (source output : String) : Run String Unit :=
  fun outside world =>
    let (result, world) := compiler.compile source output outside world
    (result, world.record (.compiled source output result))

def start (settings : Config.Compiler) (source output : String) : ProcessStart :=
  ⟨settings.binary, ["-o", output, "--bin", "--abi"] ++ settings.extraArguments ++ [source]⟩

def ofProgram (settings : Config.Compiler) : Compiler where
  compile source output := do
    let result ← (start settings source output).run.mapError fun fault =>
      "cannot run " ++ settings.binary ++ ": " ++ fault.message
    if result.success then return ()
    else throw (Text.trim (Text.lossy result.stderr))
  compile_adds source output := by
    apply Run.Adds.bind (Run.Adds.mapError _ (start settings source output).run_adds)
    intro result
    split
    · exact Run.Adds.pure _
    · exact Run.Adds.throw _

end Compiler

/-- The directory that holds the artifacts of a run: its path as the compiler gets it, and its place. -/
structure Scope where
  path : String
  place : Place

namespace Scope

/-- What comes of a path for a new directory, unless something is there already. -/
def openAt? (files : Files) (path : String) : Option (Except ArtifactError Scope) :=
  match files.vacant path with
  | .ok place => some (.ok ⟨path, place⟩)
  | .error .present => none
  | .error fault => some (.error (.unopened path fault.message))

def firstFree (files : Files) (parent : String) (names : List String) : Except ArtifactError Scope :=
  (names.findSome? fun name => openAt? files (Path.join parent name)).getD
    (.error (.unopened parent "too many temporary files exist"))

/-- Makes a new directory below `base`, which is made too if it is missing, or below the temporary
directory. -/
def create (base : Option String) : Run ArtifactError Scope := do
  match base with
  | some base => (World.alter (·.makeDirectories base)).mapError .inaccessible
  | none => pure ()
  fun outside world =>
    let parent := Path.join world.files.current.path (base.getD outside.temporaryDirectory)
    match firstFree world.files parent (outside.scopeNames world.journal) with
    | .ok scope => (.ok scope, { world with files := world.files.put scope.place .directory })
    | .error fault => (.error fault, world)

/-- The world after the scope and all that is in it are removed. What cannot be taken away stays, and nothing
is said of it. -/
def discard (scope : Scope) (outside : Outside) (world : World) : World :=
  { world with files := world.files.removeTreeBut (outside.keeps world.journal) scope.place }

end Scope

structure ArtifactStore where
  compiler : Compiler
  scope : Scope
  cached : List (String × Artifact)

namespace ArtifactStore

def empty (compiler : Compiler) (scope : Scope) : ArtifactStore :=
  ⟨compiler, scope, []⟩

def directory (store : ArtifactStore) (key : String) : String :=
  Path.join store.scope.path key

def compileNew (store : ArtifactStore) (source key : String) : Run ArtifactError Artifact := do
  let output := store.directory key
  if ← (World.inspect (·.isPresent output)).mapError .inaccessible then
    throw (.directoryExists output)
  (store.compiler.build source output).mapError (.compilation source)
  let names ← (World.inspect (·.list output)).mapError .inaccessible
  Run.lift (Artifact.collect source output names)

/-- The artifact of a source, and the store that has it. Only the first request for a source reaches the
compiler; a request that fails leaves the store as it was. -/
def compile (store : ArtifactStore) (source : String) : Run ArtifactError (Artifact × ArtifactStore) := do
  let place ← (World.inspect (·.canonical source)).mapError (.sourceNotFound source)
  let key := Artifact.keyOfText place.path
  match store.cached.lookup key with
  | some artifact => return (artifact, store)
  | none =>
    let artifact ← store.compileNew place.path key
    return (artifact, { store with cached := (key, artifact) :: store.cached })

end ArtifactStore

def Artifact.readBytecode (artifact : Artifact) : Run ArtifactError String := do
  let content ← (World.inspect (·.readText artifact.bytecode)).mapError .inaccessible
  return Artifact.firstLine content

end LedgerCapture
