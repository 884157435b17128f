import LedgerCapture.Files.Error
import LedgerCapture.Files.Path
import LedgerCapture.Keccak
import LedgerCapture.Text.Blank
import LedgerCapture.Text.Quoted
import LedgerCapture.Text.Utf8

/-!
What compiling a contract leaves: one file of bytecode and one that describes the interface. Artifacts
are known by a key that only depends on the path of the source. The key is defined for the bytes of any
path, those that are no text included, although the places of a tree of files are texts.
-/
namespace LedgerCapture

structure Artifact where
  source : String
  bytecode : String
  interface : String
  deriving DecidableEq, Repr

inductive ArtifactError where
  | sourceNotFound (path : String) (fault : SystemError)
  /-- The compiler could not be started or reported an error. -/
  | compilation (source reason : String)
  /-- The compiler left another number of files of either kind than one. -/
  | mismatch (source : String) (bytecodes interfaces : Nat)
  /-- The compiler left a file of neither kind. -/
  | unexpected (path : String)
  /-- The directory for the compiler's files is there already. -/
  | directoryExists (path : String)
  | inaccessible (fault : SystemError)
  /-- The directory for the artifacts could not be made. -/
  | unopened (path reason : String)
  deriving DecidableEq, Repr

def ArtifactError.message : ArtifactError → String
  | sourceNotFound path fault => "Contract source not found: " ++ path ++ ": " ++ fault.message
  | compilation source reason => "Compilation of " ++ source ++ " failed: " ++ reason
  | mismatch source bytecodes interfaces =>
    "Expected one .bin and one .abi file for " ++ source ++ ", found " ++ toString bytecodes ++
      " .bin and " ++ toString interfaces ++ " .abi"
  | unexpected path => "Unexpected compiler artifact: " ++ path
  | directoryExists path => "Artifact directory already exists: " ++ path
  | inaccessible fault => "IO error: " ++ fault.message
  | unopened path reason => "IO error: " ++ reason ++ " at path " ++ Text.quote path

namespace Artifact

/-! ### Keys -/

/-- The bytes that are hashed for the path of a source: the path as text, bytes that are no text replaced. -/
def keyBytes (path : List UInt8) : List UInt8 :=
  (String.ofList (Text.decodeLossy path)).toUTF8.toList

def key (path : List UInt8) : String :=
  Keccak.hexText (Keccak.hash256 (keyBytes path))

def keyOfText (path : String) : String :=
  key path.toUTF8.toList

/-! ### The compiler's files -/

def isBytecodeName (name : String) : Bool :=
  Path.extension? name == some "bin"

def isInterfaceName (name : String) : Bool :=
  Path.extension? name == some "abi"

/-- The artifact among the names that a compiler left in the directory `output`. -/
def collect (source output : String) (names : List String) : Except ArtifactError Artifact :=
  match names.find? fun name => !isBytecodeName name && !isInterfaceName name with
  | some name => .error (.unexpected (Path.join output name))
  | none =>
    match names.filter isBytecodeName, names.filter isInterfaceName with
    | [bytecode], [interface] => .ok ⟨source, Path.join output bytecode, Path.join output interface⟩
    | bytecodes, interfaces => .error (.mismatch source bytecodes.length interfaces.length)

/-- The code in a file of bytecode: its first line without the blanks around it. -/
def firstLine (content : String) : String :=
  Text.trim (String.ofList (content.toList.takeWhile (· != '\n')))

end Artifact

end LedgerCapture
