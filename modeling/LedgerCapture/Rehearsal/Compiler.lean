import LedgerCapture.Artifact.Store

/-!
A compiler that follows a script. It knows sources by the names of their files.
-/
namespace LedgerCapture.Rehearsal

/-- What the compiler does with a source: the files that it writes, the reason why it fails, if it does,
and whether it fails before it makes a directory. -/
structure ScriptedCompilation where
  files : List (String × ByteArray)
  failure : Option String
  withoutDirectory : Bool

/-- What the compiler does with a source that is not in the script. -/
def ScriptedCompilation.usual (name : String) : ScriptedCompilation where
  files := [(Path.stem name ++ ".bin", "6080604052\n".toUTF8), (Path.stem name ++ ".abi", "[]".toUTF8)]
  failure := none
  withoutDirectory := false

def compiler (script : List (String × ScriptedCompilation)) : Compiler where
  compile source output := fun _ world =>
    let name := (Path.fileName? source).getD ""
    let compilation := (script.lookup name).getD (.usual name)
    let files :=
      if compilation.withoutDirectory then world.files else world.files.deposit ⟨output, compilation.files⟩
    let result :=
      match compilation.failure with
      | some reason => .error reason
      | none => .ok ()
    (result, { world with files })
  compile_adds _ _ := fun _ _ => .of_journal_eq rfl

end LedgerCapture.Rehearsal
