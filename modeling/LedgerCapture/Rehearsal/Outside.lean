import LedgerCapture.Gateway.Rpc
import LedgerCapture.Rehearsal.Process

/-!
The outside of a rehearsal: programs are scripted, endpoints too if there is a script for them, directories are
removed as a whole, and chance is replaced by counting.
-/
namespace LedgerCapture.Rehearsal

def drawCount (journal : Journal) : Nat :=
  (journal.filter fun event =>
    match event with
    | .salt _ => true
    | _ => false).length

def scopeStart : String := "blockgen-artifacts-"

/-- Six letters that tell numbers below 26^6 apart. -/
def letters : Nat → Nat → List Char
  | 0, _ => []
  | count + 1, number => letters count (number / 26) ++ [Char.ofNat (97 + number % 26)]

def scopeNames (journal : Journal) : List String :=
  (List.range 26).map fun draw => scopeStart ++ String.ofList (letters 6 (26 * journal.length + draw))

/-- The outside of a rehearsal that starts with the given files and has no endpoint that answers. -/
def outside (files : Files) (temporaryDirectory : String) (script : List ScriptedProcess) : Outside where
  process := startProcess files script
  request _ _ := .unreachable
  salt journal := UInt64.ofNat ((drawCount journal + 1) * 11400714819323198485)
  scopeNames := scopeNames
  temporaryDirectory := temporaryDirectory
  keeps _ _ := false
  launch _ start := (findProgram files start).map fun _ => ()
  nodeStatus := nodeStatus files
  terminate := terminate files
  kill _ := .ok ()

/-- The outside with endpoints that give the answers one after the other. When all are given they are out of
service. -/
def answering (answers : List HttpAnswer) (outside : Outside) : Outside :=
  { outside with
    request := fun journal _ => answers.getD (journal.filter RemoteNode.isRequest).length (.answered 503 (.ok "")) }

end LedgerCapture.Rehearsal
