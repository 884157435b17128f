import LedgerCapture.CommandLine.Execution
import LedgerCapture.Rehearsal.Description

/-!
The program. It carries out its command line in a rehearsal that standard input describes, prints what the
command prints, and reports a failure on standard error.
-/
namespace LedgerCapture

def rehearsalDirectory : Place := ["rehearsal"]

def rehearse (arguments : List String) (description : String) : Except String CommandLine.Ending := do
  let document ← (Json.parse .limited description).mapError fun fault =>
    "the rehearsal is not described: " ++ fault.message
  let setting := Rehearsal.setting rehearsalDirectory document
  return (CommandLine.execute setting.environment arguments setting.outside setting.world).1

end LedgerCapture

open LedgerCapture in
def main (arguments : List String) : IO UInt32 := do
  let description ← (← IO.getStdin).readToEnd
  match rehearse arguments description with
  | .error problem =>
    IO.eprintln problem
    return 2
  | .ok ending =>
    IO.print ending.text
    match ending.problem with
    | some problem => IO.eprintln ("Error: " ++ problem)
    | none => pure ()
    return UInt32.ofNat ending.exitCode
