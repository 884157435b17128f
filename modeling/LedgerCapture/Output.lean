import LedgerCapture.Json.Printer
import LedgerCapture.World.Basic

/-!
Writing documents into files.
-/
namespace LedgerCapture

structure OutputError where
  path : String
  fault : SystemError
  deriving DecidableEq, Repr

def OutputError.message (error : OutputError) : String :=
  "Cannot write " ++ error.path ++ ": " ++ error.fault.message

def writeDocument (path : String) (document : Json) : Run OutputError Unit :=
  (World.alter (·.write path document.fileText.toUTF8)).mapError (⟨path, ·⟩)

end LedgerCapture
