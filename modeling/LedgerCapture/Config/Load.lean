import LedgerCapture.Config.Block
import LedgerCapture.Config.Reader
import LedgerCapture.World.Basic

/-!
Configurations from files.
-/
namespace LedgerCapture

def Config.loadText (path : String) : Run ConfigError String :=
  (World.inspect (·.readText path)).mapError fun fault => .unreadable path fault.message

def Config.load (environment : Config.Environment) (path : String) : Run ConfigError Config := do
  Run.lift (Config.parse environment (← Config.loadText path))

def BlockConfig.load (path : String) : Run ConfigError BlockConfig := do
  Run.lift (BlockConfig.parse (← Config.loadText path))

end LedgerCapture
