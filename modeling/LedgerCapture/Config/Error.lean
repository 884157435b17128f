import LedgerCapture.Contract
import LedgerCapture.Toml.Decode

/-!
Why a configuration is not accepted.
-/
namespace LedgerCapture

inductive ParseFault where
  | tomlSyntax
  | toml (fault : Toml.DecodeError)
  | blockSyntax (fault : Json.DecodeError)
  | block (fault : Json.DecodeError)
  deriving DecidableEq

def ParseFault.message : ParseFault → String
  | tomlSyntax => "the text is no TOML document"
  | toml fault => fault.message
  | blockSyntax fault => "Invalid block config JSON: " ++ fault.message
  | block fault => "Invalid block config: " ++ fault.message

inductive ConfigError where
  /-- The file cannot be read. -/
  | unreadable (path reason : String)
  /-- The text does not have the form of a configuration. -/
  | parse (fault : ParseFault)
  /-- The configuration breaks a rule. -/
  | invalid (reason : String)
  | duplicateContract (id : ContractId)
  deriving DecidableEq

def ConfigError.message : ConfigError → String
  | unreadable path reason => "IO error: Cannot read " ++ path ++ ": " ++ reason
  | parse fault => "Configuration error: " ++ fault.message
  | invalid reason => "Validation error: " ++ reason
  | duplicateContract id => "Duplicated contract id: " ++ id.text

end LedgerCapture
