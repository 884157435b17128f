import LedgerCapture.Config.Error
import LedgerCapture.Schema
import LedgerCapture.Text.Blank

/-!
Block configurations: JSON documents that list the contracts to deploy and the calls to replay. A
document is checked against a strict schema before it is read, and no contract may have the number of
an earlier one.
-/
namespace LedgerCapture

structure BlockConfig where
  contracts : List Contract
  calls : List Call
  deriving DecidableEq, Repr

namespace BlockConfig

def checkString (accepts : String → Bool) (reason : String) : Check := fun value =>
  match value with
  | .string text => if accepts text then .ok () else .error reason
  | _ => .error reason

def idType : FieldType := .integer (some 0) none

def contractSchema : Schema :=
  .mk [Schema.field "id" idType,
    Schema.checkedField "path" .string
      (checkString (fun path => !Text.isBlankText path) "contract path cannot be empty")] [] true

def callSchema : Schema :=
  .mk [Schema.field "contractId" idType,
    Schema.checkedField "methodName" .string (checkString (· != "") "method name cannot be empty")]
    [Schema.field "callArguments" (.list .string)] true

def schema : Schema :=
  .mk [Schema.field "contracts" (.list (.object contractSchema)),
    Schema.field "transactions" (.list (.object callSchema))] [] true

def toJson (config : BlockConfig) : Json :=
  .object [("contracts", .list (config.contracts.map Contract.toJson)),
    ("transactions", .list (config.calls.map Call.toJson))]

structure Partial where
  contracts : Option (List Contract)
  calls : Option (List Call)

def record : Json.Record Partial where
  name := "BlockConfig"
  fields := [
    ⟨"contracts", (·.contracts.isSome), false, fun reading draft state => do
      return { state with contracts := some (← Json.Draft.readList Contract.read reading draft) }⟩,
    ⟨"transactions", (·.calls.isSome), false, fun reading draft state => do
      return { state with calls := some (← Json.Draft.readList Call.read reading draft) }⟩]

def read (reading : Json.Reading) (draft : Json.Draft) : Except Json.DecodeError BlockConfig := do
  let state ← record.read ⟨none, none⟩ reading draft
  return ⟨← Json.required "contracts" state.contracts, ← Json.required "transactions" state.calls⟩

/-- The first number that a contract shares with one before it. -/
def duplicate? : List ContractId → List Contract → Option ContractId
  | _, [] => none
  | seen, contract :: rest =>
    if contract.id ∈ seen then some contract.id else duplicate? (contract.id :: seen) rest

def ofDocument (document : Json) : Except ConfigError BlockConfig := do
  (schema.validate document).mapError (.invalid ·.message)
  let config ← (read .ofDocument (.ofJson document)).mapError fun fault => .parse (.block fault)
  match duplicate? [] config.contracts with
  | some id => throw (.duplicateContract id)
  | none => return config

def parse (text : String) : Except ConfigError BlockConfig := do
  let document ← (Json.parse .limited text).mapError fun fault => .parse (.blockSyntax fault)
  ofDocument document

end BlockConfig

end LedgerCapture
