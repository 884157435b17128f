import LedgerCapture.Json.Decode

/-!
What a block configuration lists: contracts with the sources they are compiled from, and the calls to
replay against them.
-/
namespace LedgerCapture

structure ContractId where
  number : UInt64
  deriving DecidableEq, Repr

namespace ContractId

def text (id : ContractId) : String :=
  toString id.number.toNat

def toJson (id : ContractId) : Json :=
  .ofNat id.number.toNat

def read (draft : Json.Draft) : Except Json.DecodeError ContractId := do
  return ⟨UInt64.ofNat (← draft.readNatural)⟩

end ContractId

structure Contract where
  id : ContractId
  path : String
  deriving DecidableEq, Repr

namespace Contract

def toJson (contract : Contract) : Json :=
  .object [("id", contract.id.toJson), ("path", .string contract.path)]

structure Partial where
  id : Option ContractId
  path : Option String

def record : Json.Record Partial where
  name := "ContractSpec"
  fields := [
    ⟨"id", (·.id.isSome), false, fun _ draft state => do
      return { state with id := some (← ContractId.read draft) }⟩,
    ⟨"path", (·.path.isSome), false, fun _ draft state => do
      return { state with path := some (← draft.readPath) }⟩]

def read (reading : Json.Reading) (draft : Json.Draft) : Except Json.DecodeError Contract := do
  let state ← record.read ⟨none, none⟩ reading draft
  return ⟨← Json.required "id" state.id, ← Json.required "path" state.path⟩

end Contract

/-- A call of a contract's method. The arguments are passed on as they are. -/
structure Call where
  contract : ContractId
  method : String
  arguments : List String
  deriving DecidableEq, Repr

namespace Call

def toJson (call : Call) : Json :=
  .object [("contractId", call.contract.toJson), ("methodName", .string call.method),
    ("callArguments", .list (call.arguments.map .string))]

structure Partial where
  contract : Option ContractId
  method : Option String
  arguments : Option (List String)

/-- Calls as JSON records. Without arguments the list may be left out. -/
def record : Json.Record Partial where
  name := "TransactionIntent"
  fields := [
    ⟨"contractId", (·.contract.isSome), false, fun _ draft state => do
      return { state with contract := some (← ContractId.read draft) }⟩,
    ⟨"methodName", (·.method.isSome), false, fun _ draft state => do
      return { state with method := some (← draft.readString) }⟩,
    ⟨"callArguments", (·.arguments.isSome), true, fun reading draft state => do
      return { state with
        arguments := some (← Json.Draft.readList (fun _ item => item.readString) reading draft) }⟩]

def read (reading : Json.Reading) (draft : Json.Draft) : Except Json.DecodeError Call := do
  let state ← record.read ⟨none, none, none⟩ reading draft
  return ⟨← Json.required "contractId" state.contract, ← Json.required "methodName" state.method,
    state.arguments.getD []⟩

end Call

end LedgerCapture
