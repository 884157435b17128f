import LedgerCapture.Width
import LedgerCapture.Decimal.Integer
import LedgerCapture.Text.Blank
import LedgerCapture.Json.Decode

/-!
Shards and blocks of the ledger. Shard numbers are printed as JSON numbers by some programs and as
decimal strings by others; both are read.
-/
namespace LedgerCapture.Ledger

structure ShardId where
  number : UInt32
  deriving DecidableEq, Repr

namespace ShardId

def greatest : Nat := Width.greatest 32

structure Invalid where
  text : String
  deriving DecidableEq, Repr

def Invalid.message (fault : Invalid) : String :=
  "Invalid shard id '" ++ fault.text ++ "'"

/-- Reads a shard number; blanks around it do not matter. -/
def parse (text : String) : Except Invalid ShardId :=
  match Decimal.readNatural greatest (Text.trimChars text.toList) with
  | .ok number => .ok ⟨UInt32.ofNat number⟩
  | .error _ => .error ⟨text⟩

def text (shard : ShardId) : String :=
  toString shard.number.toNat

def toJson (shard : ShardId) : Json :=
  .ofNat shard.number.toNat

def expectation : String := "a shard number or a decimal string"

def read (reading : Json.Reading) (draft : Json.Draft) : Except Json.DecodeError ShardId :=
  match draft with
  | .number value => do
    match ← Json.wellFormed value.read with
    | .integer value =>
      if 0 ≤ value ∧ value ≤ greatest then return ⟨UInt32.ofNat value.toNat⟩
      else throw (.refused ("shard id " ++ toString value ++ " out of range"))
    | .real value => throw (.wrongType (.real value) expectation)
  | .string value => do
    (parse (← Json.wellFormed value.read)).mapError fun fault => .refused fault.message
  | .list items ending => do
    discard reading.enter
    throw ((Json.Draft.list items ending).mismatch expectation)
  | .object members ending => do
    discard reading.enter
    throw ((Json.Draft.object members ending).mismatch expectation)
  | other => .error (other.mismatch expectation)

end ShardId

structure MessageHash where
  text : String
  deriving DecidableEq, Repr

structure BlockHash where
  text : String
  deriving DecidableEq, Repr

structure Location where
  shard : ShardId
  block : BlockHash
  deriving DecidableEq, Repr

namespace Location

def toJson (location : Location) : Json :=
  .object [("shardId", location.shard.toJson), ("blockHash", .string location.block.text)]

structure Partial where
  shard : Option ShardId
  block : Option BlockHash

def record : Json.Record Partial where
  name := "ResolvedLocation"
  fields := [
    ⟨"shardId", (·.shard.isSome), false, fun reading draft state => do
      return { state with shard := some (← ShardId.read reading draft) }⟩,
    ⟨"blockHash", (·.block.isSome), false, fun _ draft state => do
      return { state with block := some ⟨← draft.readString⟩ }⟩]

def read (reading : Json.Reading) (draft : Json.Draft) : Except Json.DecodeError Location := do
  let state ← record.read ⟨none, none⟩ reading draft
  return ⟨← Json.required "shardId" state.shard, ← Json.required "blockHash" state.block⟩

end Location

end LedgerCapture.Ledger
