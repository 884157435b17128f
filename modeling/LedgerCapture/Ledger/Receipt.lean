import LedgerCapture.Ledger.Address
import LedgerCapture.Ledger.Shard

/-!
Receipts. Executing a message may send further messages, each with a receipt of its own; the ledger
reports them as one tree below the receipt of the first message. `Receipt.preorder` lists the tree as
it is searched: a receipt, then those below it, in the order reported.
-/
namespace LedgerCapture.Ledger

inductive Receipt where
  | mk (contract : Address) (shard : ShardId) (block : BlockHash) (sent : List Receipt)

namespace Receipt

def contract : Receipt → Address
  | mk contract _ _ _ => contract

def shard : Receipt → ShardId
  | mk _ shard _ _ => shard

def block : Receipt → BlockHash
  | mk _ _ block _ => block

def sent : Receipt → List Receipt
  | mk _ _ _ sent => sent

def location (receipt : Receipt) : Location :=
  ⟨receipt.shard, receipt.block⟩

mutual

/-- The tree as a list, each receipt before those below it, with its depth. -/
def flatten (depth : Nat) : Receipt → List (Nat × Receipt)
  | mk contract shard block sent => (depth, mk contract shard block sent) :: flattenAll (depth + 1) sent

def flattenAll (depth : Nat) : List Receipt → List (Nat × Receipt)
  | [] => []
  | receipt :: rest => flatten depth receipt ++ flattenAll depth rest

end

def preorder (receipt : Receipt) : List Receipt :=
  (receipt.flatten 0).map Prod.snd

mutual

def size : Receipt → Nat
  | mk _ _ _ sent => sizeAll sent + 1

def sizeAll : List Receipt → Nat
  | [] => 0
  | receipt :: rest => size receipt + sizeAll rest

end

theorem sizeAll_append (left right : List Receipt) :
    sizeAll (left ++ right) = sizeAll left + sizeAll right := by
  induction left with
  | nil => simp [sizeAll]
  | cons receipt rest ih => simp only [List.cons_append, sizeAll, ih]; omega

/-- Searches a stack of trees: takes the first, and if it is not the one wanted puts those below it on
top. However deep a tree is, the search needs no more than this stack. -/
def searchStack (target : Address) : List Receipt → Option Receipt
  | [] => none
  | receipt :: rest =>
    if receipt.contract = target then some receipt else searchStack target (receipt.sent ++ rest)
termination_by stack => sizeAll stack
decreasing_by
  cases receipt
  simp only [sizeAll_append, sizeAll, size, sent]
  omega

def find? (target : Address) (receipt : Receipt) : Option Receipt :=
  searchStack target [receipt]

/-! ### Reading -/

structure Partial where
  contract : Option Address
  shard : Option ShardId
  block : Option BlockHash
  sent : Option (List Receipt)

namespace Partial

def empty : Partial := ⟨none, none, none, none⟩

/-- The receipt, if all that it must have has been read. Without a list of sent messages there are none. -/
def finish (state : Partial) : Except Json.DecodeError Receipt :=
  match state with
  | ⟨some contract, some shard, some block, sent⟩ => .ok (.mk contract shard block (sent.getD []))
  | ⟨none, _, _, _⟩ => .error (.missingField "contractAddress")
  | ⟨_, none, _, _⟩ => .error (.missingField "shardId")
  | ⟨_, _, none, _⟩ => .error (.missingField "blockHash")

end Partial

def expectation : String := "struct ReceiptNode"

def once {α : Type} (name : String) (present : Option α) : Except Json.DecodeError Unit :=
  match present with
  | none => .ok ()
  | some _ => .error (.duplicateField name)

def tooShort (ending : Json.Ending) (count : Nat) : Except Json.DecodeError Receipt := do
  Json.failIf ending.listFault?
  throw (.wrongLength count (expectation ++ " with 4 elements"))

mutual

/-- Reads a receipt from an object, or from an array of its fields in order. -/
def read (reading : Json.Reading) : Json.Draft → Except Json.DecodeError Receipt
  | .object members ending => do
    let inner ← reading.enter
    let state ← readMembers inner .empty members
    Json.failIf ending.objectFault?
    state.finish
  | .list items ending => do
    let inner ← reading.enter
    readFields inner ending items
  | .missing fault => .error ((Json.Draft.missing fault).mismatch expectation)
  | .literal value => .error ((Json.Draft.literal value).mismatch expectation)
  | .number value => .error ((Json.Draft.number value).mismatch expectation)
  | .string value => .error ((Json.Draft.string value).mismatch expectation)

def readMembers (reading : Json.Reading) (state : Partial) :
    List (Json.Scalar String × Json.Draft) → Except Json.DecodeError Partial
  | [] => .ok state
  | (key, value) :: rest => do
    let name ← Json.wellFormed key.read
    if name = "contractAddress" then
      once name state.contract
      readMembers reading { state with contract := some (← Address.read value) } rest
    else if name = "shardId" then
      once name state.shard
      readMembers reading { state with shard := some (← ShardId.read reading value) } rest
    else if name = "blockHash" then
      once name state.block
      readMembers reading { state with block := some ⟨← value.readString⟩ } rest
    else if name = "outputReceipts" then
      once name state.sent
      readMembers reading { state with sent := some (← readSent reading value) } rest
    else
      value.skip
      readMembers reading state rest

/-- Reads the fields of a receipt in order. The last one may be left out. -/
def readFields (reading : Json.Reading) (ending : Json.Ending) :
    List Json.Draft → Except Json.DecodeError Receipt
  | [] => tooShort ending 0
  | [contract] => do
    discard (Address.read contract)
    tooShort ending 1
  | [contract, shard] => do
    discard (Address.read contract)
    discard (ShardId.read reading shard)
    tooShort ending 2
  | contract :: shard :: block :: rest => do
    let contract ← Address.read contract
    let shard ← ShardId.read reading shard
    let block ← block.readString
    match rest with
    | [] => do
      Json.failIf ending.listFault?
      return mk contract shard ⟨block⟩ []
    | sent :: surplus => do
      let sent ← readSent reading sent
      match surplus with
      | [] => do
        Json.failIf ending.surplusFault?
        return mk contract shard ⟨block⟩ sent
      | _ :: _ => throw (.malformed .trailingCharacters)

/-- Reads the receipts of the messages sent; null stands for none. -/
def readSent (reading : Json.Reading) : Json.Draft → Except Json.DecodeError (List Receipt)
  | .literal .null => .ok []
  | .literal (.boolean value) => .error ((Json.Draft.literal (.boolean value)).mismatch "a sequence")
  | .list items ending => do
    let inner ← reading.enter
    let receipts ← readAll inner items
    Json.failIf ending.listFault?
    return receipts
  | .missing fault => .error ((Json.Draft.missing fault).mismatch "a sequence")
  | .number value => .error ((Json.Draft.number value).mismatch "a sequence")
  | .string value => .error ((Json.Draft.string value).mismatch "a sequence")
  | .object members ending => .error ((Json.Draft.object members ending).mismatch "a sequence")

def readAll (reading : Json.Reading) : List Json.Draft → Except Json.DecodeError (List Receipt)
  | [] => .ok []
  | item :: rest => do
    let receipt ← read reading item
    return receipt :: (← readAll reading rest)

end

end Receipt

end LedgerCapture.Ledger
