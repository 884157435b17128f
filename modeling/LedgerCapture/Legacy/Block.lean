import LedgerCapture.Width
import LedgerCapture.Config.Settings
import LedgerCapture.Decimal.Integer
import LedgerCapture.Json.Decode
import LedgerCapture.Text.Blank

/-!
Blocks in the legacy form, which keeps nothing of a fetched block but its messages. Each of them shows
up twice, as a transaction and as an input message; all else is configured.
-/
namespace LedgerCapture.Legacy

/-! ### Messages of a fetched block -/

structure Message where
  sender : String
  receiver : String
  value : Nat
  gasPrice : Nat
  gasUsed : Nat
  data : String
  deriving DecidableEq, Repr

def greatestValue : Nat := Width.greatest 128

def greatestGas : Nat := Width.greatest 64

/-- The amount that a document stands for: a natural number, or a string of its digits. -/
def amount (greatest : Nat) : Json → Except String Nat
  | .number (.integer value) =>
    if 0 ≤ value ∧ value ≤ Json.greatestInteger ∧ value ≤ greatest then .ok value.toNat
    else .error (toString value ++ " is not a non-negative integer")
  | .number number => .error (number.render ++ " is not a non-negative integer")
  | .string text =>
    (Decimal.readNatural greatest (Text.trimChars text.toList)).mapError fun fault =>
      "'" ++ text ++ "' is not a decimal integer: " ++ fault.message
  | other => .error ("expected integer, got " ++ other.compact)

def readAmount (greatest : Nat) (reading : Json.Reading) (draft : Json.Draft) :
    Except Json.DecodeError Nat := do
  (amount greatest (← draft.readJson reading)).mapError .refused

structure Message.Partial where
  sender : Option String
  receiver : Option String
  value : Option Nat
  gasPrice : Option Nat
  gasUsed : Option Nat
  data : Option String

def Message.record : Json.Record Message.Partial where
  name := "BlockMessage"
  fields := [
    ⟨"from", (·.sender.isSome), false, fun _ draft state => do
      return { state with sender := some (← draft.readString) }⟩,
    ⟨"to", (·.receiver.isSome), false, fun _ draft state => do
      return { state with receiver := some (← draft.readString) }⟩,
    ⟨"value", (·.value.isSome), false, fun reading draft state => do
      return { state with value := some (← readAmount greatestValue reading draft) }⟩,
    ⟨"gasPrice", (·.gasPrice.isSome), false, fun reading draft state => do
      return { state with gasPrice := some (← readAmount greatestGas reading draft) }⟩,
    ⟨"gasUsed", (·.gasUsed.isSome), false, fun reading draft state => do
      return { state with gasUsed := some (← readAmount greatestGas reading draft) }⟩,
    ⟨"data", (·.data.isSome), false, fun _ draft state => do
      return { state with data := some (← draft.readString) }⟩]

def Message.ofDocument (document : Json) : Except Json.DecodeError Message := do
  let state ← record.read ⟨none, none, none, none, none, none⟩ .ofDocument (.ofJson document)
  return {
    sender := ← Json.required "from" state.sender
    receiver := ← Json.required "to" state.receiver
    value := ← Json.required "value" state.value
    gasPrice := ← Json.required "gasPrice" state.gasPrice
    gasUsed := ← Json.required "gasUsed" state.gasUsed
    data := ← Json.required "data" state.data }

/-! ### Legacy blocks -/

/-- A message as it is taken in. `transaction` is the place of its transaction. -/
structure InputMessage where
  source : String
  destination : String
  value : Nat
  transaction : Nat
  deriving DecidableEq, Repr

structure Transaction where
  type : String
  nonce : UInt64
  id : Nat
  value : Nat
  receiver : String
  sender : String
  gasPrice : Nat
  gas : Nat
  data : String
  deriving DecidableEq, Repr

/-- A block in the legacy form. Its two headers are the same. -/
structure Block where
  coinbase : String
  header : Config.LegacyHeader
  transactions : List Transaction
  inputs : List InputMessage
  deriving DecidableEq, Repr

inductive FormatError where
  | missingMessages
  | malformedMessage (index : Nat) (fault : Json.DecodeError)
  deriving DecidableEq

def FormatError.message : FormatError → String
  | missingMessages => "Block document has no messages array"
  | malformedMessage index fault => "Malformed message #" ++ toString index ++ ": " ++ fault.message

namespace Block

def inputOf (index : Nat) (message : Message) : InputMessage :=
  ⟨message.sender, message.receiver, message.value, index⟩

def transactionOf (config : Config.Legacy) (index : Nat) (message : Message) : Transaction where
  type := config.transactionType
  nonce := config.transactionNonce
  id := index
  value := message.value
  receiver := message.receiver
  sender := message.sender
  gasPrice := message.gasPrice
  gas := message.gasUsed
  data := message.data

/-- Reads messages, the first of which has the given place. -/
def readMessages (index : Nat) : List Json → Except FormatError (List Message)
  | [] => .ok []
  | document :: rest => do
    let message ← (Message.ofDocument document).mapError (.malformedMessage index)
    return message :: (← readMessages (index + 1) rest)

def messagesOf (document : Json) : Except FormatError (List Message) :=
  match (document.member? "messages").bind Json.items? with
  | none => .error .missingMessages
  | some items => readMessages 0 items

def ofMessages (config : Config.Legacy) (messages : List Message) : Block where
  coinbase := config.coinbase
  header := config.header
  transactions := messages.mapIdx (transactionOf config)
  inputs := messages.mapIdx inputOf

def ofDocument (config : Config.Legacy) (document : Json) : Except FormatError Block := do
  return ofMessages config (← messagesOf document)

end Block

/-! ### Documents -/

def natural (value : UInt64) : Json :=
  .ofNat value.toNat

/-- A header with the beneficiary of the block in it. -/
def headerToJson (coinbase : String) (header : Config.LegacyHeader) : Json :=
  .object [("parent_hash", natural header.parentHash), ("number", natural header.number),
    ("gas_limit", natural header.gasLimit), ("gas_used", natural header.gasUsed),
    ("coinbase", .string coinbase), ("prevrandao", natural header.prevrandao),
    ("chain_id", natural header.chainId), ("basefee", natural header.basefee),
    ("blob_basefee", natural header.blobBasefee), ("timestamp", natural header.timestamp)]

def Transaction.toJson (transaction : Transaction) : Json :=
  .object [("type", .string transaction.type), ("nonce", natural transaction.nonce),
    ("id", .ofNat transaction.id), ("value", .ofNat transaction.value),
    ("receive_address", .string transaction.receiver), ("sender", .string transaction.sender),
    ("gas_price", .ofNat transaction.gasPrice), ("gas", .ofNat transaction.gas),
    ("data", .string transaction.data)]

def InputMessage.toJson (message : InputMessage) : Json :=
  .object [("src", .string message.source), ("dst", .string message.destination),
    ("value", .ofNat message.value), ("transaction", .ofNat message.transaction)]

def Block.toJson (block : Block) : Json :=
  .object [("previous_header", headerToJson block.coinbase block.header),
    ("current_header", headerToJson block.coinbase block.header), ("account_blocks", .list []),
    ("transactions", .list (block.transactions.map Transaction.toJson)),
    ("input_messages", .list (block.inputs.map InputMessage.toJson)), ("output_messages", .list [])]

end LedgerCapture.Legacy
