import LedgerCapture.Proofs.Gateway.Agreement
import LedgerCapture.Proofs.Json.Members

/-!
Faults that a node reports. The envelope of an answer is read as a whole before anything counts more than
anything else in it, so a fault is passed on unless the result beside it cannot be read.
-/
namespace LedgerCapture

open Json.Grammar

namespace RemoteNode

/-! ### The envelope -/

/-- The draft is an object with the code and the message of the fault, whatever else it holds. -/
def Fault.StandsIn (fault : Fault) (draft : Json.Draft) : Prop :=
  ∃ entries number text, draft.IsObject entries ∧ entries.lookup "code" = some (.number number) ∧
    number.read = .ok (.integer fault.code) ∧
    (Json.leastInteger ≤ fault.code ∧ fault.code ≤ Width.greatestSigned 64) ∧
    entries.lookup "message" = some (.string text) ∧ text.read = .ok fault.message

theorem Fault.isPair (reading : Json.Reading) :
    Json.Record.IsPair reading Partial.mk Json.Draft.readSigned Json.Draft.readString record "code" "message" := by
  refine .intro (by decide) (fun _ _ => rfl) (fun _ _ => rfl) (fun draft _ _ => ?_) fun draft _ _ => ?_
  · show (draft.readSigned >>= fun code => _) = _
    cases draft.readSigned <;> rfl
  · show (draft.readString >>= fun message => _) = _
    cases draft.readString <;> rfl

theorem Fault.StandsIn.read {fault : Fault} {draft : Json.Draft} (stands : fault.StandsIn draft)
    (passes : draft.Passes) : Fault.read .unlimited draft = .ok fault := by
  obtain ⟨entries, number, text, isObject, code, readCode, bounds, message, readMessage⟩ := stands
  have readsCode : Json.Draft.readSigned (.number number) = .ok fault.code := by
    rw [Json.Draft.readSigned, Json.Draft.readInteger, readCode]
    exact if_pos bounds
  have readsMessage : Json.Record.fill Json.Draft.readString none (entries.lookup "message") =
      .ok (some fault.message) := by
    rw [message, Json.Record.fill, Json.Draft.readString, Json.Draft.readStringAs, readMessage]
    rfl
  have record := (Fault.isPair .unlimited).read (show Json.Reading.unlimited.enter = _ from rfl) isObject passes
    readsMessage
  rw [code, Json.Record.fill, readsCode] at record
  rw [Fault.read, record]
  rfl

section

variable {α : Type} (read : Json.Reading → Json.Draft → Except Json.DecodeError α)

theorem Response.isPair (reading : Json.Reading) :
    Json.Record.IsPair reading Response.mk (Json.Draft.readOption read reading)
      (Json.Draft.readOption Fault.read reading) (record read) "result" "error" := by
  refine .intro (show "result" ≠ "error" by decide) (fun _ _ => rfl) (fun _ _ => rfl) (fun draft _ _ => ?_)
    fun draft _ _ => ?_
  · show (draft.readOption read reading >>= fun result => _) = _
    cases draft.readOption read reading <;> rfl
  · show (draft.readOption Fault.read reading >>= fun fault => _) = _
    cases draft.readOption Fault.read reading <;> rfl

variable {draft reported : Json.Draft} {entries : List (String × Json.Draft)} {fault : Fault}

theorem Fault.StandsIn.readOption (stands : fault.StandsIn draft) (passes : draft.Passes) :
    draft.readOption Fault.read .unlimited = .ok (some fault) := by
  have present : draft ≠ .literal .null := by
    rintro rfl
    obtain ⟨_, _, _, ⟨⟩, _⟩ := stands
  rw [readOption_of_ne_null present, stands.read passes]
  rfl

/-- Beside a fault the result decides whether the envelope can be read. -/
theorem Response.read_of_fault (isObject : draft.IsObject entries) (passes : draft.Passes)
    (holds : entries.lookup "error" = some reported) (stands : fault.StandsIn reported) :
    Response.read read .unlimited draft =
      (Json.Record.fill (Json.Draft.readOption read .unlimited) none (entries.lookup "result")).map
        fun result => ⟨result, some (some fault)⟩ := by
  have readsFault : Json.Record.fill (Json.Draft.readOption Fault.read .unlimited) none (entries.lookup "error") =
      .ok (some (some fault)) := by
    rw [holds, Json.Record.fill, stands.readOption (isObject.passes passes holds)]
    rfl
  have entered : Json.Reading.unlimited.enter = .ok .unlimited := rfl
  rw [Response.read, (Response.isPair read .unlimited).read entered isObject passes readsFault]
  cases Json.Record.fill (Json.Draft.readOption read .unlimited) none (entries.lookup "result") <;> rfl

/-- What an answer with a fault amounts to, by what becomes of the result beside it. -/
def outcomeBeside (method : String) (fault : Fault) : Except Json.DecodeError Unit → GatewayError
  | .ok _ => .rpc method fault.code fault.message
  | .error cause => .unexpectedOutput method ("malformed JSON-RPC response: " ++ cause.message)

theorem readAnswer_of_fault {body : String} (method : String) (spells : Json.Spells Json.Stops body.toList draft)
    (isObject : draft.IsObject entries) (holds : entries.lookup "error" = some reported)
    (stands : fault.StandsIn reported) :
    readAnswer read method body = .error (outcomeBeside method fault
      ((entries.lookup "result").forM fun result => discard (result.readOption read .unlimited))) := by
  rw [readAnswer, Json.decode_of_spells spells, Response.read_of_fault read isObject spells.passes holds stands]
  cases entries.lookup "result" with
  | none => rfl
  | some result =>
    show _ = Except.error (outcomeBeside method fault (discard (result.readOption read .unlimited)))
    rw [Json.Record.fill]
    cases result.readOption read .unlimited <;> rfl

end

end RemoteNode

/-! ### Questions -/

def LookupCommand.readResult (command : LookupCommand) (result : Json.Draft) : Except Json.DecodeError Unit :=
  match command with
  | .receipt _ => discard (result.readOption Ledger.Receipt.read .unlimited)
  | .probe | .block _ _ | .contractState _ _ => discard (result.readOption Json.Draft.readJson .unlimited)

namespace RemoteNode

def method (node : RemoteNode) : LookupCommand → String
  | .probe => node.probeMethod
  | .receipt _ => "eth_getInMessageReceipt"
  | .block _ _ => "debug_getBlockByHash"
  | .contractState _ _ => "debug_getContract"

def parameters : LookupCommand → List Json
  | .probe => []
  | .receipt message => [.string message.text]
  | .block shard block => [shard.toJson, .string block.text, .boolean true]
  | .contractState address block => [.string address.text, .string block.text]

/-- A fault in an answer counts more than the result beside it, if that can be read; if it cannot, the question fails
for the result and the fault is lost. -/
theorem answer_of_fault {node : RemoteNode} {command : LookupCommand} {outside : Outside} {world : World}
    {body : String} {entries : List (String × Json.Draft)} {reported : Json.Draft} {fault : Fault}
    (isDocument : IsDocument body) (isObject : (Json.Draft.ofText body).1.IsObject entries)
    (holds : entries.lookup "error" = some reported) (stands : fault.StandsIn reported)
    (returns : node.Returns (node.method command) (parameters command) outside world body) :
    (node.answer command outside world).1 =
      .error (outcomeBeside (node.method command) fault ((entries.lookup "result").forM command.readResult)) := by
  obtain ⟨draft, spells⟩ := Json.exists_spells_of_isElement isDocument
  have whole := Json.Draft.ofText_of_spells spells
  rw [String.ofList_toList] at whole
  rw [whole] at isObject
  cases command with
  | probe =>
    have called := (call_of_returns returns).trans
      (readAnswer_of_fault Json.Draft.readJson _ spells isObject holds stands)
    exact congrArg Prod.fst (Run.bind_of_error (Prod.ext called rfl))
  | receipt message =>
    exact (call_of_returns returns).trans (readAnswer_of_fault _ _ spells isObject holds stands)
  | block shard block =>
    exact (call_of_returns returns).trans (readAnswer_of_fault _ _ spells isObject holds stands)
  | contractState address block =>
    exact (call_of_returns returns).trans (readAnswer_of_fault _ _ spells isObject holds stands)

end RemoteNode

/-! ### An answer with a result and a fault -/

namespace BothReported

def fault : Json :=
  .object [("code", .number (.integer (-32602))), ("message", .string "m")]

def document : Json :=
  .object [("result", .number (.integer 5)), ("error", fault)]

def text : String :=
  "\x7b\"result\":5,\"error\":\x7b\"code\":-32602,\"message\":\"m\"\x7d\x7d"

theorem isMember {name value : List Char} (plain : ∀ c ∈ name, c ≠ '"' ∧ c ≠ '\\' ∧ 0x20 ≤ c.toNat)
    (isElement : IsElement value) : IsMember ([] ++ ('"' :: (name ++ ['"']) ++ ([] ++ ':' :: value))) :=
  .mk nofun (.mk (isBody_of_plain plain)) nofun isElement

theorem isDocument : IsDocument text := by
  have five : IsWhole ['5'] := .other rfl (by decide) nofun
  have number : IsWhole ['3', '2', '6', '0', '2'] := .other rfl (by decide) (by simp [Json.isDigit])
  have result : IsElement ['5'] := (IsValue.number (.mk (.inl rfl) five .absent .absent)).element
  have code : IsElement ['-', '3', '2', '6', '0', '2'] :=
    (IsValue.number (.mk (.inr rfl) number .absent .absent)).element
  have message : IsElement ['"', 'm', '"'] :=
    (IsValue.string (.mk (show IsBody ['m'] from isBody_of_plain (by simp)))).element
  have fault := (IsValue.object (.more (isMember (show ∀ c ∈ ['c', 'o', 'd', 'e'], _ by simp) code)
    (.last (isMember (show ∀ c ∈ ['m', 'e', 's', 's', 'a', 'g', 'e'], _ by simp) message)))).element
  have whole := (IsValue.object (.more (isMember (show ∀ c ∈ ['r', 'e', 's', 'u', 'l', 't'], _ by simp) result)
    (.last (isMember (show ∀ c ∈ ['e', 'r', 'r', 'o', 'r'], _ by simp) fault)))).element
  exact whole

theorem spells : Json.Spells Json.Stops text.toList (.ofJson document) := by
  have exact : document.Exact := by
    refine ⟨?_, ⟨?_, trivial, trivial⟩, trivial⟩ <;> constructor <;> decide
  have written : document.compact = text := by decide +kernel
  exact written ▸ (Json.spells_compact exact).stops

theorem isObject : Json.Draft.IsObject (.ofJson document)
    [("result", .ofJson (.number (.integer 5))), ("error", .ofJson fault)] :=
  .intro (.cons ⟨rfl, rfl⟩ (.cons ⟨rfl, rfl⟩ .nil)) (by decide)

theorem isObject_ofText : (Json.Draft.ofText text).1.IsObject
    [("result", .ofJson (.number (.integer 5))), ("error", .ofJson fault)] := by
  have whole := Json.Draft.ofText_of_spells spells
  rw [String.ofList_toList] at whole
  rw [whole]
  exact isObject

theorem standsIn : RemoteNode.Fault.StandsIn ⟨-32602, "m"⟩ (.ofJson fault) :=
  ⟨[("code", .ofJson (.number (.integer (-32602)))), ("message", .ofJson (.string "m"))], .sound (.integer (-32602)),
    .sound "m", .intro (.cons ⟨rfl, rfl⟩ (.cons ⟨rfl, rfl⟩ .nil)) (by decide), rfl, rfl, by decide, rfl, rfl⟩

end BothReported

/-- A block is any document, so the number does not hide the fault. -/
theorem answer_of_fault_of_block :
    let node : RemoteNode := ⟨"http://localhost", "eth_chainId", 30⟩
    let outside := Rehearsal.answering [.answered 200 (.ok BothReported.text)] (Rehearsal.outside ⟨[], []⟩ "/tmp" [])
    let world : World := ⟨⟨[], []⟩, []⟩
    IsDocument BothReported.text ∧
    node.Returns "debug_getBlockByHash" [.number (.integer 1), .string "0xb", .boolean true] outside world
      BothReported.text ∧
    (node.answer (.block ⟨1⟩ ⟨"0xb"⟩) outside world).1 = .error (.rpc "debug_getBlockByHash" (-32602) "m") := by
  intro node outside world
  have returns : node.Returns "debug_getBlockByHash" [.number (.integer 1), .string "0xb", .boolean true] outside world
      BothReported.text :=
    RemoteNode.returns_of_answering parse_localhost (by decide) (by decide) rfl _ _
  exact ⟨BothReported.isDocument, returns,
    RemoteNode.answer_of_fault BothReported.isDocument BothReported.isObject_ofText rfl BothReported.standsIn returns⟩

/-- A number is no receipt, so the answer counts as malformed and nothing is said of the fault. -/
theorem receipt_hides_fault :
    let node : RemoteNode := ⟨"http://localhost", "eth_chainId", 30⟩
    let outside := Rehearsal.answering [.answered 200 (.ok BothReported.text)] (Rehearsal.outside ⟨[], []⟩ "/tmp" [])
    let world : World := ⟨⟨[], []⟩, []⟩
    IsDocument BothReported.text ∧
    (Json.Draft.ofText BothReported.text).1.IsObject
      [("result", .ofJson (.number (.integer 5))), ("error", .ofJson BothReported.fault)] ∧
    RemoteNode.Fault.StandsIn ⟨-32602, "m"⟩ (.ofJson BothReported.fault) ∧
    node.Returns "eth_getInMessageReceipt" [.string "0xa"] outside world BothReported.text ∧
    (node.answer (.receipt ⟨"0xa"⟩) outside world).1 = .error (.unexpectedOutput "eth_getInMessageReceipt"
      "malformed JSON-RPC response: invalid type: integer `5`, expected struct ReceiptNode") ∧
    (node.answer (.receipt ⟨"0xa"⟩) outside world).1 ≠ .error (.rpc "eth_getInMessageReceipt" (-32602) "m") := by
  intro node outside world
  have returns : node.Returns "eth_getInMessageReceipt" [.string "0xa"] outside world BothReported.text :=
    RemoteNode.returns_of_answering parse_localhost (by decide) (by decide) rfl _ _
  have answered : (node.answer (.receipt ⟨"0xa"⟩) outside world).1 = _ :=
    (RemoteNode.call_of_returns returns).trans (RemoteNode.readAnswer_of_fault Ledger.Receipt.read _
      BothReported.spells BothReported.isObject rfl BothReported.standsIn)
  have unreadable : RemoteNode.outcomeBeside "eth_getInMessageReceipt" ⟨-32602, "m"⟩
      (LookupCommand.readResult (.receipt ⟨"0xa"⟩) (.ofJson (.number (.integer 5)))) =
      .unexpectedOutput "eth_getInMessageReceipt"
        "malformed JSON-RPC response: invalid type: integer `5`, expected struct ReceiptNode" := by
    decide +kernel
  have lost := answered.trans (congrArg Except.error unreadable)
  refine ⟨BothReported.isDocument, BothReported.isObject_ofText, BothReported.standsIn, returns, lost, ?_⟩
  rw [lost]
  nofun

end LedgerCapture
