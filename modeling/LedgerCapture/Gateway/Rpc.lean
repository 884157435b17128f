import LedgerCapture.Gateway.Basic
import LedgerCapture.Gateway.Url

/-!
The gateway that asks a node directly, with one JSON document per question and one per answer. It only
reads.
-/
namespace LedgerCapture

/-- A node that answers questions at an endpoint, and the method that tells whether it does. -/
structure RemoteNode where
  endpoint : String
  probeMethod : String
  timeoutSeconds : UInt64
  deriving DecidableEq, Repr

namespace RemoteNode

/-! ### Answers -/

structure Fault where
  code : Int
  message : String
  deriving DecidableEq, Repr

structure Fault.Partial where
  code : Option Int
  message : Option String

def Fault.record : Json.Record Fault.Partial where
  name := "RpcErrorObject"
  fields := [
    ⟨"code", (·.code.isSome), false, fun _ draft state => do
      return { state with code := some (← draft.readSigned) }⟩,
    ⟨"message", (·.message.isSome), false, fun _ draft state => do
      return { state with message := some (← draft.readString) }⟩]

def Fault.read (reading : Json.Reading) (draft : Json.Draft) : Except Json.DecodeError Fault := do
  let state ← Fault.record.read ⟨none, none⟩ reading draft
  return ⟨← Json.required "code" state.code, ← Json.required "message" state.message⟩

/-- A node's answer. Each member counts as absent if it is null; the outer options tell whether it has
been read. -/
structure Response (α : Type) where
  result : Option (Option α)
  fault : Option (Option Fault)

def Response.record {α : Type} (read : Json.Reading → Json.Draft → Except Json.DecodeError α) :
    Json.Record (Response α) where
  name := "RpcResponse"
  fields := [
    ⟨"result", (·.result.isSome), true, fun reading draft state => do
      return { state with result := some (← Json.Draft.readOption read reading draft) }⟩,
    ⟨"error", (·.fault.isSome), true, fun reading draft state => do
      return { state with fault := some (← Json.Draft.readOption Fault.read reading draft) }⟩]

def Response.read {α : Type} (read : Json.Reading → Json.Draft → Except Json.DecodeError α)
    (reading : Json.Reading) (draft : Json.Draft) : Except Json.DecodeError (Response α) :=
  (record read).read ⟨none, none⟩ reading draft

/-- The result that the text of an answer holds. A fault counts more than a result. -/
def readAnswer {α : Type} (read : Json.Reading → Json.Draft → Except Json.DecodeError α)
    (method body : String) : Except GatewayError α := do
  let response ← (Json.decode (Response.read read) .unlimited body).mapError fun fault =>
    .unexpectedOutput method ("malformed JSON-RPC response: " ++ fault.message)
  match response.fault.join with
  | some fault => throw (.rpc method fault.code fault.message)
  | none =>
    match response.result.join with
    | some result => return result
    | none => throw (.unexpectedOutput method "empty result")

/-! ### Questions -/

def statusReasons : List (Nat × String) := [
  (100, "Continue"), (101, "Switching Protocols"), (102, "Processing"), (103, "Early Hints"),
  (200, "OK"), (201, "Created"), (202, "Accepted"), (203, "Non Authoritative Information"),
  (204, "No Content"), (205, "Reset Content"), (206, "Partial Content"), (207, "Multi-Status"),
  (208, "Already Reported"), (226, "IM Used"), (300, "Multiple Choices"), (301, "Moved Permanently"),
  (302, "Found"), (303, "See Other"), (304, "Not Modified"), (305, "Use Proxy"),
  (307, "Temporary Redirect"), (308, "Permanent Redirect"), (400, "Bad Request"),
  (401, "Unauthorized"), (402, "Payment Required"), (403, "Forbidden"), (404, "Not Found"),
  (405, "Method Not Allowed"), (406, "Not Acceptable"), (407, "Proxy Authentication Required"),
  (408, "Request Timeout"), (409, "Conflict"), (410, "Gone"), (411, "Length Required"),
  (412, "Precondition Failed"), (413, "Payload Too Large"), (414, "URI Too Long"),
  (415, "Unsupported Media Type"), (416, "Range Not Satisfiable"), (417, "Expectation Failed"),
  (418, "I'm a teapot"), (421, "Misdirected Request"), (422, "Unprocessable Entity"),
  (423, "Locked"), (424, "Failed Dependency"), (425, "Too Early"), (426, "Upgrade Required"),
  (428, "Precondition Required"), (429, "Too Many Requests"),
  (431, "Request Header Fields Too Large"), (451, "Unavailable For Legal Reasons"),
  (500, "Internal Server Error"), (501, "Not Implemented"), (502, "Bad Gateway"),
  (503, "Service Unavailable"), (504, "Gateway Timeout"), (505, "HTTP Version Not Supported"),
  (506, "Variant Also Negotiates"), (507, "Insufficient Storage"), (508, "Loop Detected"),
  (510, "Not Extended"), (511, "Network Authentication Required")]

def statusText (status : Nat) : String :=
  match statusReasons.find? (·.1 == status) with
  | some (_, reason) => toString status ++ " " ++ reason
  | none => toString status ++ " <unknown status code>"

/-- The document that asks for a method. Questions are numbered from one. -/
def question (number : Nat) (method : String) (parameters : List Json) : Json :=
  .object [("id", .ofNat number), ("jsonrpc", .string "2.0"), ("method", .string method),
    ("params", .list parameters)]

def isRequest : Event → Bool
  | .request _ _ => true
  | _ => false

def post (url method : String) (parameters : List Json) : Run GatewayError HttpAnswer :=
  fun outside world =>
    let number := (world.journal.filter isRequest).length + 1
    let request : HttpRequest := ⟨url, question number method parameters⟩
    let answer := outside.request world.journal request
    (.ok answer, world.record (.request request answer))

theorem post_adds (url method : String) (parameters : List Json) :
    Run.Adds Event.isCarrier (post url method parameters) :=
  fun _ world => World.Adds.record world rfl

def interpret {α : Type} (node : RemoteNode)
    (read : Json.Reading → Json.Draft → Except Json.DecodeError α) (method url : String)
    (answer : HttpAnswer) : Except GatewayError α :=
  match answer with
  | .unreachable =>
    .error (.http (method ++ " to " ++ node.endpoint ++ ": error sending request for url (" ++ url ++ ")"))
  | .answered status text =>
    if 200 ≤ status ∧ status < 300 then do
      let text ← text.mapError fun reason => .http ("Invalid response to " ++ method ++ ": " ++ reason)
      readAnswer read method text
    else .error (.http (method ++ " to " ++ node.endpoint ++ " returned status " ++ statusText status))

def call {α : Type} (node : RemoteNode) (read : Json.Reading → Json.Draft → Except Json.DecodeError α)
    (method : String) (parameters : List Json) : Run GatewayError α := do
  match Url.parse node.endpoint with
  | .malformed => throw (.http (method ++ " to " ++ node.endpoint ++ ": builder error"))
  | .unsuitable url =>
    throw (.http (method ++ " to " ++ node.endpoint ++ ": builder error for url (" ++ url ++ ")"))
  | .url url => do
    Run.lift (node.interpret read method url.text (← post url.text method parameters))

theorem call_adds {α : Type} (node : RemoteNode)
    (read : Json.Reading → Json.Draft → Except Json.DecodeError α) (method : String)
    (parameters : List Json) : Run.Adds Event.isCarrier (node.call read method parameters) := by
  unfold call
  split
  · exact Run.Adds.throw _
  · exact Run.Adds.throw _
  · exact Run.Adds.bind (post_adds _ _ _) fun _ => Run.Adds.lift _

def answer (node : RemoteNode) : (command : LookupCommand) → Run GatewayError command.Reply
  | .probe => do
    discard (node.call Json.Draft.readJson node.probeMethod [])
  | .receipt message =>
    node.call Ledger.Receipt.read "eth_getInMessageReceipt" [.string message.text]
  | .block shard block =>
    node.call Json.Draft.readJson "debug_getBlockByHash"
      [shard.toJson, .string block.text, .boolean true]
  | .contractState address block =>
    node.call Json.Draft.readJson "debug_getContract" [.string address.text, .string block.text]

theorem answer_adds (node : RemoteNode) (command : LookupCommand) :
    Run.Adds Event.isCarrier (node.answer command) := by
  cases command with
  | probe => exact Run.Adds.discard (node.call_adds _ _ _)
  | receipt message => exact node.call_adds _ _ _
  | block shard block => exact node.call_adds _ _ _
  | contractState address block => exact node.call_adds _ _ _

/-! ### Configuration -/

def endpointCheck : Check := fun value =>
  match value with
  | .string text =>
    if text.startsWith "http://" || text.startsWith "https://" then .ok ()
    else .error "endpoint must be an http(s) URL"
  | _ => .error "endpoint must be an http(s) URL"

def schema : Schema :=
  .mk [Schema.checkedField "endpoint" .string endpointCheck]
    [Schema.field "probe_method" .string,
      Schema.field "timeout_seconds" (.integer (some 1) (some 600))] true

def ofTable (table : Toml) : Except GatewayError RemoteNode :=
  match (table.get? "endpoint").bind Toml.string? with
  | none => .error (.configuration "endpoint is required")
  | some endpoint =>
    .ok {
      endpoint
      probeMethod := ((table.get? "probe_method").bind Toml.string?).getD "eth_chainId"
      timeoutSeconds :=
        match (table.get? "timeout_seconds").bind Toml.integer? with
        | some seconds => UInt64.ofInt seconds
        | none => 30 }

def lookup (node : RemoteNode) : Lookup :=
  ⟨schema, node.answer, node.answer_adds⟩

end RemoteNode

end LedgerCapture
