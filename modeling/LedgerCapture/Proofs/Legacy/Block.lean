import LedgerCapture.Proofs.Legacy.Message
import Mathlib.Data.List.Forall2

/-!
Blocks in the legacy form. Transaction `i` and input message `i` both come from message `i` of the fetched block, and
of messages that cannot be read the first one is named.
-/
namespace LedgerCapture.Legacy

/-! ### Reading messages -/

structure FailsFirst (items : List Json) (place : Nat) (fault : Json.DecodeError) : Prop where
  there : ∃ item, items[place]? = some item ∧ (∀ message : Message, ¬message.IsIn item) ∧
    Message.ofDocument item = .error fault
  earlier : ∀ earlier < place, ∃ item, items[earlier]? = some item ∧ ∃ message : Message, message.IsIn item

section

variable {item : Json} {items : List Json} {messages : List Message} {place : Nat} {fault : Json.DecodeError}

theorem not_isIn_of_error (failed : Message.ofDocument item = .error fault) (message : Message) :
    ¬message.IsIn item := by
  intro isIn
  rw [Message.ofDocument_eq_ok_iff.mpr isIn] at failed
  cases failed

theorem failsFirst_zero_iff : FailsFirst (item :: items) 0 fault ↔ Message.ofDocument item = .error fault := by
  constructor
  · rintro ⟨⟨_, ⟨⟩, -, failed⟩, -⟩
    exact failed
  · exact fun failed => ⟨⟨item, rfl, not_isIn_of_error failed, failed⟩, fun _ before => absurd before (by omega)⟩

theorem failsFirst_succ_iff : FailsFirst (item :: items) (place + 1) fault ↔
    (∃ message : Message, message.IsIn item) ∧ FailsFirst items place fault := by
  constructor
  · rintro ⟨there, earlier⟩
    obtain ⟨_, ⟨⟩, first⟩ := earlier 0 (by omega)
    exact ⟨first, there, fun other before => earlier (other + 1) (by omega)⟩
  · rintro ⟨first, there, earlier⟩
    refine ⟨there, fun other before => ?_⟩
    cases other with
    | zero => exact ⟨item, rfl, first⟩
    | succ other => exact earlier other (by omega)

end

namespace Block

section

variable {items : List Json} {messages : List Message} {start : Nat} {fault : FormatError}

theorem readMessages_eq_ok_iff :
    readMessages start items = .ok messages ↔ List.Forall₂ Message.IsIn messages items := by
  induction items generalizing start messages with
  | nil =>
    rw [List.forall₂_nil_right_iff]
    exact ⟨fun read => (Except.ok.inj read).symm, fun same => congrArg _ same.symm⟩
  | cons item rest ih =>
    rw [readMessages, List.forall₂_cons_right_iff, bind_eq_ok_iff]
    simp only [mapError_eq_ok_iff, Message.ofDocument_eq_ok_iff, bind_eq_ok_iff, ih, pure_eq_ok_iff]
    constructor
    · rintro ⟨message, isIn, messages, each, rfl⟩
      exact ⟨message, messages, isIn, each, rfl⟩
    · rintro ⟨message, messages, isIn, each, rfl⟩
      exact ⟨message, isIn, messages, each, rfl⟩

/-- Reading breaks off at the first item that is no message, and names its place. -/
theorem readMessages_eq_error_iff : readMessages start items = .error fault ↔
    ∃ place cause, fault = .malformedMessage (start + place) cause ∧ FailsFirst items place cause := by
  induction items generalizing start with
  | nil =>
    constructor
    · exact nofun
    · rintro ⟨place, cause, -, ⟨_, impossible, -⟩, -⟩
      cases impossible
  | cons item rest ih =>
    rw [readMessages]
    cases first : Message.ofDocument item with
    | error cause =>
      constructor
      · intro failed
        exact ⟨0, cause, (Except.error.inj failed).symm, failsFirst_zero_iff.mpr first⟩
      · rintro ⟨place, other, rfl, fails⟩
        cases place with
        | zero =>
          obtain rfl := Except.error.inj (first.symm.trans (failsFirst_zero_iff.mp fails))
          rfl
        | succ place =>
          obtain ⟨message, isIn⟩ := (failsFirst_succ_iff.mp fails).1
          exact absurd isIn (not_isIn_of_error first message)
    | ok message =>
      have isIn := Message.ofDocument_eq_ok_iff.mp first
      refine (bind_pure_eq_error_iff.trans ih).trans ?_
      constructor
      · rintro ⟨place, cause, rfl, fails⟩
        exact ⟨place + 1, cause, by rw [Nat.add_right_comm, Nat.add_assoc],
          failsFirst_succ_iff.mpr ⟨⟨message, isIn⟩, fails⟩⟩
      · rintro ⟨place, cause, rfl, fails⟩
        cases place with
        | zero => exact absurd isIn (not_isIn_of_error (failsFirst_zero_iff.mp fails) message)
        | succ place =>
          exact ⟨place, cause, by rw [Nat.add_right_comm, Nat.add_assoc], (failsFirst_succ_iff.mp fails).2⟩

end

end Block

/-! ### What is written -/

def OneEach (shows : Nat → Message → Json → Prop) (messages : List Message) (document : Json) : Prop :=
  ∃ listed, document = .list listed ∧ listed.length = messages.length ∧
    ∀ index message, messages[index]? = some message → ∃ item, listed[index]? = some item ∧ shows index message item

structure IsTransaction (config : Config.Legacy) (index : Nat) (message : Message) (document : Json) : Prop where
  type : document.member? "type" = some (.string config.transactionType)
  nonce : document.member? "nonce" = some (natural config.transactionNonce)
  id : document.member? "id" = some (.ofNat index)
  sender : document.member? "sender" = some (.string message.sender)
  receiver : document.member? "receive_address" = some (.string message.receiver)
  value : document.member? "value" = some (.ofNat message.value)
  gasPrice : document.member? "gas_price" = some (.ofNat message.gasPrice)
  gas : document.member? "gas" = some (.ofNat message.gasUsed)
  data : document.member? "data" = some (.string message.data)

structure IsInput (index : Nat) (message : Message) (document : Json) : Prop where
  source : document.member? "src" = some (.string message.sender)
  destination : document.member? "dst" = some (.string message.receiver)
  value : document.member? "value" = some (.ofNat message.value)
  transaction : document.member? "transaction" = some (.ofNat index)

structure Shows (config : Config.Legacy) (messages : List Message) (document : Json) : Prop where
  headers : ∀ name ∈ ["previous_header", "current_header"],
    document.member? name = some (headerToJson config.coinbase config.header)
  others : ∀ name ∈ ["account_blocks", "output_messages"], document.member? name = some (.list [])
  transactions : ∃ listed, document.member? "transactions" = some listed ∧
    OneEach (IsTransaction config) messages listed
  inputs : ∃ listed, document.member? "input_messages" = some listed ∧ OneEach IsInput messages listed

theorem oneEach_mapIdx {α : Type} {shows : Nat → Message → Json → Prop} {make : Nat → Message → α} {write : α → Json}
    (each : ∀ index message, shows index message (write (make index message))) (messages : List Message) :
    OneEach shows messages (.list ((messages.mapIdx make).map write)) := by
  refine ⟨_, rfl, by rw [List.length_map, List.length_mapIdx], fun index message there => ?_⟩
  refine ⟨write (make index message), ?_, each index message⟩
  rw [List.getElem?_map, List.getElem?_mapIdx, there]
  rfl

theorem Block.ofMessages_shows (config : Config.Legacy) (messages : List Message) :
    Shows config messages (ofMessages config messages).toJson where
  headers := by
    simp only [List.forall_mem_cons]
    exact ⟨rfl, rfl, nofun⟩
  others := by
    simp only [List.forall_mem_cons]
    exact ⟨rfl, rfl, nofun⟩
  transactions := ⟨_, rfl, oneEach_mapIdx (fun _ _ => ⟨rfl, rfl, rfl, rfl, rfl, rfl, rfl, rfl, rfl⟩) messages⟩
  inputs := ⟨_, rfl, oneEach_mapIdx (fun _ _ => ⟨rfl, rfl, rfl, rfl⟩) messages⟩

/-! ### From document to document -/

structure Block.Translates (config : Config.Legacy) (document : Json) : Prop where
  succeeds_iff : (∃ block, ofDocument config document = .ok block) ↔
    ∃ items, document.member? "messages" = some (.list items) ∧ ∀ item ∈ items, ∃ message : Message, message.IsIn item
  shows : ∀ block, ofDocument config document = .ok block → ∃ items messages,
    document.member? "messages" = some (.list items) ∧ List.Forall₂ Message.IsIn messages items ∧
      Shows config messages block.toJson
  missing_iff : ofDocument config document = .error .missingMessages ↔
    ∀ items, document.member? "messages" ≠ some (.list items)
  malformed_iff : ∀ index fault, ofDocument config document = .error (.malformedMessage index fault) ↔
    ∃ items, document.member? "messages" = some (.list items) ∧ FailsFirst items index fault

namespace Block

variable {config : Config.Legacy} {document : Json} {items : List Json}

theorem messagesOf_of_listed (listed : document.member? "messages" = some (.list items)) :
    messagesOf document = readMessages 0 items := by
  rw [messagesOf, listed]
  rfl

theorem messagesOf_of_unlisted (unlisted : ∀ items, document.member? "messages" ≠ some (.list items)) :
    messagesOf document = .error .missingMessages := by
  rw [messagesOf]
  split
  · rfl
  · next items there =>
    obtain ⟨value, found, isList⟩ := Option.bind_eq_some_iff.mp there
    cases value with
    | list items => exact absurd found (unlisted _)
    | null | boolean _ | number _ | string _ | object _ => cases isList

theorem ofDocument_eq_ok_iff {block : Block} (listed : document.member? "messages" = some (.list items)) :
    ofDocument config document = .ok block ↔
      ∃ messages, List.Forall₂ Message.IsIn messages items ∧ ofMessages config messages = block := by
  rw [ofDocument, messagesOf_of_listed listed, bind_eq_ok_iff]
  simp only [readMessages_eq_ok_iff, pure_eq_ok_iff]

theorem ofDocument_eq_error_iff {fault : FormatError} (listed : document.member? "messages" = some (.list items)) :
    ofDocument config document = .error fault ↔
      ∃ place cause, fault = .malformedMessage place cause ∧ FailsFirst items place cause := by
  rw [ofDocument, messagesOf_of_listed listed, bind_pure_eq_error_iff, readMessages_eq_error_iff]
  simp only [Nat.zero_add]

theorem exists_forall₂_iff : (∃ messages, List.Forall₂ Message.IsIn messages items) ↔
    ∀ item ∈ items, ∃ message : Message, message.IsIn item := by
  induction items with
  | nil => exact ⟨fun _ _ member => absurd member List.not_mem_nil, fun _ => ⟨[], .nil⟩⟩
  | cons item rest ih =>
    rw [List.forall_mem_cons, ← ih]
    constructor
    · rintro ⟨_, first | ⟨first, each⟩⟩
      exact ⟨⟨_, first⟩, _, each⟩
    · rintro ⟨⟨message, first⟩, messages, each⟩
      exact ⟨message :: messages, .cons first each⟩

theorem translates_of_listed (config : Config.Legacy) (listed : document.member? "messages" = some (.list items)) :
    Translates config document := by
  have only : ∀ {other}, document.member? "messages" = some (.list other) → other = items := by
    intro other there
    exact (Json.list.inj (Option.some.inj (listed.symm.trans there))).symm
  exact {
    succeeds_iff := by
      simp only [ofDocument_eq_ok_iff listed]
      constructor
      · rintro ⟨_, messages, each, -⟩
        exact ⟨items, listed, exists_forall₂_iff.mp ⟨messages, each⟩⟩
      · rintro ⟨other, there, each⟩
        obtain rfl := only there
        obtain ⟨messages, each⟩ := exists_forall₂_iff.mpr each
        exact ⟨_, messages, each, rfl⟩
    shows := by
      intro block done
      obtain ⟨messages, each, rfl⟩ := (ofDocument_eq_ok_iff listed).mp done
      exact ⟨items, messages, listed, each, ofMessages_shows config messages⟩
    missing_iff := by
      refine iff_of_false ?_ fun missing => missing items listed
      intro missing
      obtain ⟨_, _, impossible, -⟩ := (ofDocument_eq_error_iff listed).mp missing
      cases impossible
    malformed_iff := by
      intro index fault
      rw [ofDocument_eq_error_iff listed]
      constructor
      · rintro ⟨place, cause, same, fails⟩
        obtain ⟨rfl, rfl⟩ := FormatError.malformedMessage.inj same
        exact ⟨items, listed, fails⟩
      · rintro ⟨other, there, fails⟩
        obtain rfl := only there
        exact ⟨index, fault, rfl, fails⟩ }

theorem translates_of_unlisted (config : Config.Legacy)
    (unlisted : ∀ items, document.member? "messages" ≠ some (.list items)) : Translates config document := by
  have failed : ofDocument config document = .error .missingMessages := by
    rw [ofDocument, messagesOf_of_unlisted unlisted]
    rfl
  exact {
    succeeds_iff := by
      rw [failed]
      exact ⟨nofun, fun ⟨items, there, _⟩ => absurd there (unlisted items)⟩
    shows := by
      rw [failed]
      exact nofun
    missing_iff := iff_of_true failed unlisted
    malformed_iff := by
      rw [failed]
      exact fun index fault => ⟨nofun, fun ⟨items, there, _⟩ => absurd there (unlisted items)⟩ }

/-- A fetched block is brought into the legacy form just if all its messages can be read, message by message. -/
theorem ofDocument_translates (config : Config.Legacy) (document : Json) : Translates config document := by
  by_cases listed : ∃ items, document.member? "messages" = some (.list items)
  · obtain ⟨items, listed⟩ := listed
    exact translates_of_listed config listed
  · exact translates_of_unlisted config (not_exists.mp listed)

end Block

end LedgerCapture.Legacy
