import LedgerCapture.Proofs.Json.Digits
import LedgerCapture.Proofs.Json.Exchange
import LedgerCapture.Proofs.Ledger.Identifier
import LedgerCapture.Proofs.Legacy.Block

/-!
The two ways to write an amount: as a number, and as a string of its digits. They agree as far as a number of a
document is exact, that is up to 64 bits, and part above.
-/
namespace LedgerCapture.Legacy

inductive Quantity where
  | value
  | gasPrice
  | gasUsed
  deriving DecidableEq, Repr

namespace Quantity

def name : Quantity → String
  | value => "value"
  | gasPrice => "gasPrice"
  | gasUsed => "gasUsed"

def place : Quantity → Nat
  | value => 2
  | gasPrice => 3
  | gasUsed => 4

def greatest : Quantity → Nat
  | value => greatestValue
  | gasPrice | gasUsed => greatestGas

def set (number : Nat) (message : Message) : Quantity → Message
  | value => { message with value := number }
  | gasPrice => { message with gasPrice := number }
  | gasUsed => { message with gasUsed := number }

def exchange (quantity : Quantity) (written item : Json) : Json :=
  Json.exchange quantity.name quantity.place written item

def setAt (quantity : Quantity) (index number : Nat) (messages : List Message) : List Message :=
  messages.modify index fun message => quantity.set number message

def exchangeAt (quantity : Quantity) (index : Nat) (written : Json) (items : List Json) : List Json :=
  items.modify index (quantity.exchange written)

def view : Quantity → Message.Partial → Option Nat
  | value, state => state.value
  | gasPrice, state => state.gasPrice
  | gasUsed, state => state.gasUsed

def put (number : Nat) (state : Message.Partial) : Quantity → Message.Partial
  | value => { state with value := some number }
  | gasPrice => { state with gasPrice := some number }
  | gasUsed => { state with gasUsed := some number }

def cell (quantity : Quantity) : Json.Cell Message.Partial :=
  Message.amountCell quantity.greatest quantity.name quantity.view fun number state => quantity.put number state

/-! ### One message -/

section

variable {quantity : Quantity} {message : Message} {item written : Json} {number : Nat}

theorem greatest_lt (quantity : Quantity) : quantity.greatest < 2 ^ 128 := by
  cases quantity <;> decide

theorem cells_place (quantity : Quantity) : Message.cells[quantity.place]? = some quantity.cell := by
  cases quantity <;> rfl

theorem whole_set : (quantity.set number message).whole = quantity.put number message.whole := by
  cases quantity <;> rfl

theorem exchange_isIn (isIn : message.IsIn item) (denotes : Denotes quantity.greatest number written) :
    (quantity.set number message).IsIn (quantity.exchange written item) := by
  rw [← Message.describes_whole_iff, whole_set]
  exact Message.record_consists.describes_exchange quantity.cells_place (readAmount_eq_ok_iff.mpr denotes)
    (Message.describes_whole_iff.mpr isIn)

theorem ofDocument_exchange_of_error {value : Json.Number} {reason : String} (isIn : message.IsIn item)
    (fails : amount quantity.greatest (.number value) = .error reason) :
    Message.ofDocument (quantity.exchange (.number value) item) = .error (.refused reason) := by
  have refused : quantity.cell.read (.number value) = .error (.refused reason) := by
    show (amount quantity.greatest (.number value)).mapError Json.DecodeError.refused = _
    rw [fails]
    rfl
  have read : Message.record.read ⟨none, none, none, none, none, none⟩ .ofDocument
      (.ofJson (quantity.exchange (.number value) item)) = .error (.refused reason) :=
    Message.record_consists.read_exchange_eq_error rfl Message.cells_blank quantity.cells_place refused
      (Message.describes_whole_iff.mpr isIn)
  rw [Message.ofDocument, read]
  rfl

end

/-! ### Digits -/

theorem denotes_digits {greatest number : Nat} (fits : number ≤ greatest) :
    Denotes greatest number (.string (toString number)) := by
  refine .string ?_ fits
  rw [Nat.toString_eq_ofList_toDigits, String.toList_ofList, Ledger.trimChars_toDigits]
  exact Decimal.toDigits_writes number

theorem amount_real (greatest : Nat) (value : Decimal.Binary64) :
    amount greatest (.number (.real value)) =
      .error ((Json.Number.real value).render ++ " is not a non-negative integer") :=
  rfl

/-! ### Whole blocks -/

section

variable {quantity : Quantity} {messages : List Message} {items : List Json} {written : Json} {index number : Nat}

theorem exchangeAt_isIn (decoded : List.Forall₂ Message.IsIn messages items)
    (denotes : Denotes quantity.greatest number written) :
    List.Forall₂ Message.IsIn (quantity.setAt index number messages) (quantity.exchangeAt index written items) := by
  unfold setAt exchangeAt
  induction decoded generalizing index with
  | nil => simp
  | cons isIn decoded ih =>
    cases index with
    | zero => exact .cons (exchange_isIn isIn denotes) decoded
    | succ index => exact .cons isIn ih

theorem exchangeAt_failsFirst {value : Json.Number} {reason : String}
    (decoded : List.Forall₂ Message.IsIn messages items) (inside : index < items.length)
    (fails : amount quantity.greatest (.number value) = .error reason) :
    FailsFirst (quantity.exchangeAt index (.number value) items) index (.refused reason) := by
  have each := Block.exists_forall₂_iff.mp ⟨messages, decoded⟩
  constructor
  · obtain ⟨message, isIn⟩ := each _ (List.getElem_mem inside)
    have failed := ofDocument_exchange_of_error isIn fails
    refine ⟨_, ?_, not_isIn_of_error failed, failed⟩
    rw [exchangeAt, List.getElem?_modify_eq, List.getElem?_eq_getElem inside]
    rfl
  · intro earlier before
    have within : earlier < items.length := before.trans inside
    refine ⟨items[earlier], ?_, each _ (List.getElem_mem within)⟩
    rw [exchangeAt, List.getElem?_modify_ne _ _ (by omega), List.getElem?_eq_getElem within]

end

/-- What becomes of a block if one amount in it is the number, written in either way. -/
structure Agreement (config : Config.Legacy) (messages : List Message) (items : List Json) (quantity : Quantity)
    (index number : Nat) : Prop where
  /-- As a string of its digits the number counts. -/
  digits : ∀ document : Json,
    document.member? "messages" = some (.list (quantity.exchangeAt index (.string (toString number)) items)) →
      Block.ofDocument config document = .ok (Block.ofMessages config (quantity.setAt index number messages))
  /-- As a number it counts as well, unless it has more than 64 bits. -/
  number : ∃ value : Json.Number, (∀ reading, Json.parse reading (toString number) = .ok (.number value)) ∧
    ∀ document : Json,
      document.member? "messages" = some (.list (quantity.exchangeAt index (.number value) items)) →
        Block.ofDocument config document =
          if number < 2 ^ 64 then .ok (Block.ofMessages config (quantity.setAt index number messages))
          else .error (.malformedMessage index (.refused (value.render ++ " is not a non-negative integer")))

/-- Both ways of writing a number in a message agree up to 64 bits. Above, the digits are read and the number is not. -/
theorem agreement_of_fits (config : Config.Legacy) {messages : List Message} {items : List Json}
    (decoded : List.Forall₂ Message.IsIn messages items) {index : Nat} (inside : index < items.length)
    (quantity : Quantity) {number : Nat} (fits : number ≤ quantity.greatest) :
    Agreement config messages items quantity index number where
  digits document listed :=
    (Block.ofDocument_eq_ok_iff listed).mpr ⟨_, exchangeAt_isIn decoded (denotes_digits fits), rfl⟩
  number := by
    by_cases small : number < 2 ^ 64
    · have exact : (number : Int) ≤ Json.greatestInteger := by
        show (number : Int) ≤ ((2 ^ 64 - 1 : Nat) : Int)
        omega
      refine ⟨.integer number, fun reading => Json.parse_of_small exact, fun document listed => ?_⟩
      rw [if_pos small, Block.ofDocument_eq_ok_iff listed]
      exact ⟨_, exchangeAt_isIn decoded (.number exact fits), rfl⟩
    · have large : Json.greatestInteger < number := by
        show ((2 ^ 64 - 1 : Nat) : Int) < number
        omega
      have bounded : number < 2 ^ 128 := lt_of_le_of_lt fits quantity.greatest_lt
      obtain ⟨value, parsed⟩ := Json.exists_parse_of_large large bounded
      refine ⟨.real value, parsed, fun document listed => ?_⟩
      rw [if_neg small, Block.ofDocument_eq_error_iff listed]
      exact ⟨index, _, rfl, exchangeAt_failsFirst decoded inside (amount_real quantity.greatest value)⟩

def messageOf (value : Json) : Json :=
  .object [("data", .string "0x"), ("from", .string "0x01"), ("gasPrice", .ofNat 1), ("gasUsed", .ofNat 1),
    ("to", .string "0x02"), ("value", value)]

theorem messageOf_isIn : Message.IsIn ⟨"0x01", "0x02", 1, 1, 1, "0x"⟩ (messageOf (.ofNat 1)) :=
  .object rfl rfl ⟨_, rfl, .number (by decide) (by decide)⟩ ⟨_, rfl, .number (by decide) (by decide)⟩
    ⟨_, rfl, .number (by decide) (by decide)⟩ rfl

/-- The first number of more than 64 bits. -/
theorem agreement_at_two_to_64 :
    Agreement {} [⟨"0x01", "0x02", 1, 1, 1, "0x"⟩] [messageOf (.ofNat 1)] .value 0 18446744073709551616 :=
  agreement_of_fits {} (.cons messageOf_isIn .nil) (by decide) .value (by decide)

/-- The first number of more than 64 bits fits into the value of a message, and is refused there with a reason that
does not hold of it. -/
theorem refused_at_two_to_64 : 18446744073709551616 ≤ greatestValue ∧
    ∃ value : Json.Number, Json.parse .limited "18446744073709551616" = .ok (.number value) ∧
      Block.ofDocument {} (.object [("messages", .list [messageOf (.number value)])]) =
        .error (.malformedMessage 0 (.refused "1.8446744073709552e+19 is not a non-negative integer")) := by
  refine ⟨by decide, .real ⟨false, Nat.pow 2 52, 12⟩, ?_, ?_⟩
  · have digits : "18446744073709551616" = toString 18446744073709551616 := by decide +kernel
    have read : (⟨false, Nat.toDigits 10 18446744073709551616, none, none⟩ : Json.NumberText).value =
        .ok (.real ⟨false, Nat.pow 2 52, 12⟩) := by decide +kernel
    rw [digits, Json.parse_toString, read]
    rfl
  · decide +kernel

end Quantity

end LedgerCapture.Legacy
