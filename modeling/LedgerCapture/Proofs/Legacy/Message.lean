import LedgerCapture.Legacy.Block
import LedgerCapture.Proofs.Decimal.Integer
import LedgerCapture.Proofs.Json.Cells

/-!
Which documents are messages of a block, and of which message each of them is.
-/
namespace LedgerCapture.Legacy

/-! ### Amounts -/

/-- How a document denotes an amount: as a number of at most 64 bits, or as a string of its decimal digits, which may
have a plus sign before them and blanks around them. -/
inductive Denotes (greatest number : Nat) : Json → Prop where
  | number (exact : (number : Int) ≤ Json.greatestInteger) (fits : number ≤ greatest) :
    Denotes greatest number (.ofNat number)
  | string {text : String} (digits : Decimal.Writes (Text.trimChars text.toList) number) (fits : number ≤ greatest) :
    Denotes greatest number (.string text)

section

variable {greatest number : Nat} {document : Json}

theorem amount_eq_ok_iff : amount greatest document = .ok number ↔ Denotes greatest number document := by
  constructor
  · intro read
    unfold amount at read
    split at read
    · next value =>
      split at read
      · next bounds =>
        obtain ⟨natural, exact, fits⟩ := bounds
        cases read
        obtain ⟨number, rfl⟩ := Int.eq_ofNat_of_zero_le natural
        exact .number exact (Int.ofNat_le.mp fits)
      · cases read
    · cases read
    · next text =>
      obtain ⟨digits, fits⟩ := Decimal.readNatural_eq_ok_iff.mp (mapError_eq_ok_iff.mp read)
      exact .string digits fits
    · cases read
  · intro denotes
    cases denotes with
    | number exact fits =>
      have bounds : 0 ≤ (number : Int) ∧ (number : Int) ≤ Json.greatestInteger ∧ (number : Int) ≤ greatest :=
        ⟨Int.natCast_nonneg number, exact, Int.ofNat_le.mpr fits⟩
      rw [Json.ofNat, amount, if_pos bounds, Int.toNat_natCast]
    | string digits fits => exact mapError_eq_ok_iff.mpr (Decimal.readNatural_eq_ok_iff.mpr ⟨digits, fits⟩)

/-- Arrays and objects denote no amount, so it does not matter in what order their members are. -/
theorem readAmount_eq_ok_iff :
    readAmount greatest .ofDocument (.ofJson document) = .ok number ↔ Denotes greatest number document := by
  rw [← amount_eq_ok_iff, readAmount, bind_eq_ok_iff]
  simp only [mapError_eq_ok_iff]
  have scalar : Json.Draft.readJson .ofDocument (.ofJson document) = .ok document →
      ((∃ read, Json.Draft.readJson .ofDocument (.ofJson document) = .ok read ∧ amount greatest read = .ok number) ↔
        amount greatest document = .ok number) := by
    intro same
    rw [same]
    exact ⟨fun ⟨_, read, denotes⟩ => Except.ok.inj read ▸ denotes, fun denotes => ⟨document, rfl, denotes⟩⟩
  cases document with
  | null | boolean _ | number _ | string _ => exact scalar rfl
  | list _ | object _ =>
    refine iff_of_false ?_ nofun
    rintro ⟨read, reads, denotes⟩
    rw [Json.Draft.ofJson, Json.Draft.readJson] at reads
    obtain ⟨inner, -, reads⟩ := bind_eq_ok_iff.mp reads
    obtain ⟨values, -, reads⟩ := bind_eq_ok_iff.mp reads
    obtain ⟨-, reads⟩ := unit_bind_eq_ok_iff.mp reads
    cases reads
    cases denotes

end

/-! ### Messages -/

/-- The document is the message: an object that has each of its parts once, among other members or not, or an array
of them in order. -/
inductive Message.IsIn (message : Message) : Json → Prop where
  | object {members : List (String × Json)}
      (sender : Json.valuesOf "from" members = [.string message.sender])
      (receiver : Json.valuesOf "to" members = [.string message.receiver])
      (value : ∃ amount, Json.valuesOf "value" members = [amount] ∧ Denotes greatestValue message.value amount)
      (gasPrice : ∃ amount, Json.valuesOf "gasPrice" members = [amount] ∧ Denotes greatestGas message.gasPrice amount)
      (gasUsed : ∃ amount, Json.valuesOf "gasUsed" members = [amount] ∧ Denotes greatestGas message.gasUsed amount)
      (data : Json.valuesOf "data" members = [.string message.data]) :
      IsIn message (.object members)
  | list {value gasPrice gasUsed : Json} (isValue : Denotes greatestValue message.value value)
      (isGasPrice : Denotes greatestGas message.gasPrice gasPrice)
      (isGasUsed : Denotes greatestGas message.gasUsed gasUsed) :
      IsIn message (.list [.string message.sender, .string message.receiver, value, gasPrice, gasUsed,
        .string message.data])

namespace Message

def textCell (name : String) (view : Partial → Option String) (put : String → Partial → Partial) :
    Json.Cell Partial :=
  ⟨String, name, view, put, fun document => (Json.Draft.ofJson document).readString⟩

def amountCell (greatest : Nat) (name : String) (view : Partial → Option Nat) (put : Nat → Partial → Partial) :
    Json.Cell Partial :=
  ⟨Nat, name, view, put, fun document => readAmount greatest .ofDocument (.ofJson document)⟩

def cells : List (Json.Cell Partial) := [
  textCell "from" (·.sender) fun text state => { state with sender := some text },
  textCell "to" (·.receiver) fun text state => { state with receiver := some text },
  amountCell greatestValue "value" (·.value) fun amount state => { state with value := some amount },
  amountCell greatestGas "gasPrice" (·.gasPrice) fun amount state => { state with gasPrice := some amount },
  amountCell greatestGas "gasUsed" (·.gasUsed) fun amount state => { state with gasUsed := some amount },
  textCell "data" (·.data) fun text state => { state with data := some text }]

theorem record_consists : record.Consists .ofDocument cells where
  fields := by
    refine .cons ⟨rfl, rfl, fun _ => rfl, fun _ _ => bind_pure_eq_map⟩ ?_
    refine .cons ⟨rfl, rfl, fun _ => rfl, fun _ _ => bind_pure_eq_map⟩ ?_
    refine .cons ⟨rfl, rfl, fun _ => rfl, fun _ _ => bind_pure_eq_map⟩ ?_
    refine .cons ⟨rfl, rfl, fun _ => rfl, fun _ _ => bind_pure_eq_map⟩ ?_
    refine .cons ⟨rfl, rfl, fun _ => rfl, fun _ _ => bind_pure_eq_map⟩ ?_
    exact .cons ⟨rfl, rfl, fun _ => rfl, fun _ _ => bind_pure_eq_map⟩ .nil
  distinct := by decide
  view_put := by simp [cells, textCell, amountCell]
  apart := by simp [cells, textCell, amountCell]
  ext := by
    rintro ⟨⟩ ⟨⟩ same
    simpa [cells, textCell, amountCell] using same

theorem cells_blank : ∀ cell ∈ cells, cell.view ⟨none, none, none, none, none, none⟩ = none := by
  simp [cells, textCell, amountCell]

theorem textCell_holds_iff {name : String} {view : Partial → Option String} {put : String → Partial → Partial}
    {state : Partial} {document : Json} :
    (textCell name view put).Holds state document ↔ ∃ text, view state = some text ∧ document = .string text := by
  constructor
  · rintro ⟨text, read, view⟩
    refine ⟨text, view, ?_⟩
    cases document with
    | string other =>
      cases read
      rfl
    | null | boolean _ | number _ | list _ | object _ => cases read
  · rintro ⟨text, view, rfl⟩
    exact ⟨text, rfl, view⟩

theorem amountCell_holds_iff {greatest : Nat} {name : String} {view : Partial → Option Nat}
    {put : Nat → Partial → Partial} {state : Partial} {document : Json} :
    (amountCell greatest name view put).Holds state document ↔
      ∃ number, view state = some number ∧ Denotes greatest number document := by
  constructor
  · rintro ⟨number, read, view⟩
    exact ⟨number, view, readAmount_eq_ok_iff.mp read⟩
  · rintro ⟨number, view, denotes⟩
    exact ⟨number, readAmount_eq_ok_iff.mpr denotes, view⟩

def whole (message : Message) : Partial :=
  ⟨some message.sender, some message.receiver, some message.value, some message.gasPrice, some message.gasUsed,
    some message.data⟩

theorem describes_whole_iff {message : Message} {document : Json} :
    Json.Describes cells message.whole document ↔ message.IsIn document := by
  constructor
  · rintro (each | each)
    · simp only [cells, List.forall_mem_cons, textCell_holds_iff, amountCell_holds_iff, whole, Option.some.injEq,
        exists_eq_left', exists_eq_right] at each
      obtain ⟨sender, receiver, value, gasPrice, gasUsed, data, -⟩ := each
      exact .object sender receiver value gasPrice gasUsed data
    · simp only [cells, List.forall₂_cons_left_iff, List.forall₂_nil_left_iff, textCell_holds_iff,
        amountCell_holds_iff, whole, Option.some.injEq, exists_eq_left'] at each
      obtain ⟨_, _, rfl, ⟨_, _, rfl, ⟨value, _, isValue, ⟨gasPrice, _, isGasPrice, ⟨gasUsed, _, isGasUsed,
        ⟨_, _, rfl, rfl, rfl⟩, rfl⟩, rfl⟩, rfl⟩, rfl⟩, rfl⟩ := each
      exact .list isValue isGasPrice isGasUsed
  · rintro (⟨sender, receiver, value, gasPrice, gasUsed, data⟩ | ⟨isValue, isGasPrice, isGasUsed⟩)
    · refine .object ?_
      simp only [cells, List.forall_mem_cons, textCell_holds_iff, amountCell_holds_iff, whole, Option.some.injEq,
        exists_eq_left', exists_eq_right]
      exact ⟨sender, receiver, value, gasPrice, gasUsed, data, nofun⟩
    · refine .list ?_
      simp only [cells, List.forall₂_cons, textCell_holds_iff, amountCell_holds_iff, whole, Option.some.injEq,
        exists_eq_left']
      exact ⟨trivial, trivial, isValue, isGasPrice, isGasUsed, trivial, .nil⟩

/-- Decoding tells whether a document is a message, and which one. -/
theorem ofDocument_eq_ok_iff {message : Message} {document : Json} :
    ofDocument document = .ok message ↔ message.IsIn document := by
  have read : record.read ⟨none, none, none, none, none, none⟩ .ofDocument (.ofJson document) = .ok message.whole ↔
      Json.Describes cells message.whole document :=
    record_consists.read_eq_ok_iff rfl cells_blank
  rw [← describes_whole_iff, ← read, ofDocument, bind_eq_ok_iff]
  constructor
  · rintro ⟨state, read, complete⟩
    simp only [bind_eq_ok_iff, Json.required_eq_ok_iff, pure_eq_ok_iff] at complete
    obtain ⟨sender, hasSender, receiver, hasReceiver, value, hasValue, gasPrice, hasGasPrice, gasUsed, hasGasUsed,
      data, hasData, rfl⟩ := complete
    rwa [whole, ← hasSender, ← hasReceiver, ← hasValue, ← hasGasPrice, ← hasGasUsed, ← hasData]
  · exact fun read => ⟨message.whole, read, rfl⟩

end Message

end LedgerCapture.Legacy
