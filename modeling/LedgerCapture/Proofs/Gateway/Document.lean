import LedgerCapture.Gateway.Program
import LedgerCapture.Proofs.Gateway.Marker
import LedgerCapture.Proofs.Ledger.ReceiptText

/-!
Documents inside a longer text. A document with an end of its own is read as if it stood alone, whatever
follows it; so what a program prints around a receipt makes no difference to the receipt.
-/
namespace LedgerCapture

section

variable {α : Type} {read : Json.Reading → Json.Draft → Except Json.DecodeError α} {reading : Json.Reading}
  {follow : List Char → Prop} {draft : Json.Draft}

/-- What stands behind the document makes no difference to it. -/
theorem WalletProgram.documentAfter_of_behind {marker text : String} {document more : List Char}
    (behind : behindMarker? marker.toList text.toList = some (document ++ more))
    (spells : Json.Spells follow document draft) (follows : follow more) :
    documentAfter read marker text = (read .unlimited draft).mapError fun fault =>
      "invalid JSON after '" ++ Text.trim marker ++ "': " ++ fault.message := by
  rw [documentAfter, behind]
  show (read .unlimited (Json.Draft.ofText _).1).mapError _ = _
  rw [Json.Draft.ofText_append spells follows]

end

namespace Ledger.Receipt

open WalletProgram

/-- A tree of receipts is read from every text that was written for it, alone or behind the first marker of
what a program printed. -/
theorem decode_written {receipt : Receipt} {document : Json} (written : receipt.Written document) :
    Json.decode read .unlimited document.compact = .ok receipt ∧
    ∀ lead trailing : String,
      (∀ place < lead.toList.length, ¬ OccursAt receiptMarker.toList
        (lead ++ receiptMarker ++ document.compact ++ trailing).toList place) →
      documentAfter read receiptMarker (lead ++ receiptMarker ++ document.compact ++ trailing) = .ok receipt := by
  have spells := Json.spells_compact written.exact
  constructor
  · rw [Json.decode_of_spells spells.stops, written.read]
  · intro lead trailing first
    have follows : document.Follows trailing.toList := by
      cases written with
      | mk _ _ => exact trivial
    have whole : (lead ++ receiptMarker ++ document.compact ++ trailing).toList =
        lead.toList ++ (receiptMarker.toList ++ (document.compact.toList ++ trailing.toList)) := by
      simp only [String.toList_append, List.append_assoc]
    have behind := behindMarker?_eq_some_iff.mpr ⟨lead.toList, whole, first⟩
    rw [documentAfter_of_behind behind spells follows, written.read]
    rfl

def mixedReceipt : Receipt :=
  .mk ⟨['a', 'b'], by decide, by decide⟩ ⟨1⟩ ⟨"0x1\n"⟩
    [.mk ⟨['c'], by decide, by decide⟩ ⟨2⟩ ⟨"\"0x2\""⟩ []]

def mixedDocument : Json :=
  .object [("contractAddress", .string "0xab"), ("shardId", .string "1"), ("blockHash", .string "0x1\n"),
    ("outputReceipts", .list [.object [("contractAddress", .string "0xc"), ("shardId", .ofNat 2),
      ("blockHash", .string "\"0x2\""), ("outputReceipts", .null)]])]

theorem decode_written_mixed :
    mixedReceipt.Written mixedDocument ∧
    Json.decode read .unlimited mixedDocument.compact = .ok mixedReceipt ∧
    documentAfter read receiptMarker ("ok " ++ receiptMarker ++ mixedDocument.compact ++ " \x7b") =
      .ok mixedReceipt := by
  have written : mixedReceipt.Written mixedDocument := .mk .digits (.list (.cons (.mk .number .null) .nil))
  obtain ⟨alone, behind⟩ := decode_written written
  -- the marker starts with another letter than each of the first three places
  have apart : ∀ more : List Char, ∀ place < 3,
      ¬ OccursAt receiptMarker.toList ('o' :: 'k' :: ' ' :: more) place := by
    rintro more place before ⟨rest, same⟩
    have head : some 'R' = (List.drop place ('o' :: 'k' :: ' ' :: more)).head? := congrArg List.head? same
    match place, before with
    | 0, _ | 1, _ | 2, _ => cases head
  refine ⟨written, alone, behind "ok " " \x7b" fun place before => ?_⟩
  have lead : "ok ".toList = ['o', 'k', ' '] := rfl
  simp only [String.toList_append, List.append_assoc, lead, List.cons_append, List.nil_append]
  exact apart _ place before

end Ledger.Receipt

end LedgerCapture
