import LedgerCapture.Ledger.Receipt
import LedgerCapture.Proofs.Json.Printer
import LedgerCapture.Proofs.Ledger.Identifier

/-!
Receipts as documents. At each receipt of a tree the shard can be written in two ways, and that no message
was sent in three; whatever was chosen, the text is read as the tree, however deep it is.
-/
namespace LedgerCapture.Ledger

theorem ShardId.Written.exact {shard : ShardId} {number : Json} (written : shard.Written number) :
    number.Exact := by
  cases written with
  | number =>
    have fits : shard.number.toNat ≤ 4294967295 := shard.number_le_greatest
    show Json.leastInteger ≤ (shard.number.toNat : Int) ∧ (shard.number.toNat : Int) ≤ Json.greatestInteger
    have least : Json.leastInteger ≤ 0 := by decide
    have greatest : (4294967295 : Int) ≤ Json.greatestInteger := by decide
    omega
  | digits => trivial

namespace Receipt

mutual

/-- A document that holds the tree, with the fields in the order of their declaration. -/
inductive Written : Receipt → Json → Prop where
  | mk {contract : Address} {shard : ShardId} {block : BlockHash} {sent : List Receipt} {number : Json}
      {members : List (String × Json)} (shardWritten : shard.Written number)
      (sentWritten : WrittenSent sent members) :
    Written (.mk contract shard block sent)
      (.object ([("contractAddress", contract.toJson), ("shardId", number), ("blockHash", .string block.text)] ++
        members))

/-- The member that lists the receipts of the messages sent. If there are none it can be left out or null. -/
inductive WrittenSent : List Receipt → List (String × Json) → Prop where
  | absent : WrittenSent [] []
  | null : WrittenSent [] [("outputReceipts", .null)]
  | list {sent : List Receipt} {items : List Json} (itemsWritten : WrittenItems sent items) :
    WrittenSent sent [("outputReceipts", .list items)]

inductive WrittenItems : List Receipt → List Json → Prop where
  | nil : WrittenItems [] []
  | cons {receipt : Receipt} {rest : List Receipt} {item : Json} {items : List Json}
      (itemWritten : Written receipt item) (itemsWritten : WrittenItems rest items) :
    WrittenItems (receipt :: rest) (item :: items)

end

mutual

/-- There is a document for every tree. -/
theorem exists_written : (receipt : Receipt) → ∃ document, receipt.Written document
  | mk _ _ _ sent =>
    let ⟨_, itemsWritten⟩ := exists_writtenItems sent
    ⟨_, .mk .number (.list itemsWritten)⟩

theorem exists_writtenItems : (sent : List Receipt) → ∃ items, WrittenItems sent items
  | [] => ⟨_, .nil⟩
  | receipt :: rest =>
    let ⟨_, itemWritten⟩ := exists_written receipt
    let ⟨_, itemsWritten⟩ := exists_writtenItems rest
    ⟨_, .cons itemWritten itemsWritten⟩

end

/-! ### The text of the document -/

mutual

/-- The only numbers in the document are those of shards. -/
theorem Written.exact {receipt : Receipt} {document : Json} (written : receipt.Written document) :
    document.Exact := by
  match receipt, document, written with
  | _, _, .mk shardWritten sentWritten =>
    exact ⟨trivial, shardWritten.exact, trivial, sentWritten.exact⟩

theorem WrittenSent.exact {sent : List Receipt} {members : List (String × Json)}
    (written : WrittenSent sent members) : Json.ExactMembers members := by
  match sent, members, written with
  | _, _, .absent => exact trivial
  | _, _, .null => exact ⟨trivial, trivial⟩
  | _, _, .list itemsWritten => exact ⟨itemsWritten.exact, trivial⟩

theorem WrittenItems.exact {sent : List Receipt} {items : List Json} (written : WrittenItems sent items) :
    Json.ExactItems items := by
  match sent, items, written with
  | _, _, .nil => exact trivial
  | _, _, .cons itemWritten itemsWritten => exact ⟨itemWritten.exact, itemsWritten.exact⟩

end

/-! ### Reading the document -/

/-- The members that every receipt has. -/
theorem readMembers_required {reading : Json.Reading} {contract : Address} {shard : ShardId} {number : Json}
    (written : shard.Written number) (block : BlockHash) (members : List (String × Json)) :
    readMembers reading .empty (Json.Draft.ofMembers ([("contractAddress", contract.toJson), ("shardId", number),
      ("blockHash", .string block.text)] ++ members)) =
    readMembers reading ⟨some contract, some shard, some block, none⟩ (Json.Draft.ofMembers members) := by
  have readBlock : (Json.Draft.ofJson (.string block.text)).readString = .ok block.text := rfl
  simp only [List.cons_append, List.nil_append, Json.Draft.ofMembers, readMembers, Json.wellFormed_sound, once,
    Partial.empty, bind, Except.bind, contract.read_toJson, written.read, readBlock, if_pos, reduceIte,
    String.reduceEq]

theorem readSent_list {sent : List Receipt} {items : List Json}
    (read : readAll .unlimited (Json.Draft.ofItems items) = .ok sent) :
    readSent .unlimited (.ofJson (.list items)) = .ok sent := by
  have enter : Json.Reading.unlimited.enter = .ok .unlimited := rfl
  rw [Json.Draft.ofJson, readSent, enter]
  simp only [bind, Except.bind, read]
  rfl

mutual

/-- However deep the tree is, its document is read as the tree. -/
theorem Written.read {receipt : Receipt} {document : Json} (written : receipt.Written document) :
    Receipt.read .unlimited (.ofJson document) = .ok receipt := by
  match receipt, document, written with
  | .mk contract shard block sent, _, .mk shardWritten sentWritten =>
    obtain ⟨found, read, same⟩ := sentWritten.read contract shard block
    have enter : Json.Reading.unlimited.enter = .ok .unlimited := rfl
    rw [Json.Draft.ofJson, Receipt.read, enter]
    simp only [bind, Except.bind, readMembers_required shardWritten, read]
    rw [← same]
    rfl

theorem WrittenSent.read {sent : List Receipt} {members : List (String × Json)}
    (written : WrittenSent sent members) (contract : Address) (shard : ShardId) (block : BlockHash) :
    ∃ found : Option (List Receipt), readMembers .unlimited ⟨some contract, some shard, some block, none⟩
        (Json.Draft.ofMembers members) = .ok ⟨some contract, some shard, some block, found⟩ ∧
      found.getD [] = sent := by
  match sent, members, written with
  | _, _, .absent => exact ⟨none, rfl, rfl⟩
  | _, _, .null => exact ⟨some [], rfl, rfl⟩
  | sent, _, .list itemsWritten =>
    refine ⟨some sent, ?_, rfl⟩
    have read := readSent_list itemsWritten.read
    simp only [Json.Draft.ofMembers, readMembers, Json.wellFormed_sound, once, bind, Except.bind, read, reduceIte,
      String.reduceEq]

theorem WrittenItems.read {sent : List Receipt} {items : List Json} (written : WrittenItems sent items) :
    readAll .unlimited (Json.Draft.ofItems items) = .ok sent := by
  match sent, items, written with
  | _, _, .nil => rfl
  | _, _, .cons itemWritten itemsWritten =>
    rw [Json.Draft.ofItems, readAll, itemWritten.read]
    simp only [bind, Except.bind, itemsWritten.read]
    rfl

end

end Receipt

end LedgerCapture.Ledger
