import LedgerCapture.Gateway.Program
import LedgerCapture.Proofs.Ledger.Address
import LedgerCapture.Proofs.Ledger.Search

/-!
Receipts by the texts of their addresses. The document of a receipt tells an address for each receipt of the tree; the
search for an execution ends with the first of them that is another spelling of the address that is searched for.
-/
namespace LedgerCapture.Ledger

namespace Receipt

/-! ### Addresses in a document -/

/-- The document of a receipt names its contract with this text: under the field's name, or first in an array. -/
inductive Names : Json.Draft → String → Prop where
  | member {members : List (Json.Scalar String × Json.Draft)} {ending : Json.Ending} {key : Json.Scalar String}
      {value : Json.Draft} {text : String} (listed : (key, value) ∈ members)
      (named : key.read = .ok "contractAddress") (string : value.readString = .ok text) :
      Names (.object members ending) text
  | first {value : Json.Draft} {rest : List Json.Draft} {ending : Json.Ending} {text : String}
      (string : value.readString = .ok text) : Names (.list (value :: rest) ending) text

inductive Lists : Json.Draft → List Json.Draft → Prop where
  | null : Lists (.literal .null) []
  | list {items : List Json.Draft} {ending : Json.Ending} : Lists (.list items ending) items

/-- The document of a receipt has these documents of receipts below it: under the field's name, or last in an array
of four. -/
inductive Sends : Json.Draft → List Json.Draft → Prop where
  | absent {members : List (Json.Scalar String × Json.Draft)} {ending : Json.Ending}
      (absent : ∀ member ∈ members, member.1.read ≠ .ok "outputReceipts") : Sends (.object members ending) []
  | member {members : List (Json.Scalar String × Json.Draft)} {ending : Json.Ending} {key : Json.Scalar String}
      {value : Json.Draft} {drafts : List Json.Draft} (listed : (key, value) ∈ members)
      (named : key.read = .ok "outputReceipts") (lists : Lists value drafts) : Sends (.object members ending) drafts
  | short {contract shard block : Json.Draft} {ending : Json.Ending} : Sends (.list [contract, shard, block] ending) []
  | last {contract shard block value : Json.Draft} {ending : Json.Ending} {drafts : List Json.Draft}
      (lists : Lists value drafts) : Sends (.list [contract, shard, block, value] ending) drafts

mutual

/-- The addresses that a document tells, a receipt's own before those below it. -/
inductive Tells : Json.Draft → List String → Prop where
  | mk {draft : Json.Draft} {text : String} {drafts : List Json.Draft} {texts : List String}
      (names : Names draft text) (sends : Sends draft drafts) (below : TellsAll drafts texts) :
      Tells draft (text :: texts)

inductive TellsAll : List Json.Draft → List String → Prop where
  | nil : TellsAll [] []
  | cons {draft : Json.Draft} {drafts : List Json.Draft} {texts others : List String} (first : Tells draft texts)
      (rest : TellsAll drafts others) : TellsAll (draft :: drafts) (texts ++ others)

end

/-! ### Reading them -/

section

variable {reading : Json.Reading} {draft : Json.Draft} {drafts : List Json.Draft} {receipt : Receipt}
  {receipts : List Receipt} {address : Address}

theorem exists_text_of_read (reads : Address.read draft = .ok address) :
    ∃ text, draft.readString = .ok text ∧ Address.parse text = .ok address := by
  obtain ⟨text, string, parsed⟩ := bind_eq_ok_iff.mp reads
  exact ⟨text, string, mapError_eq_ok_iff.mp parsed⟩

theorem forall₂_of_readAll (reads : readAll reading drafts = .ok receipts) :
    List.Forall₂ (fun draft receipt => read reading draft = .ok receipt) drafts receipts := by
  induction drafts generalizing receipts with
  | nil =>
    rw [readAll] at reads
    cases reads
    exact .nil
  | cons draft rest ih =>
    rw [readAll] at reads
    obtain ⟨receipt, readFirst, others⟩ := bind_eq_ok_iff.mp reads
    obtain ⟨below, readRest, same⟩ := bind_eq_ok_iff.mp others
    cases same
    exact .cons readFirst (ih readRest)

theorem exists_lists_of_readSent (reads : readSent reading draft = .ok receipts) :
    ∃ drafts inner, Lists draft drafts ∧
      List.Forall₂ (fun draft receipt => read inner draft = .ok receipt) drafts receipts := by
  cases draft with
  | literal value =>
    cases value with
    | null =>
      rw [readSent] at reads
      cases reads
      exact ⟨[], reading, .null, .nil⟩
    | boolean value => rw [readSent] at reads; cases reads
  | list items ending =>
    rw [readSent] at reads
    obtain ⟨inner, -, others⟩ := bind_eq_ok_iff.mp reads
    obtain ⟨below, readItems, others⟩ := bind_eq_ok_iff.mp others
    obtain ⟨-, -, same⟩ := bind_eq_ok_iff.mp others
    cases same
    exact ⟨items, inner, .list, forall₂_of_readAll readItems⟩
  | missing fault => rw [readSent] at reads; cases reads
  | number value => rw [readSent] at reads; cases reads
  | string value => rw [readSent] at reads; cases reads
  | object members ending => rw [readSent] at reads; cases reads

/-- What has been read of a field after some members: what was there before, if none of them has the field's name, or
what is read from one that has it. -/
inductive Origin {α : Type} (name : String) (read : Json.Draft → Except Json.DecodeError α) (before : Option α) :
    List (Json.Scalar String × Json.Draft) → Option α → Prop where
  | before {members : List (Json.Scalar String × Json.Draft)}
      (absent : ∀ member ∈ members, member.1.read ≠ .ok name) : Origin name read before members before
  | member {members : List (Json.Scalar String × Json.Draft)} {key : Json.Scalar String} {value : Json.Draft}
      {found : α} (listed : (key, value) ∈ members) (named : key.read = .ok name) (reads : read value = .ok found) :
      Origin name read before members (some found)

namespace Origin

variable {α : Type} {name : String} {readField : Json.Draft → Except Json.DecodeError α} {before after : Option α}
  {rest : List (Json.Scalar String × Json.Draft)} {key : Json.Scalar String} {value : Json.Draft} {found : α}

theorem cons_of_other (other : key.read ≠ .ok name) (origin : Origin name readField before rest after) :
    Origin name readField before ((key, value) :: rest) after := by
  cases origin with
  | before absent => exact .before (List.forall_mem_cons.mpr ⟨other, absent⟩)
  | member listed named reads => exact .member (List.mem_cons_of_mem _ listed) named reads

theorem cons_of_field (named : key.read = .ok name) (reads : readField value = .ok found)
    (origin : Origin name readField (some found) rest after) :
    Origin name readField before ((key, value) :: rest) after := by
  cases origin with
  | before absent => exact .member (List.mem_cons_self ..) named reads
  | member listed named reads => exact .member (List.mem_cons_of_mem _ listed) named reads

end Origin

/-- The address and the receipts below come from members with the fields' names. -/
theorem origin_of_readMembers {members : List (Json.Scalar String × Json.Draft)} {state final : Partial}
    (reads : readMembers reading state members = .ok final) :
    Origin "contractAddress" Address.read state.contract members final.contract ∧
      Origin "outputReceipts" (readSent reading) state.sent members final.sent := by
  induction members generalizing state with
  | nil =>
    rw [readMembers] at reads
    cases reads
    exact ⟨.before (List.forall_mem_nil _), .before (List.forall_mem_nil _)⟩
  | cons member rest ih =>
    obtain ⟨key, value⟩ := member
    rw [readMembers] at reads
    obtain ⟨name, readKey, onward⟩ := bind_eq_ok_iff.mp reads
    have named : key.read = .ok name := mapError_eq_ok_iff.mp readKey
    have other {field : String} (differ : name ≠ field) : key.read ≠ .ok field := by
      rw [named]
      exact fun same => differ (Except.ok.inj same)
    split at onward
    · next same =>
      obtain ⟨-, -, onward⟩ := bind_eq_ok_iff.mp onward
      obtain ⟨address, readValue, onward⟩ := bind_eq_ok_iff.mp onward
      obtain ⟨contract, sent⟩ := ih onward
      exact ⟨contract.cons_of_field (same ▸ named) readValue, sent.cons_of_other (other (by simp [same]))⟩
    split at onward
    · next differs same =>
      obtain ⟨-, -, onward⟩ := bind_eq_ok_iff.mp onward
      obtain ⟨shard, -, onward⟩ := bind_eq_ok_iff.mp onward
      obtain ⟨contract, sent⟩ := ih onward
      exact ⟨contract.cons_of_other (other differs), sent.cons_of_other (other (by simp [same]))⟩
    split at onward
    · next differs _ same =>
      obtain ⟨-, -, onward⟩ := bind_eq_ok_iff.mp onward
      obtain ⟨block, -, onward⟩ := bind_eq_ok_iff.mp onward
      obtain ⟨contract, sent⟩ := ih onward
      exact ⟨contract.cons_of_other (other differs), sent.cons_of_other (other (by simp [same]))⟩
    split at onward
    · next differs _ _ same =>
      obtain ⟨-, -, onward⟩ := bind_eq_ok_iff.mp onward
      obtain ⟨below, readValue, onward⟩ := bind_eq_ok_iff.mp onward
      obtain ⟨contract, sent⟩ := ih onward
      exact ⟨contract.cons_of_other (other differs), sent.cons_of_field (same ▸ named) readValue⟩
    · next differs _ _ differsSent =>
      obtain ⟨-, -, onward⟩ := bind_eq_ok_iff.mp onward
      obtain ⟨contract, sent⟩ := ih onward
      exact ⟨contract.cons_of_other (other differs), sent.cons_of_other (other differsSent)⟩

structure ReadFrom (draft : Json.Draft) (receipt : Receipt) : Prop where
  contract : ∃ text, Names draft text ∧ Address.parse text = .ok receipt.contract
  sent : ∃ drafts inner, Sends draft drafts ∧
    List.Forall₂ (fun draft receipt => read inner draft = .ok receipt) drafts receipt.sent

theorem readFrom_of_finish {members : List (Json.Scalar String × Json.Draft)} {ending : Json.Ending}
    {final : Partial} (reads : readMembers reading .empty members = .ok final)
    (finished : final.finish = .ok receipt) : ReadFrom (.object members ending) receipt := by
  obtain ⟨originContract, originSent⟩ := origin_of_readMembers reads
  obtain ⟨contract, shard, block, sent⟩ := final
  unfold Partial.finish at finished
  split at finished
  · next same =>
    cases same
    cases finished
    refine ⟨?_, ?_⟩
    · cases originContract with
      | member listed named readValue =>
        obtain ⟨text, string, parsed⟩ := exists_text_of_read readValue
        exact ⟨text, .member listed named string, parsed⟩
    · cases originSent with
      | before absent => exact ⟨[], reading, .absent absent, .nil⟩
      | member listed named readValue =>
        obtain ⟨drafts, inner, lists, below⟩ := exists_lists_of_readSent readValue
        exact ⟨drafts, inner, .member listed named lists, below⟩
  all_goals cases finished

theorem tooShort_ne_ok {ending : Json.Ending} {count : Nat} : tooShort ending count ≠ .ok receipt := by
  intro reads
  obtain ⟨-, -, thrown⟩ := bind_eq_ok_iff.mp reads
  cases thrown

theorem readFrom_of_readFields {items : List Json.Draft} {ending : Json.Ending}
    (reads : readFields reading ending items = .ok receipt) : ReadFrom (.list items ending) receipt := by
  unfold readFields at reads
  split at reads
  · exact absurd reads tooShort_ne_ok
  · obtain ⟨-, -, short⟩ := bind_eq_ok_iff.mp reads
    exact absurd short tooShort_ne_ok
  · obtain ⟨-, -, onward⟩ := bind_eq_ok_iff.mp reads
    obtain ⟨-, -, short⟩ := bind_eq_ok_iff.mp onward
    exact absurd short tooShort_ne_ok
  · next contract shard block rest =>
    obtain ⟨address, readContract, onward⟩ := bind_eq_ok_iff.mp reads
    obtain ⟨number, -, onward⟩ := bind_eq_ok_iff.mp onward
    obtain ⟨hash, -, onward⟩ := bind_eq_ok_iff.mp onward
    obtain ⟨text, string, parsed⟩ := exists_text_of_read readContract
    split at onward
    · obtain ⟨-, -, same⟩ := bind_eq_ok_iff.mp onward
      cases same
      exact ⟨⟨text, .first string, parsed⟩, ⟨[], reading, .short, .nil⟩⟩
    · next sent surplus =>
      obtain ⟨below, readBelow, onward⟩ := bind_eq_ok_iff.mp onward
      split at onward
      · obtain ⟨-, -, same⟩ := bind_eq_ok_iff.mp onward
        cases same
        obtain ⟨drafts, inner, lists, each⟩ := exists_lists_of_readSent readBelow
        exact ⟨⟨text, .first string, parsed⟩, ⟨drafts, inner, .last lists, each⟩⟩
      · cases onward

theorem readFrom_of_read (reads : read reading draft = .ok receipt) : ReadFrom draft receipt := by
  cases draft with
  | object members ending =>
    rw [read] at reads
    obtain ⟨inner, -, onward⟩ := bind_eq_ok_iff.mp reads
    obtain ⟨final, readAll, onward⟩ := bind_eq_ok_iff.mp onward
    obtain ⟨-, -, finished⟩ := bind_eq_ok_iff.mp onward
    exact readFrom_of_finish readAll finished
  | list items ending =>
    rw [read] at reads
    obtain ⟨inner, -, onward⟩ := bind_eq_ok_iff.mp reads
    exact readFrom_of_readFields onward
  | missing fault => rw [read] at reads; cases reads
  | literal value => rw [read] at reads; cases reads
  | number value => rw [read] at reads; cases reads
  | string value => rw [read] at reads; cases reads

/-! ### The whole tree -/

/-- The texts are spellings of the addresses of the receipts, one for each. -/
def Spelled (texts : List String) (receipts : List Receipt) : Prop :=
  List.Forall₂ (fun text receipt => Address.parse text = .ok receipt.contract) texts receipts

theorem size_le_sizeAll (listed : receipt ∈ receipts) : receipt.size ≤ sizeAll receipts := by
  obtain ⟨before, after, rfl⟩ := List.append_of_mem listed
  rw [sizeAll_append, sizeAll]
  omega

/-- A receipt that was read has the addresses that its document tells. -/
theorem exists_tells_of_read (reads : read reading draft = .ok receipt) :
    ∃ texts, Tells draft texts ∧ Spelled texts receipt.preorder := by
  -- on the number of receipts, since those below were read from documents of their own
  induction size : receipt.size using Nat.strongRecOn generalizing reading draft receipt with
  | ind size ih =>
    subst size
    obtain ⟨⟨text, names, parsed⟩, drafts, inner, sends, each⟩ := readFrom_of_read reads
    have below : ∃ texts, TellsAll drafts texts ∧ Spelled texts (receipt.sent.flatMap preorder) := by
      have smaller : ∀ other ∈ receipt.sent, other.size < receipt.size := by
        intro other listed
        rw [size_eq receipt]
        exact Nat.lt_succ_of_le (size_le_sizeAll listed)
      generalize receipt.sent = sent at each smaller
      clear sends
      induction each with
      | nil => exact ⟨[], .nil, .nil⟩
      | cons readFirst _ ihRest =>
        obtain ⟨first, rest⟩ := List.forall_mem_cons.mp smaller
        obtain ⟨texts, tells, spelled⟩ := ih _ first readFirst rfl
        obtain ⟨others, tellsRest, spelledRest⟩ := ihRest rest
        exact ⟨texts ++ others, .cons tells tellsRest, List.flatMap_cons ▸ List.rel_append spelled spelledRest⟩
    obtain ⟨texts, tells, spelled⟩ := below
    exact ⟨text :: texts, .mk names sends tells, preorder_eq_cons receipt ▸ .cons parsed spelled⟩

/-! ### Searching by texts -/

def FirstAlike (texts : List String) (printed : String) (receipts : List Receipt) (execution : Receipt) : Prop :=
  ∃ before text after, texts = before ++ text :: after ∧ (∀ other ∈ before, ¬ Address.Alike other printed) ∧
    Address.Alike text printed ∧ receipts[before.length]? = some execution

variable {texts : List String} {printed : String} {target : Address} {execution root : Receipt}

theorem find?_eq_some_iff_firstAlike (spelled : Spelled texts receipts) (parsed : Address.parse printed = .ok target) :
    (receipts.find? fun receipt => receipt.contract = target) = some execution ↔
      FirstAlike texts printed receipts execution := by
  induction spelled with
  | nil =>
    refine ⟨nofun, ?_⟩
    rintro ⟨before, text, after, same, -⟩
    simp at same
  | @cons text receipt texts receipts spelledFirst _ ih =>
    have alike := Address.eq_iff_alike spelledFirst parsed
    by_cases wanted : receipt.contract = target
    · rw [List.find?_cons_of_pos (by simpa using wanted), Option.some.injEq]
      constructor
      · rintro rfl
        exact ⟨[], text, texts, rfl, nofun, alike.mp wanted, rfl⟩
      · rintro ⟨before, other, after, same, foreign, -, stands⟩
        cases before with
        | nil => exact Option.some.inj stands
        | cons first before =>
          cases same
          exact absurd (alike.mp wanted) (foreign text (List.mem_cons_self ..))
    · rw [List.find?_cons_of_neg (by simpa using wanted), ih]
      constructor
      · rintro ⟨before, other, after, rfl, foreign, found, stands⟩
        refine ⟨text :: before, other, after, rfl, ?_, found, stands⟩
        exact List.forall_mem_cons.mpr ⟨fun same => wanted (alike.mpr same), foreign⟩
      · rintro ⟨before, other, after, same, foreign, found, stands⟩
        cases before with
        | nil =>
          cases same
          exact absurd (alike.mpr found) wanted
        | cons first before =>
          cases same
          exact ⟨before, other, after, rfl, fun each listed => foreign each (List.mem_cons_of_mem _ listed), found,
            stands⟩

theorem contract_eq_iff_of_spelled (spelled : Spelled texts receipts) (parsed : Address.parse printed = .ok target) :
    (∀ receipt ∈ receipts, receipt.contract ≠ target) ↔ ∀ text ∈ texts, ¬ Address.Alike text printed := by
  induction spelled with
  | nil => exact ⟨fun _ => nofun, fun _ => nofun⟩
  | cons spelledFirst _ ih =>
    rw [List.forall_mem_cons, List.forall_mem_cons, ih, ← Address.eq_iff_alike spelledFirst parsed]

/-- In a tree that was read from a document, the search compares what the document tells with what was printed. -/
structure SearchedByText (texts : List String) (printed : String) (target : Address) (root : Receipt) : Prop where
  found : ∀ execution, root.find? target = some execution ↔ FirstAlike texts printed root.preorder execution
  missed : root.find? target = none ↔ ∀ text ∈ texts, ¬ Address.Alike text printed

theorem searchedByText (spelled : Spelled texts root.preorder) (parsed : Address.parse printed = .ok target) :
    SearchedByText texts printed target root where
  found execution := by
    rw [find?_eq_preorder_find?]
    exact find?_eq_some_iff_firstAlike spelled parsed
  missed := find?_eq_none_iff.trans (contract_eq_iff_of_spelled spelled parsed)

end

end Receipt

namespace Address

/-- Every spelling of an address is kept in one form: the mark and the digits in lower case. It is read back as the same
address, spellings give one address exactly if their digits agree up to case, and so the search for an execution
compares the texts that were printed up to blanks, marks and case. -/
theorem one_form_for_all_spellings :
    (∀ text address, parse text = .ok address ↔ ∃ digits, Spells text.toList digits ∧
      address.text = "0x" ++ String.ofList (digits.map Char.toLower)) ∧
    (∀ text, (∃ address, parse text = .ok address) ↔ ∃ digits, Spells text.toList digits) ∧
    (∀ address : Address, parse address.text = .ok address ∧
      ∀ reading, Json.decode (fun _ => read) reading address.toJson.compact = .ok address) ∧
    (∀ text other digits others, Spells text.toList digits → Spells other.toList others →
      (parse text = parse other ↔ digits.map Char.toLower = others.map Char.toLower)) ∧
    (∀ address : Address, ∃ digits, digits ≠ [] ∧ (∀ c ∈ digits, isLowerHexDigit c = true) ∧
      address.text = "0x" ++ String.ofList digits) ∧
    (∀ reading draft root, Receipt.read reading draft = .ok root → ∃ texts, Receipt.Tells draft texts ∧
      ∀ command printed target, WalletProgram.addressFrom command printed = .ok target →
        Receipt.SearchedByText texts printed target root) := by
  refine ⟨fun text address => ?_, fun text => ⟨?_, ?_⟩, fun address => ⟨address.parse_text, address.decode_compact⟩,
    fun text other digits others spells spellsOther => ?_, fun address => ?_, fun reading draft root reads => ?_⟩
  · rw [parse_eq_ok_iff]
    refine exists_congr fun digits => and_congr_right fun _ => ?_
    rw [Address.text, String.append_right_inj, String.ofList_inj]
  · rintro ⟨address, parsed⟩
    obtain ⟨digits, spells, -⟩ := parse_eq_ok_iff.mp parsed
    exact ⟨digits, spells⟩
  · rintro ⟨digits, spells⟩
    exact exists_parse_of_spells spells
  · obtain ⟨address, parsed⟩ := exists_parse_of_spells spells
    obtain ⟨otherAddress, parsedOther⟩ := exists_parse_of_spells spellsOther
    rw [parsed, parsedOther, Except.ok.injEq, eq_iff_alike parsed parsedOther]
    constructor
    · rintro ⟨_, _, spellsAgain, spellsOtherAgain, same⟩
      rwa [spellsAgain.unique spells, spellsOtherAgain.unique spellsOther] at same
    · exact fun same => ⟨digits, others, spells, spellsOther, same⟩
  · exact ⟨address.digits, address.nonempty, List.all_eq_true.mp address.lower, rfl⟩
  · obtain ⟨texts, tells, spelled⟩ := Receipt.exists_tells_of_read reads
    exact ⟨texts, tells, fun command printed target found =>
      Receipt.searchedByText spelled (mapError_eq_ok_iff.mp found)⟩

end Address

end LedgerCapture.Ledger
