import LedgerCapture.Gateway.Rpc
import LedgerCapture.Proofs.Gateway.Document
import LedgerCapture.Proofs.Gateway.Failure
import LedgerCapture.Proofs.Json.Grammar
import LedgerCapture.Proofs.Text.Utf8
import LedgerCapture.Rehearsal.Outside

/-!
The two ways to ask the ledger. A program prints a document behind a marker, a node sends it inside an
answer; both readers meet the same draft, so they find the same value or none.
-/
namespace LedgerCapture

open Json.Grammar

section

variable {α : Type} {read : Json.Reading → Json.Draft → Except Json.DecodeError α} {document : String}
  {draft : Json.Draft} {value : α} {outside : Outside} {world : World}

/-! ### What a program prints -/

namespace WalletProgram

def Prints (program : WalletProgram) (arguments : List String) (outside : Outside) (world : World)
    (text : String) : Prop :=
  ∃ output, outside.process world.journal (program.start arguments) = .ok output ∧ output.success = true ∧
    output.stdout = text.toUTF8

theorem exists_run_of_prints {program : WalletProgram} {arguments : List String} {text : String}
    (prints : program.Prints arguments outside world text) (shows : Text.isBlankText text = false) :
    ∃ final, program.run arguments outside world = (.ok text, final) := by
  obtain ⟨output, started, success, printed⟩ := prints
  have counts : effectiveText (Text.lossy output.stdout) (Text.lossy output.stderr) = text := by
    rw [printed, Text.lossy_toUTF8, effectiveText, if_neg (by rw [shows]; decide)]
  have ran : program.run arguments outside world = _ :=
    Run.bind_of_ok (Run.mapError_of_ok (ProcessStart.run_of_ok started))
  rw [if_pos success, counts] at ran
  exact ⟨_, ran⟩

/-- A program that prints a document behind the marker shows what the document's draft holds. -/
theorem runDocument_eq_ok_iff {program : WalletProgram} {arguments : List String} {marker : String}
    (prints : program.Prints arguments outside world (marker ++ document))
    (shows : Text.isBlankText (marker ++ document) = false) (spells : Json.Spells Json.Stops document.toList draft) :
    (program.runDocument arguments marker read outside world).1 = .ok value ↔ read .unlimited draft = .ok value := by
  obtain ⟨final, ran⟩ := exists_run_of_prints prints shows
  have behind : behindMarker? marker.toList (marker ++ document).toList = some (document.toList ++ []) :=
    behindMarker?_eq_some_iff.mpr ⟨[], by rw [String.toList_append, List.append_nil, List.nil_append], nofun⟩
  rw [runDocument, Run.bind_of_ok ran]
  show ((documentAfter read marker (marker ++ document)).mapError _ : Except GatewayError α) = _ ↔ _
  rw [documentAfter_of_behind behind spells .nil]
  rw [mapError_eq_ok_iff, mapError_eq_ok_iff]

end WalletProgram

/-! ### What a node sends -/

namespace RemoteNode

def Returns (node : RemoteNode) (method : String) (parameters : List Json) (outside : Outside) (world : World)
    (text : String) : Prop :=
  ∃ url status, Url.parse node.endpoint = .url url ∧ 200 ≤ status ∧ status < 300 ∧
    outside.request world.journal
      ⟨url.text, question ((world.journal.filter isRequest).length + 1) method parameters⟩ =
        .answered status (.ok text)

theorem call_of_returns {node : RemoteNode} {method : String} {parameters : List Json} {text : String}
    (returns : node.Returns method parameters outside world text) :
    (node.call read method parameters outside world).1 = readAnswer read method text := by
  obtain ⟨url, status, parsed, least, greatest, answered⟩ := returns
  rw [call, parsed]
  show node.interpret read method url.text (outside.request world.journal _) = _
  rw [answered, interpret, if_pos ⟨least, greatest⟩]
  rfl

/-- A rehearsal with a list of answers gives each question the one whose turn it is. -/
theorem returns_of_answering {node : RemoteNode} {url : Url} {answers : List HttpAnswer} {status : Nat} {text : String}
    (parsed : Url.parse node.endpoint = .url url) (least : 200 ≤ status) (greatest : status < 300)
    (turn : answers[(world.journal.filter isRequest).length]? = some (.answered status (.ok text)))
    (method : String) (parameters : List Json) :
    node.Returns method parameters (Rehearsal.answering answers outside) world text := by
  refine ⟨url, status, parsed, least, greatest, ?_⟩
  show answers.getD (world.journal.filter isRequest).length _ = _
  rw [List.getD_eq_getElem?_getD, turn]
  rfl

theorem readOption_of_ne_null (present : draft ≠ .literal .null) (reading : Json.Reading) :
    draft.readOption read reading = (read reading draft).map some := by
  unfold Json.Draft.readOption
  split
  case h_1 => exact absurd rfl present
  case h_2 => rfl

theorem Response.read_result (draft : Json.Draft) :
    Response.read read .unlimited (.object [(.sound "result", draft)] .closed) =
      (draft.readOption read .unlimited).map fun result => ⟨some result, none⟩ := by
  have readMember : (record read).readMembers .unlimited ⟨none, none⟩ [(.sound "result", draft)] =
      (draft.readOption read .unlimited).map fun result => ⟨some result, none⟩ := by
    simp only [Json.Record.readMembers, Json.wellFormed_sound, record, List.find?_cons]
    show ((draft.readOption read .unlimited >>= fun result => _) >>= fun state => _) = _
    cases draft.readOption read .unlimited <;> rfl
  have enter : Json.Reading.unlimited.enter = .ok .unlimited := rfl
  rw [Response.read, Json.Record.read, enter]
  show ((record read).readMembers .unlimited ⟨none, none⟩ _ >>= fun state => _) = _
  rw [readMember]
  cases draft.readOption read .unlimited <;> rfl

/-- The answer with the document as its only member. -/
theorem spells_result (spells : Json.Spells Json.Stops document.toList draft) :
    Json.Spells Json.Anything ("\x7b\"result\":" ++ document ++ "\x7d").toList
      (.object [(.sound "result", draft)] .closed) := by
  have named : Json.Cuts Json.Anything "\"result\"".toList [.string (.sound "result")] :=
    .string (Json.scanString_writeString "result")
  have member := spells.member Json.noGap Json.noGap rfl named
  have written : ("\x7b\"result\":" ++ document ++ "\x7d").toList =
      '\x7b' :: ([] ++ ("\"result\"".toList ++ ([] ++ ':' :: document.toList)) ++ ['\x7d']) := by
    rw [String.toList_append, String.toList_append]
    rfl
  rw [written]
  exact member.object

theorem readAnswer_eq_ok_iff (method : String) (spells : Json.Spells Json.Stops document.toList draft) :
    readAnswer read method ("\x7b\"result\":" ++ document ++ "\x7d") = .ok value ↔
      draft ≠ .literal .null ∧ read .unlimited draft = .ok value := by
  rw [readAnswer, Json.decode_of_spells (spells_result spells).weaken, Response.read_result]
  -- The envelope takes null for no result, before the reader has a say.
  by_cases absent : draft = .literal .null
  · subst absent
    exact ⟨nofun, fun ⟨present, _⟩ => absurd rfl present⟩
  · rw [readOption_of_ne_null absent]
    cases read .unlimited draft with
    | error fault => exact ⟨nofun, fun ⟨_, same⟩ => nomatch same⟩
    | ok found =>
      show (Except.ok found : Except GatewayError α) = .ok value ↔ _
      rw [Except.ok.injEq, Except.ok.injEq, and_iff_right absent]

end RemoteNode

/-! ### Both ways -/

/-- A reader that takes null for no value finds the same in what a program prints and in what a node sends. -/
theorem lookups_agree {program : WalletProgram} {node : RemoteNode} {arguments : List String}
    {marker method : String} {parameters : List Json} {outside' : Outside} {world' : World}
    (refuses : ∀ value, read .unlimited (.literal .null) ≠ .ok value) (isDocument : IsDocument document)
    (shows : Text.isBlankText (marker ++ document) = false)
    (prints : program.Prints arguments outside world (marker ++ document))
    (returns : node.Returns method parameters outside' world' ("\x7b\"result\":" ++ document ++ "\x7d")) :
    (program.runDocument arguments marker read outside world).1.toOption =
      (node.call read method parameters outside' world').1.toOption := by
  obtain ⟨draft, spells⟩ := Json.exists_spells_of_isElement isDocument
  apply toOption_eq_of_eq_ok_iff
  intro value
  rw [WalletProgram.runDocument_eq_ok_iff prints shows spells, RemoteNode.call_of_returns returns,
    RemoteNode.readAnswer_eq_ok_iff method spells]
  constructor
  · intro same
    refine ⟨?_, same⟩
    rintro rfl
    exact refuses value same
  · exact And.right

end

/-- Whatever document stands for a receipt, both lookups find the same receipt in it, or none. -/
theorem receipt_lookups_agree {program : WalletProgram} {node : RemoteNode} {outside outside' : Outside}
    {world world' : World} {document : String} (isDocument : IsDocument document) (message : Ledger.MessageHash)
    (prints : program.Prints ["receipt", message.text] outside world (WalletProgram.receiptMarker ++ document))
    (returns : node.Returns "eth_getInMessageReceipt" [.string message.text] outside' world'
      ("\x7b\"result\":" ++ document ++ "\x7d")) :
    (program.answer (.receipt message) outside world).1.toOption =
      (node.answer (.receipt message) outside' world').1.toOption := by
  have shows : Text.isBlankText (WalletProgram.receiptMarker ++ document) = false := by
    rw [Text.isBlankText, String.toList_append, List.all_append]
    rfl
  exact lookups_agree nofun isDocument shows prints returns

theorem parse_localhost : Url.parse "http://localhost" = .url ⟨"http", "localhost", none, "/", none, none⟩ := by
  decide +kernel

/-- A receipt as an array of its fields. -/
theorem receipt_lookups_agree_on_list :
    let document := "[\"0xa\",1,\"h\"]"
    let program : WalletProgram := ⟨"nil_cli", [], none, []⟩
    let node : RemoteNode := ⟨"http://localhost", "eth_chainId", 30⟩
    let outside := Rehearsal.answering [.answered 200 (.ok ("\x7b\"result\":" ++ document ++ "\x7d"))]
      { Rehearsal.outside ⟨[], []⟩ "/tmp" [] with
        process := fun _ _ => .ok ⟨(WalletProgram.receiptMarker ++ document).toUTF8, .empty, true, none⟩ }
    let world : World := ⟨⟨[], []⟩, []⟩
    IsDocument document ∧
    (program.answer (.receipt ⟨"0x1"⟩) outside world).1.toOption =
      (node.answer (.receipt ⟨"0x1"⟩) outside world).1.toOption ∧
    (program.answer (.receipt ⟨"0x1"⟩) outside world).1.isOk = true := by
  intro document program node outside world
  have address : IsElement ['"', '0', 'x', 'a', '"'] :=
    (IsValue.string (.mk (show IsBody ['0', 'x', 'a'] from isBody_of_plain (by simp)))).element
  have one : IsWhole ['1'] := .other rfl (by decide) nofun
  have shard : IsElement ['1'] := (IsValue.number (.mk (.inl rfl) one .absent .absent)).element
  have block : IsElement ['"', 'h', '"'] :=
    (IsValue.string (.mk (show IsBody ['h'] from isBody_of_plain (by simp)))).element
  have chars : document.toList = ['[', '"', '0', 'x', 'a', '"', ',', '1', ',', '"', 'h', '"', ']'] := by
    decide
  have isDocument : IsDocument document := by
    rw [IsDocument, chars]
    exact (IsValue.list (.more address (.more shard (.last block)))).element
  have prints : program.Prints ["receipt", "0x1"] outside world (WalletProgram.receiptMarker ++ document) :=
    ⟨_, rfl, rfl, rfl⟩
  have returns : node.Returns "eth_getInMessageReceipt" [.string "0x1"] outside world
      ("\x7b\"result\":" ++ document ++ "\x7d") :=
    RemoteNode.returns_of_answering parse_localhost (by decide) (by decide) rfl _ _
  have same := receipt_lookups_agree isDocument ⟨"0x1"⟩ prints returns
  exact ⟨isDocument, same, by decide +kernel⟩

end LedgerCapture
