import LedgerCapture.Config.Reader
import LedgerCapture.Proofs.Config.Environment
import LedgerCapture.Proofs.Toml.Extent
import LedgerCapture.Proofs.Toml.Fields

/-!
The built-in settings and the variable that redirects them. The value of the variable is put into the text before the
text is read, so it arrives unchanged exactly if it means itself between quotation marks; any other value breaks the
document, arrives as something else, or brings further settings with it.
-/
namespace LedgerCapture.Config

/-! ### Texts without references -/

/-- Text without a dollar sign holds no reference. -/
theorem Cut.of_undollared {front rest : List Char} {pieces : List Piece} (undollared : '$' ∉ front)
    (cut : Cut rest pieces) : Cut (front ++ rest) (front.map .plain ++ pieces) := by
  induction front with
  | nil => exact cut
  | cons c front ih =>
    obtain ⟨other, undollared⟩ := not_or.mp (mt List.mem_cons.mpr undollared)
    refine .plain ?_ (ih undollared)
    intro written behind reference same isWritten
    cases isWritten with
    | bare isName => exact other (List.cons.inj same).1.symm
    | withDefault isName isDefault => exact other (List.cons.inj same).1.symm

theorem flatMap_filled_plain (environment : Environment) (text : List Char) :
    (text.map Piece.plain).flatMap (Piece.filled environment) = text := by
  induction text with
  | nil => rfl
  | cons c text ih =>
    rw [List.map_cons, List.flatMap_cons, ih]
    rfl

namespace Builtin

open Toml (Line IsInert Fits)

/-! ### The text -/

def endpointVariable : String := "NIL_RPC_ENDPOINT"

def endpoint (environment : Environment) : String :=
  (environment endpointVariable).getD localEndpoint

def endpointReference : Reference := ⟨endpointVariable, some localEndpoint⟩

def writtenReference : List Char :=
  '$' :: '\x7b' :: (endpointVariable.toList ++ ':' :: '-' :: (localEndpoint.toList ++ ['\x7d']))

def middleLines : List Line :=
  [.entry "wallet" "cli".toList, .entry "lookup" "rpc".toList, .header ["gateway", "implementations", "cli"],
    .entry "binary" "nil_cli".toList, .header ["gateway", "implementations", "rpc"]]

/-- The built-in text with another text in the place of both references. -/
def lines (value : List Char) : List Line :=
  .header ["gateway"] :: .entry "rpc_endpoint" value :: (middleLines ++ [.entry "endpoint" value])

def opening : List Char := (Line.header ["gateway"]).source ++ ("rpc_endpoint".toList ++ [' ', '=', ' '])

def middle : List Char := middleLines.flatMap Line.source ++ ("endpoint".toList ++ [' ', '=', ' '])

def behind (value : List Char) : List Char := '"' :: '\n' :: (middle ++ '"' :: (value ++ ['"', '\n']))

def source (value : List Char) : List Char := opening ++ '"' :: (value ++ behind value)

set_option maxRecDepth 8000 in
theorem defaultText_eq : defaultText = String.ofList ((lines writtenReference).flatMap Line.source) := by
  rfl

theorem source_lines (value : List Char) :
    (lines value).flatMap Line.source = source value := by
  simp [lines, source, opening, middle, behind, Line.source]

theorem isPlain_lines {value : List Char} (inert : IsInert value) : ∀ line ∈ lines value, line.IsPlain := by
  have fixed : ∀ line ∈ middleLines, line.IsPlain := by decide +kernel
  intro line member
  rcases List.mem_cons.mp member with rfl | member
  · decide +kernel
  rcases List.mem_cons.mp member with rfl | member
  · exact ⟨by decide +kernel, inert⟩
  rcases List.mem_append.mp member with member | member
  · exact fixed line member
  · cases List.mem_singleton.mp member
    exact ⟨by decide +kernel, inert⟩

/-! ### The substitution -/

theorem isWritten_writtenReference : Written writtenReference endpointReference := by
  have named : IsName endpointVariable.toList := by
    have same : endpointVariable.toList = 'N' :: "IL_RPC_ENDPOINT".toList := by decide +kernel
    rw [same]
    exact .mk (by decide) (List.all_eq_true.mp (by decide +kernel)) (by decide +kernel)
  have plain : IsDefault localEndpoint.toList := by
    refine ⟨fun c member same => ?_, by decide +kernel⟩
    rw [same] at member
    exact absurd member (by decide +kernel)
  have written := Written.withDefault named plain
  rw [String.ofList_toList, String.ofList_toList] at written
  exact written

def pieces : List Piece :=
  (opening ++ ['"']).map .plain ++ .reference writtenReference endpointReference ::
    (('"' :: '\n' :: (middle ++ ['"'])).map .plain ++ .reference writtenReference endpointReference ::
      (['"', '\n'].map .plain ++ []))

theorem cut_defaultText : Cut defaultText.toList pieces := by
  have undollared : '$' ∉ opening ++ ['"'] ∧ '$' ∉ '"' :: '\n' :: (middle ++ ['"']) := by decide +kernel
  have whole := Cut.of_undollared undollared.1 (.reference isWritten_writtenReference
    (.of_undollared undollared.2 (.reference isWritten_writtenReference
      (.of_undollared (by decide : '$' ∉ ['"', '\n']) .done))))
  rw [defaultText_eq, String.toList_ofList, source_lines]
  simpa [source, behind, pieces] using whole

section Substitution

variable {environment : Environment}

theorem filled?_endpointReference : endpointReference.filled? environment = some (endpoint environment) := by
  unfold Reference.filled? endpointReference endpoint
  cases environment endpointVariable <;> rfl

theorem not_isMissing_pieces : ∀ piece ∈ pieces, ¬ piece.IsMissing environment := by
  intro piece member missing
  cases piece with
  | plain c => exact missing
  | reference written reference =>
    have same : reference = endpointReference := by
      simp only [pieces, List.mem_append, List.mem_cons, List.mem_map, reduceCtorEq, and_false, exists_false,
        Piece.reference.injEq, List.not_mem_nil, false_or, or_false] at member
      exact member.elim And.right And.right
    subst same
    rw [Piece.IsMissing, filled?_endpointReference] at missing
    cases missing

/-- The variable's value takes the place of both references as it is. -/
theorem substitute_defaultText (environment : Environment) :
    substitute environment defaultText = .ok (String.ofList (source (endpoint environment).toList)) := by
  have value : (Piece.reference writtenReference endpointReference).filled environment =
      (endpoint environment).toList := by
    rw [Piece.filled, filled?_endpointReference, Option.getD_some]
  rw [cut_defaultText.substitute_of_filled not_isMissing_pieces, pieces]
  simp only [List.flatMap_append, List.flatMap_cons, flatMap_filled_plain, value]
  simp [source, behind]

end Substitution

/-! ### Values that arrive -/

/-- The built-in settings with an endpoint. Only the two places that are read from the references depend on it. -/
def redirected (value : String) : Config where
  node := {}
  gateway :=
    { rpcEndpoint := value
      wallet := "cli"
      lookup := "rpc"
      implementations :=
        [("cli", .table [("binary", .string "nil_cli")]), ("rpc", .table [("endpoint", .string value)])] }
  compiler := {}
  artifactDirectory := none
  deploymentMode := .eager
  legacy := {}

section Arriving

variable {environment : Environment} {value : String} {config : Config}

/-- The variable is put into the text, then the text is read statement by statement. -/
theorem builtin_eq (environment : Environment) :
    builtin environment =
      match Toml.statements [] [] (2 * (source (endpoint environment).toList).length + 2)
          (source (endpoint environment).toList) with
      | none => .error (.parse .tomlSyntax)
      | some root => do
        let config ← (ofToml (Toml.Node.toToml (.table .header root))).mapError fun fault => .parse (.toml fault)
        config.validate
        return config := by
  have small : ¬ greatestSize < defaultText.utf8ByteSize := by decide +kernel
  have resolved : resolveVariables environment defaultText =
      .ok (String.ofList (source (endpoint environment).toList)) := by
    rw [resolveVariables, if_neg small, substitute_defaultText]
    rfl
  have unmarked (value : List Char) : Toml.dropByteOrderMark (source value) = source value := rfl
  rw [builtin, parse, resolved, ok_bind, readText, Toml.ofText?, String.toList_ofList, unmarked]
  cases Toml.statements [] [] (2 * (source (endpoint environment).toList).length + 2)
      (source (endpoint environment).toList) with
  | none => rfl
  | some root =>
    dsimp only
    show (((ofToml (Toml.Node.toToml (.table .header root))).mapError _).mapError _ >>= _) = _
    cases ofToml (Toml.Node.toToml (.table .header root)) <;> rfl

def tree (value : String) : Toml.Entries :=
  [("gateway", .table .header [
    ("rpc_endpoint", .leaf (.string value)), ("wallet", .leaf (.string "cli")), ("lookup", .leaf (.string "rpc")),
    ("implementations", .table .passing [
      ("cli", .table .header [("binary", .leaf (.string "nil_cli"))]),
      ("rpc", .table .header [("endpoint", .leaf (.string value))])])])]

theorem statements_source (inert : IsInert value.toList) :
    Toml.statements [] [] (2 * (source value.toList).length + 2) (source value.toList) = some (tree value) := by
  have read : (lines value.toList).foldlM Line.read ([], []) =
      some (["gateway", "implementations", "rpc"], tree (String.ofList value.toList)) := rfl
  rw [← source_lines, Toml.statements_of_lines _ (isPlain_lines inert) _ _ _ (by omega), read,
    String.ofList_toList]
  rfl

theorem ofToml_tree (value : String) :
    ofToml (Toml.Node.toToml (.table .header (tree value))) = .ok (redirected value) := by
  have document : Toml.Node.toToml (.table .header (tree value)) =
      .table [("gateway", .table [
        ("implementations", .table [("cli", .table [("binary", .string "nil_cli")]),
          ("rpc", .table [("endpoint", .string value)])]),
        ("lookup", .string "rpc"), ("rpc_endpoint", .string value), ("wallet", .string "cli")])] := by
    have last : ¬ "wallet" < "rpc_endpoint" := by decide +kernel
    have first : "lookup" < "rpc_endpoint" ∧ "implementations" < "lookup" := by decide +kernel
    have inside : ¬ "rpc" < "cli" := by decide +kernel
    simp only [tree, Toml.entriesToToml, Toml.Node.toToml, Toml.ofEntries, Toml.insertEntry, List.foldl_cons,
      List.foldl_nil, if_neg last, if_pos first.1, if_pos first.2, if_neg inside, String.reduceBEq, Bool.false_eq_true,
      if_false]
  rw [document]
  rfl

theorem builtin_of_inert (inert : IsInert (endpoint environment).toList) :
    builtin environment = .ok (redirected (endpoint environment)) := by
  rw [builtin_eq, statements_source inert]
  dsimp only
  rw [ofToml_tree]
  rfl

end Arriving

/-! ### What was read -/

/-- The endpoint has arrived in both places. -/
structure Carries (config : Config) (value : String) : Prop where
  endpoint : config.gateway.rpcEndpoint = value
  implementation : ∃ entry, config.gateway.implementations.lookup "rpc" = some entry ∧
    entry.get? "endpoint" = some (.string value)

section Reading

variable {value content : String} {config : Config} {gateway : Gateway} {entries : List (String × Toml)}

/-- An endpoint of the implementation was read from an endpoint of the implementation. -/
theorem holds_of_readTable {implementations : Toml} (read : implementations.readTable = .ok entries) {entry : Toml}
    (listed : entries.lookup "rpc" = some entry) (carried : entry.get? "endpoint" = some (.string value)) :
    implementations.Holds "rpc_endpoint" value := by
  have holds : entry.Holds "rpc_endpoint" value := by
    unfold Toml.get? at carried
    split at carried
    · exact .entry (Toml.mem_of_lookup carried) (by decide) .string
    · cases carried
  obtain ⟨front, back, rfl, -⟩ := List.lookup_eq_some_iff.mp listed
  unfold Toml.readTable at read
  split at read
  · next raw found =>
    obtain ⟨present, member, readEntry⟩ := Toml.exists_of_mem_readAnyEntries read (by simp : ("rpc", entry) ∈ _)
    cases implementations with
    | table raw =>
      cases found
      exact .entry member (by decide) (Toml.holds_of_holds_readAny readEntry holds)
    | datetime text =>
      cases found
      have impossible : "rpc" = Toml.datetimeKey := (Prod.mk.inj (List.mem_singleton.mp member)).1
      exact absurd impossible (by decide)
    | _ => cases found
  · cases read

theorem rpcEndpoint_origin {state after : Gateway.Partial}
    (read : Gateway.record.readEntries state entries = .ok after) :
    after.rpcEndpoint = state.rpcEndpoint ∨ ∃ value content, ("rpc_endpoint", value) ∈ entries ∧
      Toml.readString value = .ok content ∧ after.rpcEndpoint = content := by
  refine @Toml.Record.readEntries_origin _ _ _ _ _ _ _ (fun content => content) _ _ _ (fun field known => ?_) read
  simp only [Gateway.record, List.mem_cons, List.not_mem_nil, or_false] at known
  rcases known with rfl | rfl | rfl | rfl
  · exact .inr ⟨rfl, Toml.Field.puts_of_set fun _ _ => rfl⟩
  · exact .inl (Toml.Field.keeps_of_set fun _ _ => rfl)
  · exact .inl (Toml.Field.keeps_of_set fun _ _ => rfl)
  · exact .inl (Toml.Field.keeps_of_set fun _ _ => rfl)

theorem implementations_origin {state after : Gateway.Partial}
    (read : Gateway.record.readEntries state entries = .ok after) :
    after.implementations = state.implementations ∨ ∃ value content, ("implementations", value) ∈ entries ∧
      Toml.readTable value = .ok content ∧ after.implementations = some content := by
  refine Toml.Record.readEntries_origin (fun field known => ?_) read
  simp only [Gateway.record, List.mem_cons, List.not_mem_nil, or_false] at known
  rcases known with rfl | rfl | rfl | rfl
  · exact .inl (Toml.Field.keeps_of_set fun _ _ => rfl)
  · exact .inl (Toml.Field.keeps_of_set fun _ _ => rfl)
  · exact .inl (Toml.Field.keeps_of_set fun _ _ => rfl)
  · exact .inr ⟨rfl, Toml.Field.puts_of_set fun _ _ => rfl⟩

theorem gateway_origin {state after : Partial} (read : record.readEntries state entries = .ok after) :
    after.gateway = state.gateway ∨ ∃ value content, ("gateway", value) ∈ entries ∧
      Gateway.read value = .ok content ∧ after.gateway = some content := by
  refine Toml.Record.readEntries_origin (fun field known => ?_) read
  simp only [record, List.mem_cons, List.not_mem_nil, or_false] at known
  rcases known with rfl | rfl | rfl | rfl | rfl | rfl
  · exact .inl (Toml.Field.keeps_of_set fun _ _ => rfl)
  · exact .inr ⟨rfl, Toml.Field.puts_of_set fun _ _ => rfl⟩
  · exact .inl (Toml.Field.keeps_of_set fun _ _ => rfl)
  · exact .inl (Toml.Field.keeps_of_set fun _ _ => rfl)
  · exact .inl (Toml.Field.keeps_of_set fun _ _ => rfl)
  · exact .inl (Toml.Field.keeps_of_set fun _ _ => rfl)

/-- The gateway's endpoint is the one that stands in its table. -/
theorem rpcEndpoint_of_read (read : Gateway.read (.table entries) = .ok gateway)
    (all : ∀ below, ("rpc_endpoint", below) ∈ entries → below = .string content) :
    gateway.rpcEndpoint = localEndpoint ∨ gateway.rpcEndpoint = content := by
  obtain ⟨reached, read, finished⟩ := bind_eq_ok_iff.mp read
  have same : gateway.rpcEndpoint = reached.rpcEndpoint := by
    split at finished <;> cases finished
    rfl
  rw [same]
  rcases rpcEndpoint_origin (Toml.Record.read_table_eq_ok read) with kept | ⟨value, text, member, readText, put⟩
  · exact .inl kept
  · rw [all value member] at readText
    cases readText
    exact .inr put

theorem holds_of_gateway (read : Gateway.read (.table entries) = .ok gateway) {entry : Toml}
    (listed : gateway.implementations.lookup "rpc" = some entry)
    (carried : entry.get? "endpoint" = some (.string value)) :
    (Toml.table entries).Holds "rpc_endpoint" value := by
  obtain ⟨reached, read, finished⟩ := bind_eq_ok_iff.mp read
  have same : reached.implementations = some gateway.implementations := by
    split at finished <;> cases finished
    rfl
  rcases implementations_origin (Toml.Record.read_table_eq_ok read) with kept | ⟨table, content, member, readTable, put⟩
  · rw [kept] at same
    cases same
  · rw [same] at put
    cases put
    exact .entry member (by decide) (holds_of_readTable readTable listed carried)

theorem exists_gateway_of_ofToml (read : ofToml (.table entries) = .ok config) :
    ∃ value, ("gateway", value) ∈ entries ∧ Gateway.read value = .ok config.gateway := by
  obtain ⟨reached, read, finished⟩ := bind_eq_ok_iff.mp read
  have same : reached.gateway = some config.gateway := by
    unfold Partial.finish at finished
    split at finished
    · next gateway found =>
      cases finished
      exact found
    · cases finished
  rcases gateway_origin (Toml.Record.read_table_eq_ok read) with kept | ⟨value, gateway, member, readGateway, put⟩
  · rw [kept] at same
    cases same
  · rw [same] at put
    cases put
    exact ⟨value, member, readGateway⟩

end Reading

/-! ### Values that do not arrive -/

def begun (content : String) : Toml.Entries :=
  [("gateway", .table .header [("rpc_endpoint", .leaf (.string content))])]

theorem stands_begun (content : String) :
    (Toml.Node.table .header (begun content)).Stands (.string content) ["gateway", "rpc_endpoint"] := by
  refine ⟨_, _, rfl, ⟨_, List.mem_cons_self⟩, fun below member => ?_⟩
  cases List.mem_singleton.mp member
  refine ⟨_, _, rfl, ⟨_, List.mem_cons_self⟩, fun below member => ?_⟩
  cases List.mem_singleton.mp member
  rfl

theorem not_holds_begun (content other : String) :
    ¬ (Toml.Node.table .header (begun content)).Holds "rpc_endpoint" other := by
  intro holds
  cases holds with
  | entry member shown holds =>
    cases List.mem_singleton.mp member
    cases holds with
    | entry member shown holds =>
      cases List.mem_singleton.mp member
      exact shown rfl

/-- Whatever the value is, the first entry is read from its first place. -/
theorem statements_opening (value : List Char) (fuel : Nat) :
    Toml.statements [] [] (fuel + 3) (source value) =
      (Toml.stringValue fuel ('"' :: (value ++ behind value))).bind fun (content, rest) =>
        (Toml.afterLine? rest).bind fun rest => Toml.statements ["gateway"] (begun content) (fuel + 1) rest := by
  have opened : Toml.openTable ["gateway"] [] = some [("gateway", .table .header [])] := rfl
  have bare : ∀ key ∈ ["gateway"], Toml.IsBare key := by decide +kernel
  have added (content : String) : Toml.changeAt false (Toml.addEntry ["rpc_endpoint"] (.string content)) ["gateway"]
      .header [("gateway", .table .header [])] = some (.header, begun content) := rfl
  rw [source, opening, List.append_assoc, Toml.statements_header (by decide) bare (fuel + 2) (by simp), opened,
    Option.bind_some, List.append_assoc]
  simp only [List.cons_append, List.nil_append]
  rw [Toml.statements_entry (by decide +kernel)]
  simp only [added, Option.bind_some]

section Losing

variable {environment : Environment} {config : Config}

/-- What loading the built-in settings has read, if it succeeds. -/
theorem exists_read_of_builtin (loaded : builtin environment = .ok config) :
    ∃ fuel content rest later root,
      Toml.stringValue fuel ('"' :: ((endpoint environment).toList ++ behind (endpoint environment).toList)) =
        some (content, rest) ∧
      Toml.afterLine? rest = some later ∧
      Toml.statements ["gateway"] (begun content) (fuel + 1) later = some root ∧
      ofToml (Toml.Node.toToml (.table .header root)) = .ok config := by
  rw [builtin_eq] at loaded
  split at loaded
  · cases loaded
  · next root read =>
    obtain ⟨reading, decoded, loaded⟩ := bind_eq_ok_iff.mp loaded
    obtain ⟨-, same⟩ := unit_bind_eq_ok_iff.mp loaded
    cases same
    rw [mapError_eq_ok_iff] at decoded
    obtain ⟨fuel, enough⟩ : ∃ fuel, 2 * (source (endpoint environment).toList).length + 2 = fuel + 3 :=
      ⟨2 * (source (endpoint environment).toList).length - 1, by
        simp only [source, List.length_append, List.length_cons]
        omega⟩
    rw [enough, statements_opening] at read
    obtain ⟨⟨content, rest⟩, string, read⟩ := Option.bind_eq_some_iff.mp read
    obtain ⟨later, line, read⟩ := Option.bind_eq_some_iff.mp read
    exact ⟨fuel, content, rest, later, root, string, line, read, decoded⟩

theorem isInert_of_carries (loaded : builtin environment = .ok config)
    (carries : Carries config (endpoint environment)) : IsInert (endpoint environment).toList := by
  obtain ⟨fuel, content, rest, later, root, string, line, read, decoded⟩ := exists_read_of_builtin loaded
  have continues := @Toml.continues_of_statements "rpc_endpoint" _ _ _ _ _ read
  obtain ⟨entries, same, -, gateways⟩ := (continues.stands _ _ (stands_begun content)).toToml
  rw [same] at decoded
  obtain ⟨value, member, readGateway⟩ := exists_gateway_of_ofToml decoded
  obtain ⟨inside, rfl, -, endpoints⟩ := gateways value member
  obtain ⟨entry, listed, carried⟩ := carries.implementation
  -- there is room for the second string behind the first one
  have room : Fits (endpoint environment) later := by
    have holds : (Toml.Node.toToml (.table .header root)).Holds "rpc_endpoint" (endpoint environment) := by
      rw [same]
      exact .entry member (by decide) (holds_of_gateway readGateway listed carried)
    exact (continues.holds _ (Toml.holds_of_holds_toToml holds)).resolve_left (not_holds_begun _ _)
  have first := rpcEndpoint_of_read readGateway endpoints
  rw [carries.endpoint] at first
  rcases first with fixed | same
  · rw [fixed]
    decide +kernel
  · have apart : ¬ ['"', '"', '"'] <:+: middle ++ ['"'] := by decide +kernel
    have text : behind (endpoint environment).toList =
        '"' :: '\n' :: ((middle ++ ['"']) ++ ((endpoint environment).toList ++ ['"', '\n'])) := by simp [behind]
    rw [text] at string
    refine Toml.isInert_of_stringValue apart string (congrArg String.toList same).symm ?_
    have shorter := (Toml.afterLine?_suffix line).length_le
    rw [Fits] at room
    simp only [List.length_append, List.length_cons, List.length_nil]
    omega

end Losing

/-- The value of the variable arrives unchanged exactly if it means itself between quotation marks. Whenever it arrives
in both places, no other setting differs from what it is without the variable. -/
theorem redirected_iff_isInert (environment : Environment) :
    (environment endpointVariable = none → builtin environment = .ok (redirected localEndpoint)) ∧
    ∀ value, environment endpointVariable = some value →
      (builtin environment = .ok (redirected value) ↔ IsInert value.toList) ∧
      ∀ config, builtin environment = .ok config → Carries config value → config = redirected value := by
  constructor
  · intro unset
    have same : endpoint environment = localEndpoint := by rw [endpoint, unset, Option.getD_none]
    have inert : IsInert localEndpoint.toList := by decide +kernel
    rw [← same] at inert ⊢
    exact builtin_of_inert inert
  · intro value given
    have same : endpoint environment = value := by rw [endpoint, given, Option.getD_some]
    subst same
    have arrives (config : Config) (loaded : builtin environment = .ok config)
        (carries : Carries config (endpoint environment)) : IsInert (endpoint environment).toList :=
      isInert_of_carries loaded carries
    refine ⟨⟨fun loaded => arrives _ loaded ⟨rfl, _, rfl, rfl⟩, builtin_of_inert⟩, fun config loaded carries => ?_⟩
    rw [builtin_of_inert (arrives config loaded carries)] at loaded
    exact (Except.ok.inj loaded).symm

def setting (value : String) : Environment := fun name => if name = endpointVariable then some value else none

theorem endpoint_setting (value : String) : endpoint (setting value) = value := by
  rw [endpoint, setting, if_pos rfl, Option.getD_some]

/-- A value that ends the string it stands in and goes on with settings of its own. -/
def intruder : String :=
  "x\"\nwallet = \"cli\"\nlookup = \"cli\"\n[gateway.implementations.cli]\n" ++
    "[compiler]\nbinary = \"other\"\nmore = \"\"\""

/-- A quotation mark in the value breaks the document, and more of them bring other settings into it. -/
theorem marks_break_and_intrude :
    builtin (setting "a\"b") = .error (.parse .tomlSyntax) ∧
    ∃ config, builtin (setting intruder) = .ok config ∧ config.gateway.rpcEndpoint = "x" ∧
      config.gateway.implementations.length = 1 ∧ config.compiler.binary = "other" := by
  constructor
  · have broken : (Toml.statements [] [] (2 * (source "a\"b".toList).length + 2)
        (source "a\"b".toList)).isNone = true := by
      decide +kernel
    rw [builtin_eq, endpoint_setting, Option.isNone_iff_eq_none.mp broken]
  · have accepted : ((builtin (setting intruder)).toOption.any fun config =>
        decide (config.gateway.rpcEndpoint = "x" ∧ config.gateway.implementations.length = 1 ∧
          config.compiler.binary = "other")) = true := by
      rw [builtin_eq, endpoint_setting]
      decide +kernel
    cases loaded : builtin (setting intruder) with
    | error fault =>
      rw [loaded] at accepted
      cases accepted
    | ok config =>
      rw [loaded] at accepted
      exact ⟨config, rfl, of_decide_eq_true accepted⟩

end Builtin

end LedgerCapture.Config
