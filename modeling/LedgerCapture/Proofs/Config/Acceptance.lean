import LedgerCapture.Proofs.Config.Block
import LedgerCapture.Proofs.Config.Stored
import LedgerCapture.Proofs.Json.Printer

/-!
Block configurations and their texts. A text is refused for its syntax, by the schema, or for a number that two
contracts share; what is left are just the configurations that come back from their own texts.
-/
namespace LedgerCapture

/-! ### The text of a configuration -/

theorem ContractId.toJson_exact (id : ContractId) : id.toJson.Exact := by
  have least : Json.leastInteger ≤ 0 := by decide
  have greatest : Json.greatestInteger = 2 ^ 64 - 1 := rfl
  have fits := id.number.toNat_lt
  show Json.leastInteger ≤ (id.number.toNat : Int) ∧ (id.number.toNat : Int) ≤ Json.greatestInteger
  omega

theorem Call.toJson_exact (call : Call) : call.toJson.Exact :=
  ⟨call.contract.toJson_exact, trivial, Json.exactItems_map fun _ _ => trivial, trivial⟩

theorem BlockConfig.toJson_exact (config : BlockConfig) : config.toJson.Exact :=
  ⟨Json.exactItems_map fun contract _ => ⟨contract.id.toJson_exact, trivial, trivial⟩,
    Json.exactItems_map fun call _ => call.toJson_exact, trivial⟩

theorem ContractId.readJson_toJson (id : ContractId) {reading : Json.Reading} :
    Json.Draft.readJson reading (.ofJson id.toJson) = .ok id.toJson :=
  rfl

theorem Contract.readJson_toJson (contract : Contract) (room : Nat) (known : Bool) :
    Json.Draft.readJson ⟨some (room + 1), known⟩ (.ofJson contract.toJson) = .ok contract.toJson := by
  have order : "id" < "path" := by decide
  rw [toJson, Json.Draft.readJson_object rfl (Json.Draft.readJsonMembers_cons contract.id.readJson_toJson
    (Json.Draft.readJsonMembers_cons rfl rfl))]
  simp [Json.ofMembers, Json.insertMember, order.not_gt]

theorem Call.readJson_toJson (call : Call) (room : Nat) (known : Bool) :
    Json.Draft.readJson ⟨some (room + 2), known⟩ (.ofJson call.toJson) = .ok call.listed := by
  have arguments : Json.Draft.readJsonItems ⟨some room, known⟩ (Json.Draft.ofItems (call.arguments.map .string)) =
      .ok (call.arguments.map .string) := Json.Draft.readJsonItems_map (fun _ => rfl) _
  have first : "callArguments" < "contractId" := by decide
  have second : "contractId" < "methodName" := by decide
  rw [toJson, Json.Draft.readJson_object rfl (Json.Draft.readJsonMembers_cons call.contract.readJson_toJson
    (Json.Draft.readJsonMembers_cons rfl
      (Json.Draft.readJsonMembers_cons (Json.Draft.readJson_list rfl arguments) rfl)))]
  simp [Json.ofMembers, Json.insertMember, first, second.not_gt, Call.listed]

namespace BlockConfig

theorem readJson_toJson (config : BlockConfig) (room : Nat) (known : Bool) :
    Json.Draft.readJson ⟨some (room + 4), known⟩ (.ofJson config.toJson) =
      .ok (.object [("contracts", .list (config.contracts.map Contract.toJson)),
        ("transactions", .list (config.calls.map Call.listed))]) := by
  have contracts : Json.Draft.readJsonItems ⟨some (room + 2), known⟩
      (Json.Draft.ofItems (config.contracts.map Contract.toJson)) = .ok (config.contracts.map Contract.toJson) :=
    Json.Draft.readJsonItems_map (fun contract => contract.readJson_toJson (room + 1) known) _
  have calls : Json.Draft.readJsonItems ⟨some (room + 2), known⟩
      (Json.Draft.ofItems (config.calls.map Call.toJson)) = .ok (config.calls.map Call.listed) :=
    Json.Draft.readJsonItems_map (fun call => call.readJson_toJson room known) _
  have order : "contracts" < "transactions" := by decide
  rw [toJson, Json.Draft.readJson_object rfl (Json.Draft.readJsonMembers_cons (Json.Draft.readJson_list rfl contracts)
    (Json.Draft.readJsonMembers_cons (Json.Draft.readJson_list rfl calls) rfl))]
  simp [Json.ofMembers, Json.insertMember, order.not_gt]

/-- The text of a configuration is read as its document. -/
theorem exists_stored_of_compact (config : BlockConfig) :
    ∃ document, Json.parse .limited config.toJson.compact = .ok document ∧ config.Stored document := by
  have stored : List.Forall₂ Call.Stored config.calls (config.calls.map Call.listed) :=
    List.forall₂_map_right_iff.mpr (List.forall₂_same.mpr fun call _ => .listed call)
  refine ⟨_, ?_, .mk stored⟩
  rw [Json.parse, Json.decode_of_spells (Json.spells_compact config.toJson_exact).stops]
  exact config.readJson_toJson 123 false

/-! ### What comes of a text -/

theorem exists_stored_of_parse {text : String} {document : Json} (parsed : Json.parse .limited text = .ok document)
    (accepted : schema.validate document = .ok ()) :
    ∃ config : BlockConfig, config.Stored document ∧ (∀ contract ∈ config.contracts, contract.Proper) ∧
      ∀ call ∈ config.calls, call.Proper :=
  exists_stored_of_conforms (Json.parse_ordered parsed) ((Schema.validate_eq_ok_iff _ _).mp accepted)

theorem parse_of_parsed {text : String} {document : Json} (parsed : Json.parse .limited text = .ok document) :
    parse text = ofDocument document := by
  rw [parse, parsed]
  rfl

theorem parse_of_accepted {text : String} {document : Json} {config : BlockConfig}
    (parsed : Json.parse .limited text = .ok document) (accepted : schema.validate document = .ok ())
    (stored : config.Stored document) :
    parse text = match duplicate? [] config.contracts with
      | some id => .error (.duplicateContract id)
      | none => .ok config := by
  rw [parse_of_parsed parsed, ofDocument, accepted, stored.read]
  rfl

inductive Outcome (text : String) : Except ConfigError BlockConfig → Prop where
  | malformed {fault : Json.DecodeError} (unparsed : Json.parse .limited text = .error fault) :
    Outcome text (.error (.parse (.blockSyntax fault)))
  | refused {document : Json} {fault : ValidationError} (parsed : Json.parse .limited text = .ok document)
      (unfit : schema.validate document = .error fault) : Outcome text (.error (.invalid fault.message))
  | repeated {document : Json} {config : BlockConfig} {before after : List Contract} {contract : Contract}
      (parsed : Json.parse .limited text = .ok document) (fit : schema.validate document = .ok ())
      (decoded : read .ofDocument (.ofJson document) = .ok config)
      (listed : config.contracts = before ++ contract :: after) (distinctBefore : (before.map (·.id)).Nodup)
      (known : contract.id ∈ before.map (·.id)) : Outcome text (.error (.duplicateContract contract.id))
  | accepted {document : Json} {config : BlockConfig} (parsed : Json.parse .limited text = .ok document)
      (fit : schema.validate document = .ok ()) (decoded : read .ofDocument (.ofJson document) = .ok config)
      (distinct : (config.contracts.map (·.id)).Nodup) : Outcome text (.ok config)

theorem outcome_parse (text : String) : Outcome text (parse text) := by
  cases parsed : Json.parse .limited text with
  | error fault =>
    have failed : parse text = .error (.parse (.blockSyntax fault)) := by rw [parse, parsed]; rfl
    exact failed ▸ .malformed parsed
  | ok document =>
    cases fit : schema.validate document with
    | error fault =>
      have failed : parse text = .error (.invalid fault.message) := by
        rw [parse_of_parsed parsed, ofDocument, fit]
        rfl
      exact failed ▸ .refused parsed fit
    | ok =>
      obtain ⟨config, stored, -, -⟩ := exists_stored_of_parse parsed fit
      rw [parse_of_accepted parsed fit stored]
      cases repeated : duplicate? [] config.contracts with
      | none => exact .accepted parsed fit stored.read ((duplicate?_eq_none_iff [] _).mp repeated).1
      | some id =>
        obtain ⟨before, contract, after, listed, rfl, new, known⟩ := exists_of_duplicate? repeated
        exact .repeated parsed fit stored.read listed ((duplicate?_eq_none_iff [] _).mp new).1
          (known.resolve_left List.not_mem_nil)

/-- Texts that differ early stay different, however they go on. -/
theorem append_ne_append {first second : String} (place : Nat) (inside : place < first.toList.length)
    (insideToo : place < second.toList.length) (apart : first.toList[place]? ≠ second.toList[place]?)
    (more other : String) : first ++ more ≠ second ++ other := by
  intro same
  have letters := congrArg (fun text : String => text.toList[place]?) same
  simp only [String.toList_append, List.getElem?_append_left inside, List.getElem?_append_left insideToo] at letters
  exact apart letters

theorem Outcome.message_ne {text : String} {fault : ConfigError} (outcome : Outcome text (.error fault))
    (reason : String) : fault.message ≠ "Configuration error: Invalid block config: " ++ reason := by
  cases outcome with
  | malformed =>
    show "Configuration error: " ++ ("Invalid block config JSON: " ++ _) ≠ _
    rw [← String.append_assoc]
    exact append_ne_append 41 (by decide) (by decide) (by decide) _ _
  | refused =>
    show "Validation error: " ++ _ ≠ _
    exact append_ne_append 0 (by decide) (by decide) (by decide) _ _
  | repeated =>
    show "Duplicated contract id: " ++ _ ≠ _
    exact append_ne_append 0 (by decide) (by decide) (by decide) _ _

/-- The reader behind the schema reads whatever the schema accepts. So a text is refused for its syntax, by the
schema or for a repeated number, or else it is a configuration. -/
theorem reads_what_schema_accepts (text : String) :
    (∀ document, Json.parse .limited text = .ok document → schema.validate document = .ok () →
      ∃ config, read .ofDocument (.ofJson document) = .ok config) ∧
    Outcome text (parse text) ∧
    ∀ fault, parse text = .error fault →
      ∀ reason, fault.message ≠ "Configuration error: Invalid block config: " ++ reason := by
  refine ⟨fun document parsed fit => ?_, outcome_parse text, fun fault failed => ?_⟩
  · obtain ⟨config, stored, -, -⟩ := exists_stored_of_parse parsed fit
    exact ⟨config, stored.read⟩
  · exact Outcome.message_ne (failed ▸ outcome_parse text)

/-- A proper configuration comes back from its own text, and no text gives any other. -/
theorem parse_round_trip (config : BlockConfig) :
    (config.Proper → parse config.toJson.compact = .ok config) ∧
      ∀ text, parse text = .ok config → config.Proper := by
  constructor
  · intro proper
    obtain ⟨document, parsed, stored⟩ := config.exists_stored_of_compact
    have fit := (Schema.validate_eq_ok_iff _ _).mpr (stored.conforms proper.contracts proper.calls)
    have distinct := (duplicate?_eq_none_iff [] config.contracts).mpr ⟨proper.distinct, fun _ _ => List.not_mem_nil⟩
    rw [parse_of_accepted parsed fit stored, distinct]
  · intro text accepted
    have outcome := outcome_parse text
    rw [accepted] at outcome
    cases outcome with
    | accepted parsed fit decoded distinct =>
      obtain ⟨stored, isStored, contracts, calls⟩ := exists_stored_of_parse parsed fit
      cases decoded.symm.trans isStored.read
      exact ⟨distinct, contracts, calls⟩

example :
    let config : BlockConfig :=
      ⟨[⟨⟨7⟩, "a\\b\n"⟩], [⟨⟨7⟩, "f", ["é", "\"𝄞\x00"]⟩]⟩
    parse config.toJson.compact = .ok config := by decide +kernel

end BlockConfig

end LedgerCapture
