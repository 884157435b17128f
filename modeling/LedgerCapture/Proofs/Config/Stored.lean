import LedgerCapture.Config.Block
import LedgerCapture.Proofs.Json.Ordered
import LedgerCapture.Proofs.Schema

/-!
Block configurations and their documents. The schema leaves so little freedom that the documents which meet it can
be listed, and each of them is read; so the reader behind the schema never refuses one.
-/
namespace LedgerCapture

/-! ### What is asked of a configuration -/

structure Contract.Proper (contract : Contract) : Prop where
  number : contract.id.number.toNat < 2 ^ 63
  path : ∃ c ∈ contract.path.toList, Text.isBlank c = false

structure Call.Proper (call : Call) : Prop where
  number : call.contract.number.toNat < 2 ^ 63
  method : call.method ≠ ""

/-- No two contracts share a number, numbers fit into 64 bits with a sign, paths are not blank, and methods
have names. -/
structure BlockConfig.Proper (config : BlockConfig) : Prop where
  distinct : (config.contracts.map (·.id)).Nodup
  contracts : ∀ contract ∈ config.contracts, contract.Proper
  calls : ∀ call ∈ config.calls, call.Proper

/-! ### Their documents, with all members in order -/

def Call.listed (call : Call) : Json :=
  .object [("callArguments", .list (call.arguments.map .string)), ("contractId", call.contract.toJson),
    ("methodName", .string call.method)]

/-- A call without arguments may be stored without the list of them. -/
inductive Call.Stored : Call → Json → Prop where
  | listed (call : Call) : Call.Stored call call.listed
  | bare (contract : ContractId) (method : String) :
    Call.Stored ⟨contract, method, []⟩ (.object [("contractId", contract.toJson), ("methodName", .string method)])

/-- The documents of a configuration. They differ only in the calls without arguments. -/
inductive BlockConfig.Stored : BlockConfig → Json → Prop where
  | mk {contracts : List Contract} {calls : List Call} {documents : List Json}
      (callsStored : List.Forall₂ Call.Stored calls documents) :
    BlockConfig.Stored ⟨contracts, calls⟩
      (.object [("contracts", .list (contracts.map Contract.toJson)), ("transactions", .list documents)])

/-! ### Reading them -/

theorem ContractId.read_toJson (id : ContractId) : read (.ofJson id.toJson) = .ok id := by
  obtain ⟨number⟩ := id
  have least : (0 : Int) ≤ number.toNat := Int.natCast_nonneg _
  have greatest : (number.toNat : Int) ≤ Json.greatestInteger := by
    have := number.toNat_lt
    have : Json.greatestInteger = 2 ^ 64 - 1 := rfl
    omega
  have read : (Json.Draft.ofJson (toJson ⟨number⟩)).readInteger 0 Json.greatestInteger "u64" =
      .ok (number.toNat : Int) := by
    show (if 0 ≤ (number.toNat : Int) ∧ (number.toNat : Int) ≤ Json.greatestInteger then _ else _) = _
    rw [if_pos ⟨least, greatest⟩]
    rfl
  simp [ContractId.read, Json.Draft.readNatural, read, bind, Except.bind, pure, Except.pure]

theorem Contract.read_toJson (contract : Contract) : read .ofDocument (.ofJson contract.toJson) = .ok contract := by
  have members : record.readMembers .ofDocument ⟨none, none⟩ (Json.Draft.ofMembers
      [("id", contract.id.toJson), ("path", .string contract.path)]) =
        .ok ⟨some contract.id, some contract.path⟩ := by
    rw [Json.Draft.ofMembers,
      Json.Record.readMembers_field rfl rfl (by exact bind_eq_ok_iff.mpr ⟨_, contract.id.read_toJson, rfl⟩),
      Json.Draft.ofMembers, Json.Record.readMembers_field rfl rfl rfl]
    rfl
  rw [Contract.read, toJson, Json.Draft.ofJson, Json.Record.read_object rfl members rfl]
  rfl

theorem Json.Draft.readList_string (values : List String) :
    readList (fun _ item => item.readString) .ofDocument (.ofJson (.list (values.map .string))) = .ok values :=
  readList_of_forall₂ rfl (List.forall₂_map_right_iff.mpr (List.forall₂_same.mpr fun _ _ => rfl))

theorem Call.Stored.read {call : Call} {document : Json} (stored : call.Stored document) :
    Call.read .ofDocument (.ofJson document) = .ok call := by
  cases stored with
  | listed =>
    have members : record.readMembers .ofDocument ⟨none, none, none⟩ (Json.Draft.ofMembers
        [("callArguments", .list (call.arguments.map .string)), ("contractId", call.contract.toJson),
          ("methodName", .string call.method)]) =
          .ok ⟨some call.contract, some call.method, some call.arguments⟩ := by
      rw [Json.Draft.ofMembers,
        Json.Record.readMembers_field rfl rfl (by exact bind_eq_ok_iff.mpr ⟨_, Json.Draft.readList_string _, rfl⟩),
        Json.Draft.ofMembers,
        Json.Record.readMembers_field rfl rfl (by exact bind_eq_ok_iff.mpr ⟨_, call.contract.read_toJson, rfl⟩),
        Json.Draft.ofMembers, Json.Record.readMembers_field rfl rfl rfl]
      rfl
    rw [Call.read, Call.listed, Json.Draft.ofJson, Json.Record.read_object rfl members rfl]
    rfl
  | bare contract method =>
    have members : record.readMembers .ofDocument ⟨none, none, none⟩ (Json.Draft.ofMembers
        [("contractId", contract.toJson), ("methodName", .string method)]) =
          .ok ⟨some contract, some method, none⟩ := by
      rw [Json.Draft.ofMembers,
        Json.Record.readMembers_field rfl rfl (by exact bind_eq_ok_iff.mpr ⟨_, contract.read_toJson, rfl⟩),
        Json.Draft.ofMembers, Json.Record.readMembers_field rfl rfl rfl]
      rfl
    rw [Call.read, Json.Draft.ofJson, Json.Record.read_object rfl members rfl]
    rfl

theorem BlockConfig.Stored.read {config : BlockConfig} {document : Json} (stored : config.Stored document) :
    BlockConfig.read .ofDocument (.ofJson document) = .ok config := by
  cases stored with
  | @mk contracts calls documents callsStored =>
    have readContracts : Json.Draft.readList Contract.read .ofDocument
        (.ofJson (.list (contracts.map Contract.toJson))) = .ok contracts :=
      Json.Draft.readList_of_forall₂ rfl
        (List.forall₂_map_right_iff.mpr (List.forall₂_same.mpr fun contract _ => contract.read_toJson))
    have readCalls : Json.Draft.readList Call.read .ofDocument (.ofJson (.list documents)) = .ok calls :=
      Json.Draft.readList_of_forall₂ rfl (callsStored.imp fun _ _ => Call.Stored.read)
    have members : record.readMembers .ofDocument ⟨none, none⟩ (Json.Draft.ofMembers
        [("contracts", .list (contracts.map Contract.toJson)), ("transactions", .list documents)]) =
          .ok ⟨some contracts, some calls⟩ := by
      rw [Json.Draft.ofMembers,
        Json.Record.readMembers_field rfl rfl (by exact bind_eq_ok_iff.mpr ⟨_, readContracts, rfl⟩),
        Json.Draft.ofMembers,
        Json.Record.readMembers_field rfl rfl (by exact bind_eq_ok_iff.mpr ⟨_, readCalls, rfl⟩)]
      rfl
    rw [BlockConfig.read, Json.Draft.ofJson, Json.Record.read_object rfl members rfl]
    rfl

/-! ### Lists of documents -/

/-- Where each document belongs to some value, a list of them belongs to a list of values. -/
theorem exists_forall₂ {α β : Type} {proper : α → Prop} {related : α → β → Prop} {documents : List β}
    (each : ∀ document ∈ documents, ∃ value, proper value ∧ related value document) :
    ∃ values, (∀ value ∈ values, proper value) ∧ List.Forall₂ related values documents := by
  induction documents with
  | nil => exact ⟨[], nofun, .nil⟩
  | cons document rest ih =>
    obtain ⟨⟨value, holds, tied⟩, later⟩ := List.forall_mem_cons.mp each
    obtain ⟨values, hold, tiedLater⟩ := ih later
    exact ⟨value :: values, List.forall_mem_cons.mpr ⟨holds, hold⟩, .cons tied tiedLater⟩

theorem exists_of_forall₂ {α β : Type} {related : α → β → Prop} {values : List α} {documents : List β} {document : β}
    (tied : List.Forall₂ related values documents) (member : document ∈ documents) :
    ∃ value ∈ values, related value document := by
  induction tied with
  | nil => cases member
  | cons first _ ih =>
    rcases List.mem_cons.mp member with rfl | later
    · exact ⟨_, List.mem_cons_self .., first⟩
    · obtain ⟨value, listed, related⟩ := ih later
      exact ⟨value, List.mem_cons_of_mem _ listed, related⟩

theorem exists_map_eq {α β : Type} {proper : α → Prop} {write : α → β} {documents : List β}
    (each : ∀ document ∈ documents, ∃ value, proper value ∧ write value = document) :
    ∃ values : List α, (∀ value ∈ values, proper value) ∧ documents = values.map write := by
  obtain ⟨values, hold, tied⟩ := exists_forall₂ each
  have same : List.Forall₂ Eq (values.map write) documents := List.forall₂_map_left_iff.mpr tied
  rw [List.forall₂_eq_eq_eq] at same
  exact ⟨values, hold, same.symm⟩

/-! ### Which documents meet the schema -/

namespace BlockConfig

theorem idType_fits_iff {document : Json} :
    idType.Fits document ↔ ∃ id : ContractId, id.number.toNat < 2 ^ 63 ∧ document = id.toJson := by
  constructor
  · intro fits
    cases fits with
    | @integer _ _ value representable notLess notGreater =>
      have positive : 0 ≤ value := notLess 0 rfl
      have same : (UInt64.ofNat value.toNat).toNat = value.toNat := by
        rw [UInt64.toNat_ofNat', Nat.mod_eq_of_lt (by omega)]
      refine ⟨⟨UInt64.ofNat value.toNat⟩, by rw [same]; omega, ?_⟩
      rw [ContractId.toJson, Json.ofNat, same, Int.toNat_of_nonneg positive]
  · rintro ⟨id, small, rfl⟩
    refine .integer (by omega) ?_ nofun
    rintro _ ⟨⟩
    exact Int.natCast_nonneg _

theorem checkString_eq_ok_iff {accepts : String → Bool} {reason text : String} :
    checkString accepts reason (.string text) = .ok () ↔ accepts text = true := by
  cases accepted : accepts text <;> simp [checkString, accepted]

/-- The texts that a field with a rule for texts admits. -/
theorem text_admitted_iff {name reason : String} {accepts : String → Bool} {document : Json} :
    (Schema.checkedField name .string (checkString accepts reason)).Admits document ↔
      ∃ text, accepts text = true ∧ document = .string text := by
  rw [Schema.checkedField, Schema.Field.admits_iff]
  constructor
  · rintro ⟨⟨text⟩, passes⟩
    exact ⟨text, checkString_eq_ok_iff.mp (passes _ rfl), rfl⟩
  · rintro ⟨text, accepted, rfl⟩
    refine ⟨.string text, ?_⟩
    rintro _ ⟨⟩
    exact checkString_eq_ok_iff.mpr accepted

end BlockConfig

theorem FieldType.texts_fits_iff {document : Json} :
    (FieldType.list .string).Fits document ↔ ∃ texts : List String, document = .list (texts.map .string) := by
  rw [Schema.list_fits_iff]
  constructor
  · rintro ⟨values, rfl, every⟩
    have written : ∀ value ∈ values, ∃ text : String, True ∧ Json.string text = value := by
      intro value member
      obtain ⟨text⟩ := every value member
      exact ⟨text, trivial, rfl⟩
    obtain ⟨texts, -, rfl⟩ := exists_map_eq written
    exact ⟨texts, rfl⟩
  · rintro ⟨texts, rfl⟩
    refine ⟨_, rfl, fun value member => ?_⟩
    obtain ⟨text, -, rfl⟩ := List.mem_map.mp member
    exact .string text

/-- Under a strict schema the members of an object in order are told by the names of the fields. -/
theorem Schema.members_eq_of_declared {schema : Schema} {members : List (String × Json)} (names : List String)
    (sortedNames : names.Pairwise (· < ·)) (ordered : (Json.object members).Ordered)
    (declared : ∀ member ∈ members, ∃ field ∈ schema.required ++ schema.optional, field.name = member.1)
    (listed : ∀ field ∈ schema.required ++ schema.optional, field.name ∈ names) :
    members = names.filterMap fun name => (Json.lookup name members).map (name, ·) := by
  cases ordered with
  | object sorted every =>
    refine Json.members_eq_filterMap_lookup sorted sortedNames fun member present => ?_
    obtain ⟨field, known, same⟩ := declared member present
    exact same ▸ listed field known

namespace Contract

theorem exists_of_conforms {document : Json} (ordered : document.Ordered)
    (conforms : BlockConfig.contractSchema.Conforms document) :
    ∃ contract : Contract, contract.Proper ∧ document = contract.toJson := by
  obtain ⟨members, rfl, complete, -, declared⟩ := Schema.conforms_iff.mp conforms
  have listed := Schema.members_eq_of_declared ["id", "path"] (by decide) ordered (declared rfl) (by decide)
  obtain ⟨⟨number, foundNumber, admitsNumber⟩, ⟨path, foundPath, admitsPath⟩, -⟩ : _ ∧ _ ∧ _ := by
    simpa only [BlockConfig.contractSchema, Schema.required_mk, List.forall_mem_cons] using complete
  obtain ⟨id, small, rfl⟩ := BlockConfig.idType_fits_iff.mp (Schema.field_admitted_iff.mp admitsNumber)
  obtain ⟨path, solid, rfl⟩ := BlockConfig.text_admitted_iff.mp admitsPath
  simp only [Schema.field_name, Schema.checkedField_name] at foundNumber foundPath
  simp only [List.filterMap_cons, foundNumber, foundPath, List.filterMap_nil, Option.map_some] at listed
  refine ⟨⟨id, path⟩, ⟨small, ?_⟩, by rw [listed]; rfl⟩
  simpa [Text.isBlankText] using solid

theorem Proper.conforms {contract : Contract} (proper : contract.Proper) :
    BlockConfig.contractSchema.Conforms contract.toJson := by
  have path : (!Text.isBlankText contract.path) = true := by simpa [Text.isBlankText] using proper.path
  refine Schema.conforms_iff.mpr ⟨_, rfl, ?_, nofun, fun _ => ?_⟩
  · refine List.forall_mem_cons.mpr ⟨⟨_, rfl, ?_⟩, List.forall_mem_singleton.mpr ⟨_, rfl, ?_⟩⟩
    · exact Schema.field_admitted_iff.mpr (BlockConfig.idType_fits_iff.mpr ⟨_, proper.number, rfl⟩)
    · exact BlockConfig.text_admitted_iff.mpr ⟨_, path, rfl⟩
  · simp [BlockConfig.contractSchema]

end Contract

namespace Call

theorem exists_stored_of_conforms {document : Json} (ordered : document.Ordered)
    (conforms : BlockConfig.callSchema.Conforms document) : ∃ call : Call, call.Proper ∧ call.Stored document := by
  obtain ⟨members, rfl, complete, optional, declared⟩ := Schema.conforms_iff.mp conforms
  have listed := Schema.members_eq_of_declared ["callArguments", "contractId", "methodName"] (by decide) ordered
    (declared rfl) (by decide)
  obtain ⟨⟨number, foundNumber, admitsNumber⟩, ⟨method, foundMethod, admitsMethod⟩, -⟩ : _ ∧ _ ∧ _ := by
    simpa only [BlockConfig.callSchema, Schema.required_mk, List.forall_mem_cons] using complete
  obtain ⟨id, small, rfl⟩ := BlockConfig.idType_fits_iff.mp (Schema.field_admitted_iff.mp admitsNumber)
  obtain ⟨method, named, rfl⟩ := BlockConfig.text_admitted_iff.mp admitsMethod
  have nonempty : method ≠ "" := by simpa using named
  simp only [Schema.field_name, Schema.checkedField_name] at foundNumber foundMethod
  cases foundArguments : Json.lookup "callArguments" members with
  | none =>
    simp only [List.filterMap_cons, foundNumber, foundMethod, foundArguments, List.filterMap_nil, Option.map_some,
      Option.map_none] at listed
    exact ⟨⟨id, method, []⟩, ⟨small, nonempty⟩, listed ▸ .bare id method⟩
  | some found =>
    have admits := optional _ (List.mem_singleton_self _) found foundArguments
    obtain ⟨arguments, rfl⟩ := FieldType.texts_fits_iff.mp (Schema.field_admitted_iff.mp admits)
    simp only [List.filterMap_cons, foundNumber, foundMethod, foundArguments, List.filterMap_nil,
      Option.map_some] at listed
    exact ⟨⟨id, method, arguments⟩, ⟨small, nonempty⟩, listed ▸ .listed ⟨id, method, arguments⟩⟩

theorem Stored.conforms {call : Call} {document : Json} (stored : call.Stored document) (proper : call.Proper) :
    BlockConfig.callSchema.Conforms document := by
  have number : (Schema.field "contractId" BlockConfig.idType).Admits call.contract.toJson :=
    Schema.field_admitted_iff.mpr (BlockConfig.idType_fits_iff.mpr ⟨_, proper.number, rfl⟩)
  have method : (Schema.checkedField "methodName" .string (BlockConfig.checkString (· != "")
      "method name cannot be empty")).Admits (.string call.method) :=
    BlockConfig.text_admitted_iff.mpr ⟨_, bne_iff_ne.mpr proper.method, rfl⟩
  cases stored with
  | listed =>
    have arguments : (Schema.field "callArguments" (.list .string)).Admits (.list (call.arguments.map .string)) :=
      Schema.field_admitted_iff.mpr (FieldType.texts_fits_iff.mpr ⟨call.arguments, rfl⟩)
    refine Schema.conforms_iff.mpr ⟨_, rfl, ?_, ?_, fun _ => ?_⟩
    · exact List.forall_mem_cons.mpr ⟨⟨_, rfl, number⟩, List.forall_mem_singleton.mpr ⟨_, rfl, method⟩⟩
    · refine List.forall_mem_singleton.mpr ?_
      rintro _ ⟨⟩
      exact arguments
    · simp [BlockConfig.callSchema]
  | bare =>
    refine Schema.conforms_iff.mpr ⟨_, rfl, ?_, ?_, fun _ => ?_⟩
    · exact List.forall_mem_cons.mpr ⟨⟨_, rfl, number⟩, List.forall_mem_singleton.mpr ⟨_, rfl, method⟩⟩
    · exact List.forall_mem_singleton.mpr nofun
    · simp [BlockConfig.callSchema]

end Call

namespace BlockConfig

theorem exists_stored_of_conforms {document : Json} (ordered : document.Ordered)
    (conforms : schema.Conforms document) :
    ∃ config : BlockConfig, config.Stored document ∧ (∀ contract ∈ config.contracts, contract.Proper) ∧
      ∀ call ∈ config.calls, call.Proper := by
  obtain ⟨members, rfl, complete, -, declared⟩ := Schema.conforms_iff.mp conforms
  have listed := Schema.members_eq_of_declared ["contracts", "transactions"] (by decide) ordered (declared rfl)
    (by decide)
  obtain ⟨⟨contracts, foundContracts, admitsContracts⟩, ⟨calls, foundCalls, admitsCalls⟩, -⟩ : _ ∧ _ ∧ _ := by
    simpa only [BlockConfig.schema, Schema.required_mk, List.forall_mem_cons] using complete
  obtain ⟨contracts, rfl, contractsFit⟩ :=
    Schema.list_fits_iff.mp (Schema.field_admitted_iff.mp admitsContracts)
  obtain ⟨calls, rfl, callsFit⟩ := Schema.list_fits_iff.mp (Schema.field_admitted_iff.mp admitsCalls)
  simp only [Schema.field_name] at foundContracts foundCalls
  simp only [List.filterMap_cons, foundContracts, foundCalls, List.filterMap_nil, Option.map_some] at listed
  subst listed
  have contractsListed : ∀ document ∈ contracts,
      ∃ contract : Contract, contract.Proper ∧ contract.toJson = document := by
    intro document member
    obtain ⟨contract, proper, same⟩ := Contract.exists_of_conforms (ordered.of_listed (List.mem_cons_self ..) member)
      (Schema.object_fits_iff.mp (contractsFit document member))
    exact ⟨contract, proper, same.symm⟩
  have callsListed : ∀ document ∈ calls, ∃ call : Call, call.Proper ∧ call.Stored document := fun document member =>
    Call.exists_stored_of_conforms (ordered.of_listed (List.mem_cons_of_mem _ (List.mem_singleton_self _)) member)
      (Schema.object_fits_iff.mp (callsFit document member))
  obtain ⟨contracts, contractsProper, rfl⟩ := exists_map_eq contractsListed
  obtain ⟨calls, callsProper, stored⟩ := exists_forall₂ callsListed
  exact ⟨⟨contracts, calls⟩, .mk stored, contractsProper, callsProper⟩

theorem Stored.conforms {config : BlockConfig} {document : Json} (stored : config.Stored document)
    (contractsProper : ∀ contract ∈ config.contracts, contract.Proper)
    (callsProper : ∀ call ∈ config.calls, call.Proper) :
    schema.Conforms document := by
  cases stored with
  | @mk contracts calls documents callsStored =>
    refine Schema.conforms_iff.mpr ⟨_, rfl, ?_, nofun, fun _ => ?_⟩
    · refine List.forall_mem_cons.mpr ⟨⟨_, rfl, ?_⟩, List.forall_mem_singleton.mpr ⟨_, rfl, ?_⟩⟩
      · refine Schema.field_admitted_iff.mpr (.list fun document member => ?_)
        obtain ⟨contract, listed, rfl⟩ := List.mem_map.mp member
        exact .object (contractsProper contract listed).conforms
      · refine Schema.field_admitted_iff.mpr (.list fun document member => ?_)
        obtain ⟨call, listed, stored⟩ := exists_of_forall₂ callsStored member
        exact .object (stored.conforms (callsProper call listed))
    · simp [BlockConfig.schema]

end BlockConfig

end LedgerCapture
