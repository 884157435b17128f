import LedgerCapture.Gateway.Implementation
import LedgerCapture.Proofs.Schema
import Mathlib.Data.Set.List

/-!
Tables of implementations, read twice: by the maker of the implementation, which leaves out what it cannot use, and
by the schema, which looks at the same table as a document. What the schema accepts is read without loss.
-/
namespace LedgerCapture

namespace Toml

/-! ### Tables as documents -/

theorem toJson_eq_string_iff {value : Toml} {text : String} : value.toJson = .string text ↔ value = .string text := by
  cases value with
  | float value => cases value <;> simp [toJson, Float.toJson]
  | _ => simp [toJson]

theorem toJson_eq_integer_iff {value : Toml} {number : Int} :
    value.toJson = .number (.integer number) ↔ value = .integer number := by
  cases value with
  | float value => cases value <;> simp [toJson, Float.toJson]
  | _ => simp [toJson]

theorem toJson_eq_list_iff {value : Toml} {items : List Json} :
    value.toJson = .list items ↔ ∃ values, value = .list values ∧ itemsToJson values = items := by
  cases value with
  | float value => cases value <;> simp [toJson, Float.toJson]
  | _ => simp [toJson]

/-- Dates and times become objects too, with one member of a name of their own. -/
theorem toJson_eq_object {value : Toml} {members : List (String × Json)} (same : value.toJson = .object members) :
    (∃ entries, value = .table entries ∧ members = entriesToJson entries) ∨
      ∃ text, members = [(datetimeKey, .string text)] := by
  cases value with
  | table entries => exact .inl ⟨entries, rfl, (Json.object.inj same).symm⟩
  | datetime text => exact .inr ⟨text, (Json.object.inj same).symm⟩
  | float value => cases value <;> cases same
  | _ => cases same

theorem itemsToJson_eq_map (items : List Toml) : itemsToJson items = items.map toJson := by
  induction items with
  | nil => rfl
  | cons item rest ih => rw [itemsToJson, ih, List.map_cons]

theorem lookup_entriesToJson (key : String) (entries : List (String × Toml)) :
    Json.lookup key (entriesToJson entries) = (lookup key entries).map toJson := by
  induction entries with
  | nil => rfl
  | cons entry rest ih =>
    rw [entriesToJson, Json.lookup, lookup, ih]
    split <;> rfl

theorem exists_mem_entriesToJson {entries : List (String × Toml)} {entry : String × Toml} (listed : entry ∈ entries) :
    ∃ member ∈ entriesToJson entries, member.1 = entry.1 := by
  induction entries with
  | nil => cases listed
  | cons first rest ih =>
    rw [entriesToJson]
    rcases List.mem_cons.mp listed with rfl | listed
    · exact ⟨_, List.mem_cons_self .., rfl⟩
    · obtain ⟨member, inside, same⟩ := ih listed
      exact ⟨member, List.mem_cons_of_mem _ inside, same⟩

/-! ### What schemas say of tables -/

/-- A table with entries for the fields of a schema, and for nothing else. -/
structure Suits (table : Toml) (required optional : List Schema.Field) : Prop where
  present : ∀ field ∈ required, ∃ value, table.get? field.name = some value ∧ field.Admits value.toJson
  fitting : ∀ field ∈ optional, ∀ value, table.get? field.name = some value → field.Admits value.toJson
  complete : ∃ entries, table = .table entries ∧
    ∀ entry ∈ entries, entry.1 ∈ (required ++ optional).map Schema.Field.name

/-- Under a strict schema that knows no dates, only tables are accepted. -/
theorem suits_of_validate {table : Toml} {required optional : List Schema.Field}
    (dateless : ∀ field ∈ required ++ optional, field.name ≠ datetimeKey)
    (valid : table.validate (.mk required optional true) = .ok ()) : table.Suits required optional := by
  rw [validate, Schema.validate_eq_ok_iff, Schema.conforms_iff] at valid
  obtain ⟨members, document, present, fitting, declared⟩ := valid
  rcases toJson_eq_object document with ⟨entries, rfl, rfl⟩ | ⟨text, rfl⟩
  · have found (key : String) : Json.lookup key (entriesToJson entries) = (get? (.table entries) key).map toJson :=
      lookup_entriesToJson key entries
    refine ⟨fun field required => ?_, fun field optional value given => ?_, entries, rfl, fun entry listed => ?_⟩
    · obtain ⟨document, inside, admits⟩ := present field required
      rw [found, Option.map_eq_some_iff] at inside
      obtain ⟨value, given, rfl⟩ := inside
      exact ⟨value, given, admits⟩
    · exact fitting field optional value.toJson (by rw [found, given, Option.map_some])
    · obtain ⟨member, inside, same⟩ := exists_mem_entriesToJson listed
      obtain ⟨field, known, named⟩ := declared rfl member inside
      exact List.mem_map.mpr ⟨field, known, named.trans same⟩
  · obtain ⟨field, known, named⟩ := declared rfl _ (List.mem_singleton_self _)
    exact absurd named (dateless field known)

theorem string_fits_iff {value : Toml} : FieldType.string.Fits value.toJson ↔ ∃ text, value = .string text := by
  constructor
  · generalize same : value.toJson = document
    rintro ⟨text⟩
    exact ⟨text, toJson_eq_string_iff.mp same⟩
  · rintro ⟨text, rfl⟩
    exact .string text

def ofTexts (texts : List String) : Toml :=
  .list (texts.map .string)

theorem strings_fit_iff {value : Toml} :
    (FieldType.list .string).Fits value.toJson ↔ ∃ texts, value = ofTexts texts := by
  rw [Schema.list_fits_iff]
  constructor
  · rintro ⟨items, same, every⟩
    obtain ⟨values, rfl, rfl⟩ := toJson_eq_list_iff.mp same
    rw [itemsToJson_eq_map] at every
    have listed : values ∈ Set.range (List.map Toml.string) := by
      rw [Set.range_list_map]
      exact fun value inside => (string_fits_iff.mp (every _ (List.mem_map_of_mem inside))).imp fun _ => Eq.symm
    obtain ⟨texts, rfl⟩ := listed
    exact ⟨texts, rfl⟩
  · rintro ⟨texts, rfl⟩
    refine ⟨_, rfl, fun document listed => ?_⟩
    rw [itemsToJson_eq_map, List.map_map] at listed
    obtain ⟨text, -, rfl⟩ := List.mem_map.mp listed
    exact .string text

theorem integer_fits_iff {value : Toml} {least greatest : Int} (representable : -2 ^ 63 ≤ least ∧ greatest < 2 ^ 63) :
    (FieldType.integer (some least) (some greatest)).Fits value.toJson ↔
      ∃ number, value = .integer number ∧ least ≤ number ∧ number ≤ greatest := by
  constructor
  · generalize same : value.toJson = document
    rintro (_ | @⟨_, _, number, -, notLess, notGreater⟩)
    exact ⟨number, toJson_eq_integer_iff.mp same, notLess least rfl, notGreater greatest rfl⟩
  · rintro ⟨number, rfl, notLess, notGreater⟩
    refine .integer ⟨by omega, by omega⟩ ?_ ?_
    · rintro bound ⟨⟩
      exact notLess
    · rintro bound ⟨⟩
      exact notGreater

/-- The value stands in the table under the key; if nothing does, it is the default. -/
def Carries {α : Type} (table : Toml) (key : String) (write : α → Toml) (default value : α) : Prop :=
  table.get? key = some (write value) ∨ table.get? key = none ∧ value = default

section Carrying

variable {table : Toml} {key : String}

/-- What holds of every value under the key and of the default holds of what is carried. -/
theorem Carries.satisfies {α : Type} {write : α → Toml} {default value : α}
    (carried : table.Carries key write default value) (property : α → Prop)
    (given : ∀ value, table.get? key = some (write value) → property value) (absent : property default) :
    property value := by
  rcases carried with found | ⟨-, rfl⟩
  · exact given value found
  · exact absent

theorem string?_eq_of_get? (fits : ∀ value, table.get? key = some value → FieldType.string.Fits value.toJson) :
    ((table.get? key).bind string?).map .string = table.get? key := by
  cases given : table.get? key with
  | none => rfl
  | some value =>
    obtain ⟨text, rfl⟩ := string_fits_iff.mp (fits value given)
    rfl

theorem carries_string (default : String)
    (fits : ∀ value, table.get? key = some value → FieldType.string.Fits value.toJson) :
    table.Carries key .string default (((table.get? key).bind string?).getD default) := by
  cases given : table.get? key with
  | none => exact .inr ⟨given, rfl⟩
  | some value =>
    obtain ⟨text, rfl⟩ := string_fits_iff.mp (fits value given)
    exact .inl given

theorem carries_strings (default : List String)
    (fits : ∀ value, table.get? key = some value → (FieldType.list .string).Fits value.toJson) :
    table.Carries key ofTexts default ((table.strings? key).getD default) := by
  unfold strings?
  cases given : table.get? key with
  | none => exact .inr ⟨given, rfl⟩
  | some value =>
    obtain ⟨texts, rfl⟩ := strings_fit_iff.mp (fits value given)
    have kept : (texts.map Toml.string).filterMap string? = texts := by
      rw [List.filterMap_map]
      exact List.filterMap_some
    refine .inl ?_
    show table.get? key = some (ofTexts ((texts.map Toml.string).filterMap string?))
    rw [given, kept]

end Carrying

end Toml

/-! ### Wallet programs -/

namespace WalletProgram

/-- A program with everything that a table says, and with the defaults for what it does not say. -/
structure Reproduces (program : WalletProgram) (context : GatewayContext) (table : Toml) : Prop where
  binary : table.Carries "binary" .string "nil_cli" program.binary ∧ program.binary ≠ ""
  leadingArguments : table.Carries "binary_args" Toml.ofTexts [] program.leadingArguments
  probeArguments : table.Carries "probe_args" Toml.ofTexts ["block", "latest"] program.probeArguments ∧
    program.probeArguments ≠ []
  chosen : ∀ path, context.walletConfig = some path → program.configPath = some path
  configPath : context.walletConfig = none → table.get? "config_path" = program.configPath.map .string
  complete : ∃ entries, table = .table entries ∧
    ∀ entry ∈ entries, entry.1 ∈ ["binary", "binary_args", "config_path", "probe_args"]

theorem nonEmptyString_eq_ok_iff {text : String} : nonEmptyString (.string text) = .ok () ↔ text ≠ "" := by
  simp [nonEmptyString]

theorem nonEmptyList_ofTexts_iff {reason : String} {texts : List String} :
    nonEmptyList reason (Toml.ofTexts texts).toJson = .ok () ↔ texts ≠ [] := by
  cases texts <;> simp [nonEmptyList, Toml.ofTexts, Toml.toJson, Toml.itemsToJson]

/-- What the schema accepts is made into a program without loss. -/
theorem reproduces_of_validate {table : Toml} (valid : table.validate schema = .ok ()) (context : GatewayContext) :
    (ofTable context table).Reproduces context table := by
  obtain ⟨-, fitting, complete⟩ := Toml.suits_of_validate (by decide) valid
  simp only [List.forall_mem_cons, Schema.checkedField_admitted_iff, Schema.field_admitted_iff] at fitting
  obtain ⟨binary, leadingArguments, configPath, probeArguments, -⟩ := fitting
  have carriesBinary := Toml.carries_string "nil_cli" fun value given => (binary value given).1
  have carriesProbing := Toml.carries_strings ["block", "latest"] fun value given => (probeArguments value given).1
  constructor
  case binary =>
    exact ⟨carriesBinary, carriesBinary.satisfies (· ≠ "")
      (fun text given => nonEmptyString_eq_ok_iff.mp (binary _ given).2) (by decide)⟩
  case leadingArguments => exact Toml.carries_strings [] leadingArguments
  case probeArguments =>
    exact ⟨carriesProbing, carriesProbing.satisfies (· ≠ [])
      (fun texts given => nonEmptyList_ofTexts_iff.mp (probeArguments _ given).2) (by decide)⟩
  case chosen =>
    intro path chosen
    rw [ofTable, chosen]
    rfl
  case configPath =>
    intro unchosen
    rw [ofTable, unchosen]
    exact (Toml.string?_eq_of_get? fun value given => (configPath value given).1).symm
  case complete => exact complete

end WalletProgram

/-! ### Remote nodes -/

namespace RemoteNode

structure Reproduces (node : RemoteNode) (table : Toml) : Prop where
  endpoint : table.get? "endpoint" = some (.string node.endpoint)
  web : node.endpoint.startsWith "http://" = true ∨ node.endpoint.startsWith "https://" = true
  probeMethod : table.Carries "probe_method" .string "eth_chainId" node.probeMethod
  timeout : table.Carries "timeout_seconds" (fun seconds : UInt64 => .integer seconds.toNat) 30 node.timeoutSeconds
  bounded : 1 ≤ node.timeoutSeconds.toNat ∧ node.timeoutSeconds.toNat ≤ 600
  complete : ∃ entries, table = .table entries ∧
    ∀ entry ∈ entries, entry.1 ∈ ["endpoint", "probe_method", "timeout_seconds"]

theorem endpointCheck_eq_ok_iff {text : String} :
    endpointCheck (.string text) = .ok () ↔ text.startsWith "http://" = true ∨ text.startsWith "https://" = true := by
  rw [endpointCheck, ← Bool.or_eq_true]
  split
  · next web => simp [web]
  · next other => simp [other]

/-- A number of seconds that is not too long keeps its value. -/
theorem toNat_ofInt {seconds : Int} (positive : 0 ≤ seconds) (short : seconds < 2 ^ 64) :
    ((UInt64.ofInt seconds).toNat : Int) = seconds := by
  rw [UInt64.ofInt, UInt64.toNat_ofNat']
  omega

def seconds (table : Toml) : UInt64 :=
  match (table.get? "timeout_seconds").bind Toml.integer? with
  | some seconds => UInt64.ofInt seconds
  | none => 30

section

variable {table : Toml} (fits : ∀ value, table.get? "timeout_seconds" = some value →
  (FieldType.integer (some 1) (some 600)).Fits value.toJson)

include fits

theorem carries_seconds :
    table.Carries "timeout_seconds" (fun seconds : UInt64 => .integer seconds.toNat) 30 (seconds table) := by
  unfold seconds
  cases given : table.get? "timeout_seconds" with
  | none => exact .inr ⟨given, rfl⟩
  | some value =>
    obtain ⟨number, rfl, positive, short⟩ := (Toml.integer_fits_iff (by decide)).mp (fits value given)
    refine .inl ?_
    show _ = some (Toml.integer (UInt64.ofInt number).toNat)
    rw [given, toNat_ofInt (by omega) (by omega)]

theorem seconds_bounded : 1 ≤ (seconds table).toNat ∧ (seconds table).toNat ≤ 600 := by
  refine (carries_seconds fits).satisfies (fun seconds => 1 ≤ seconds.toNat ∧ seconds.toNat ≤ 600)
    (fun seconds given => ?_) (by decide)
  obtain ⟨number, same, positive, short⟩ := (Toml.integer_fits_iff (by decide)).mp (fits _ given)
  have same := Toml.integer.inj same
  omega

end

/-- What the schema accepts is made into a node without loss. -/
theorem exists_reproduces_of_validate {table : Toml} (valid : table.validate schema = .ok ()) :
    ∃ node, ofTable table = .ok node ∧ node.Reproduces table := by
  obtain ⟨present, fitting, complete⟩ := Toml.suits_of_validate (by decide) valid
  simp only [List.forall_mem_cons, Schema.checkedField_admitted_iff, Schema.field_admitted_iff] at present fitting
  obtain ⟨⟨value, endpoint, fits, checked⟩, -⟩ := present
  obtain ⟨probeMethod, timeout, -⟩ := fitting
  obtain ⟨text, rfl⟩ := Toml.string_fits_iff.mp fits
  refine ⟨_, by rw [ofTable, show table.get? "endpoint" = some (.string text) from endpoint]; rfl, ?_⟩
  constructor
  case endpoint => exact endpoint
  case web => exact endpointCheck_eq_ok_iff.mp checked
  case probeMethod => exact Toml.carries_string "eth_chainId" probeMethod
  case timeout => exact carries_seconds timeout
  case bounded => exact seconds_bounded timeout
  case complete => exact complete

end RemoteNode

end LedgerCapture
