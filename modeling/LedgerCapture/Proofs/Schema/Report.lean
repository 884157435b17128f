import LedgerCapture.Config.Block
import LedgerCapture.Proofs.Schema.Fault

/-!
How far the reports of failed checks can be relied upon. A report leads to the place of the fault, unless a value of
the wrong type is a member with the name of the document; and it tells apart the type that it expects from the one
that it met, unless an integer does not fit in 64 bits with a sign.
-/
namespace LedgerCapture

open Json (Step)

namespace FieldType

variable {type inner : FieldType} {document value : Json} {path more : List Step}

/-! ### Going down -/

theorem Declares.split (declared : type.Declares (path ++ more) inner) :
    ∃ between, type.Declares path between ∧ between.Declares more inner := by
  induction path generalizing type with
  | nil => exact ⟨type, .here type, declared⟩
  | cons step rest ih =>
    rw [List.cons_append] at declared
    cases declared with
    | item index declared =>
      obtain ⟨between, upper, lower⟩ := ih declared
      exact ⟨between, .item index upper, lower⟩
    | member listed declared =>
      obtain ⟨between, upper, lower⟩ := ih declared
      exact ⟨between, .member listed upper, lower⟩

/-- What fits has parts that fit. -/
theorem Declares.fits (declared : type.Declares path inner) (there : Json.follow path document = some value)
    (fits : type.Fits document) : inner.Fits value := by
  induction declared generalizing document with
  | here type =>
    cases there
    exact fits
  | item index declared ih =>
    obtain ⟨values, rfl, every⟩ := Schema.list_fits_iff.mp fits
    obtain ⟨item, found, rest⟩ := Option.bind_eq_some_iff.mp there
    exact ih rest (every item (List.mem_of_getElem? found))
  | @member schema field type path listed declared ih =>
    obtain ⟨members, rfl, required, optional, -⟩ := Schema.conforms_iff.mp (Schema.object_fits_iff.mp fits)
    obtain ⟨part, found, rest⟩ := Option.bind_eq_some_iff.mp there
    have admitted : field.Admits part := by
      rcases List.mem_append.mp listed with listed | listed
      · obtain ⟨other, again, admits⟩ := required field listed
        cases found.symm.trans again
        exact admits
      · exact optional field listed part found
    cases admitted with
    | mk fitsPart passes => exact ih rest fitsPart

theorem Declares.cases_object {schema : Schema} (declared : (FieldType.object schema).Declares path inner) :
    path = [] ∨ ∃ name rest, path = .member name :: rest := by
  cases declared with
  | here type => exact .inl rfl
  | member listed declared => exact .inr ⟨_, _, rfl⟩

/-- What a report of a type mismatch is about. -/
theorem FaultAt.mismatch {field expected actual : String}
    (faultAt : type.FaultAt document path (.typeMismatch field expected actual)) :
    ∃ inner value, type.Declares path inner ∧ Json.follow path document = some value ∧
      expected = inner.name ∧ actual = value.typeName ∧ ¬inner.HasKind value := by
  obtain ⟨outer, last, inner, value, rfl, declared, there, refuses⟩ := faultAt
  cases refuses with
  | kind unlike =>
    rw [List.append_nil]
    exact ⟨inner, value, declared, there, rfl, rfl, unlike⟩

/-- The one value that is called as the type that it does not have is an integer that needs more than 64 bits. -/
theorem name_eq_typeName_iff (unlike : ¬type.HasKind value) :
    type.name = value.typeName ↔ (∃ least greatest, type = .integer least greatest) ∧
      ∃ number : Int, value = .number (.integer number) ∧ ¬(-2 ^ 63 ≤ number ∧ number < 2 ^ 63) := by
  constructor
  · intro same
    -- where the names are the same and the type is not that of integers, the value has the type
    cases type with
    | integer least greatest =>
      rcases value with _ | _ | ⟨number | _⟩ | _ | _ | _
      case number.integer =>
        exact ⟨⟨least, greatest, rfl⟩, number, rfl, fun representable => unlike (.integer representable)⟩
      all_goals exact absurd same (by simp [name, Json.typeName])
    | _ =>
      rcases value with _ | _ | ⟨_ | _⟩ | _ | _ | _ <;>
        first | exact absurd (by constructor) unlike | exact absurd same (by simp [name, Json.typeName])
  · rintro ⟨⟨least, greatest, rfl⟩, number, rfl, -⟩
    rfl

end FieldType

namespace Schema

/-! ### The names in a schema -/

mutual

/-- The names of the fields that a value of the type may have, however deep. -/
def typeNames : FieldType → List String
  | .list item => typeNames item
  | .object schema => names schema
  | _ => []

def fieldNames : List Field → List String
  | [] => []
  | .mk name type _ :: rest => name :: (typeNames type ++ fieldNames rest)

def names : Schema → List String
  | .mk required optional _ => fieldNames required ++ fieldNames optional

end

theorem mem_fieldNames {field : Field} {fields : List Field} (listed : field ∈ fields) :
    field.name ∈ fieldNames fields ∧ typeNames field.type ⊆ fieldNames fields := by
  induction fields with
  | nil => cases listed
  | cons first rest ih =>
    obtain ⟨name, type, check⟩ := first
    rw [fieldNames]
    rcases List.mem_cons.mp listed with rfl | later
    · exact ⟨List.mem_cons_self .., fun other member => List.mem_cons_of_mem _ (List.mem_append_left _ member)⟩
    · obtain ⟨named, below⟩ := ih later
      exact ⟨List.mem_cons_of_mem _ (List.mem_append_right _ named),
        fun other member => List.mem_cons_of_mem _ (List.mem_append_right _ (below member))⟩

theorem mem_names {schema : Schema} {field : Field} (listed : field ∈ schema.fields) :
    field.name ∈ schema.names ∧ typeNames field.type ⊆ schema.names := by
  obtain ⟨required, optional, strict⟩ := schema
  rw [names]
  rcases List.mem_append.mp listed with listed | listed
  · obtain ⟨named, below⟩ := mem_fieldNames listed
    exact ⟨List.mem_append_left _ named, fun other member => List.mem_append_left _ (below member)⟩
  · obtain ⟨named, below⟩ := mem_fieldNames listed
    exact ⟨List.mem_append_right _ named, fun other member => List.mem_append_right _ (below member)⟩

/-- The names on the way to a declared place are among those of the schema. -/
theorem name_mem_of_declares {type inner : FieldType} {path : List Step} {name : String}
    (declared : type.Declares path inner) (onTheWay : .member name ∈ path) : name ∈ typeNames type := by
  induction declared with
  | here type => cases onTheWay
  | item index declared ih =>
    rw [typeNames]
    rcases List.mem_cons.mp onTheWay with same | later
    · cases same
    · exact ih later
  | member listed declared ih =>
    rw [typeNames]
    obtain ⟨named, below⟩ := mem_names listed
    rcases List.mem_cons.mp onTheWay with same | later
    · cases same
      exact named
    · exact below (ih later)

/-! ### Following a report -/

/-- What a report says is so at a place: a value of the reported type that is not admitted there; a value that breaks
a bound or a rule; a required member that is not there; a member that is there and not declared. -/
def HoldsAt (schema : Schema) (document : Json) (path : List Step) : ValidationError → Prop
  | .typeMismatch _ _ actual => ∃ type value, (FieldType.object schema).Declares path type ∧
      Json.follow path document = some value ∧ value.typeName = actual ∧ ¬type.Fits value
  | fault => (FieldType.object schema).FaultAt document path fault

def Located (schema : Schema) (document : Json) (fault : ValidationError) : Prop :=
  ∃ path, placeText path = fault.field ∧ schema.HoldsAt document path fault

variable {schema : Schema} {members : List (String × Json)} {document : Json} {path : List Step}
  {fault : ValidationError}

theorem holdsAt_of_faultAt (faultAt : (FieldType.object schema).FaultAt document path fault) :
    schema.HoldsAt document path fault := by
  cases fault with
  | typeMismatch field expected actual =>
    obtain ⟨inner, value, declared, there, -, rfl, unlike⟩ := faultAt.mismatch
    exact ⟨inner, value, declared, there, rfl, fun fits => unlike fits.hasKind⟩
  | _ => exact faultAt

/-- Where a report does not name the place itself, it names an object above it. -/
theorem shown_cases (fault : ValidationError) (path : List Step) :
    fault.shown path = path ∨ ∃ more, path = fault.shown path ++ rootMember :: more := by
  rcases path with _ | ⟨first, rest⟩
  · exact .inl rfl
  cases fault with
  | typeMismatch field expected actual =>
    rcases withoutRoots_cases rest with same | ⟨more, same⟩
    · exact .inl (congrArg _ same)
    · exact .inr ⟨more, congrArg _ same⟩
  | _ => exact .inl rfl

theorem exists_object_above {name : String} {more : List Step} {value : Json}
    (there : Json.follow (path ++ .member name :: more) document = some value) :
    ∃ above, Json.follow path document = some above ∧ above.typeName = "object" ∧
      Json.follow (.member name :: more) above = some value := by
  rw [Json.follow_append] at there
  obtain ⟨above, here, below⟩ := Option.bind_eq_some_iff.mp there
  exact ⟨above, here, Json.typeName_of_follow_member below, below⟩

theorem plainPath_of_declares {inner : FieldType} (plain : ∀ name ∈ schema.names, IsPlain name)
    (declared : (FieldType.object schema).Declares path inner) : PlainPath path := by
  intro name onTheWay
  have listed := name_mem_of_declares declared onTheWay
  rw [typeNames] at listed
  exact plain name listed

/-- A text that names a place below the document is read as that place, or, where it is the name of the document,
as the document. -/
theorem eq_of_placeText {name : String} {rest reading : List Step} {inner : FieldType}
    (plain : ∀ name ∈ schema.names, IsPlain name) (plainPath : PlainPath (.member name :: rest))
    (declared : (FieldType.object schema).Declares reading inner)
    (same : placeText reading = placeText (.member name :: rest)) :
    reading = [] ∨ reading = .member name :: rest := by
  rcases declared.cases_object with rfl | ⟨other, more, rfl⟩
  · exact .inl rfl
  · exact .inr (placeText_injective (plainPath_of_declares plain declared) plainPath same)

theorem shown_eq_of_not_mem (faultAt : (FieldType.object schema).FaultAt document path fault)
    (unused : ValidationError.root ∉ schema.names) : fault.shown path = path := by
  rcases shown_cases fault path with same | ⟨more, same⟩
  · exact same
  cases fault with
  | typeMismatch field expected actual =>
    obtain ⟨inner, value, declared, -⟩ := faultAt.mismatch
    have onTheWay : rootMember ∈ path := same ▸ List.mem_append_right _ (List.mem_cons_self ..)
    have listed := name_mem_of_declares declared onTheWay
    rw [typeNames] at listed
    exact absurd listed unused
  | _ => cases path <;> rfl

theorem located_iff {name : String} {rest : List Step} (plain : ∀ name ∈ schema.names, IsPlain name)
    (faultAt : (FieldType.object schema).FaultAt (.object members) (.member name :: rest) fault)
    (named : fault.field = placeText (fault.shown (.member name :: rest))) :
    schema.Located (.object members) fault ↔
      fault.shown (.member name :: rest) = .member name :: rest ∨
        ∃ field expected, fault = .typeMismatch field expected "object" := by
  have whole : fault.shown (.member name :: rest) = .member name :: rest → schema.Located (.object members) fault :=
    fun same => ⟨_, by rw [named, same], holdsAt_of_faultAt faultAt⟩
  rcases shown_cases fault (.member name :: rest) with same | ⟨more, same⟩
  · exact iff_of_true (whole same) (.inl same)
  cases fault with
  | typeMismatch field expected actual =>
    obtain ⟨inner, value, declared, there, -, -, unlike⟩ := faultAt.mismatch
    -- above the fault there is an object, which is what the report speaks of
    obtain ⟨above, here, isObject, below⟩ := exists_object_above (same ▸ there)
    constructor
    · rintro ⟨reading, text, type, found, declaredToo, thereToo, reported, -⟩
      refine .inr ⟨field, expected, congrArg _ (reported.symm.trans ?_)⟩
      have plainShown : PlainPath (.member name :: withoutRoots rest) := by
        have plainPath := plainPath_of_declares plain declared
        exact fun name member => plainPath name (same ▸ List.mem_append_left _ member)
      rcases eq_of_placeText plain plainShown declaredToo (text.trans named) with rfl | rfl
      · cases thereToo
        rfl
      · cases here.symm.trans thereToo
        exact isObject
    · rintro (same | ⟨_, _, reported⟩)
      · exact whole same
      · obtain ⟨between, upper, lower⟩ := FieldType.Declares.split (same ▸ declared)
        have actualIs := (ValidationError.typeMismatch.inj reported).2.2
        exact ⟨_, named.symm, between, above, upper, here, isObject.trans actualIs.symm,
          fun fits => unlike (lower.fits below fits).hasKind⟩
  | _ => exact absurd same (by simp [ValidationError.shown, ValidationError.cut])

/-- Every report on an object goes back to a fault in it. Following the reported path leads there, or to an object
that has the fault in it and is reported as one; else the report is of a member with the name of the document, and
what it says is not so where it points. -/
theorem report_located_iff (plain : ∀ name ∈ schema.names, IsPlain name)
    (rejected : schema.validate (.object members) = .error fault) :
    ∃ path, (FieldType.object schema).FaultAt (.object members) path fault ∧
      fault.field = placeText (fault.shown path) ∧
      (schema.Located (.object members) fault ↔
        fault.shown path = path ∨ ∃ field expected, fault = .typeMismatch field expected "object") ∧
      (ValidationError.root ∉ schema.names → schema.Located (.object members) fault) := by
  rcases validate_fault (.object members) schema rejected with ⟨unlike, -⟩ | ⟨_, same, name, rest, faultAt, named⟩
  · exact absurd (.object members) unlike
  · cases same
    have iff := located_iff plain faultAt named
    exact ⟨_, faultAt, named, iff, fun unused => iff.mpr (.inl (shown_eq_of_not_mem faultAt unused))⟩

def secondIdText : List (String × Json) :=
  [("contracts", .list [.object [("id", .ofNat 1), ("path", .string "A.sol")],
    .object [("id", .string "two"), ("path", .string "B.sol")]])]

theorem report_located_of_second_id :
    (∀ name ∈ BlockConfig.schema.names, IsPlain name) ∧
      BlockConfig.schema.validate (.object secondIdText) =
        .error (.typeMismatch "contracts[1].id" "integer" "string") ∧
      BlockConfig.schema.Located (.object secondIdText) (.typeMismatch "contracts[1].id" "integer" "string") := by
  have plain : ∀ name ∈ BlockConfig.schema.names, IsPlain name := by decide
  have rejected : BlockConfig.schema.validate (.object secondIdText) =
      .error (.typeMismatch "contracts[1].id" "integer" "string") := rfl
  obtain ⟨path, -, -, -, located⟩ := report_located_iff plain rejected
  exact ⟨plain, rejected, located (by decide)⟩

def nestedRoot : Schema :=
  .mk [field "outer" (.object (.mk [field ValidationError.root .string] [] false))] [] false

/-- The value at the reported place is no integer, but the object that has the integer as its member. -/
theorem report_of_nested_root :
    (∀ name ∈ nestedRoot.names, IsPlain name) ∧
      nestedRoot.validate (.object [("outer", .object [(ValidationError.root, .ofNat 5)])]) =
        .error (.typeMismatch "outer" "string" "integer") ∧
      ¬nestedRoot.Located (.object [("outer", .object [(ValidationError.root, .ofNat 5)])])
        (.typeMismatch "outer" "string" "integer") := by
  have outerListed : field "outer" (.object (.mk [field ValidationError.root .string] [] false)) ∈ nestedRoot.fields :=
    List.mem_cons_self ..
  have rootListed : field ValidationError.root .string ∈
      fields (.mk [field ValidationError.root .string] [] false) :=
    List.mem_cons_self ..
  have faultAt : (FieldType.object nestedRoot).FaultAt
      (.object [("outer", .object [(ValidationError.root, .ofNat 5)])]) [.member "outer", rootMember]
      (.typeMismatch "outer" "string" "integer") :=
    .member outerListed rfl (.member rootListed rfl (.here (.kind fun kind => by cases kind)))
  refine ⟨by decide, rfl, fun located => ?_⟩
  rcases (located_iff (by decide) faultAt rfl).mp located with whole | ⟨_, _, isObject⟩
  · exact absurd whole (by decide)
  · exact absurd (ValidationError.typeMismatch.inj isObject).2.2 (by decide)

/-- A report of a type mismatch tells the type of the value from the one that was expected, except for integers that
do not fit in 64 bits with a sign: they are refused as integers and called integers too. -/
theorem reported_types_eq_iff {expected actual name : String}
    (rejected : schema.validate document = .error (.typeMismatch name expected actual)) :
    ∃ path type value, (FieldType.object schema).Declares path type ∧ Json.follow path document = some value ∧
      expected = type.name ∧ actual = value.typeName ∧ ¬type.HasKind value ∧
      (expected = actual ↔ (∃ least greatest, type = .integer least greatest) ∧
        ∃ number : Int, value = .number (.integer number) ∧ ¬(-2 ^ 63 ≤ number ∧ number < 2 ^ 63)) := by
  obtain ⟨path, type, value, declared, there, rfl, rfl, unlike⟩ : ∃ path type value,
      (FieldType.object schema).Declares path type ∧ Json.follow path document = some value ∧
        expected = type.name ∧ actual = value.typeName ∧ ¬type.HasKind value := by
    rcases validate_fault document schema rejected with ⟨unlike, same⟩ | ⟨members, rfl, name, rest, faultAt, -⟩
    · cases same
      exact ⟨[], .object schema, document, .here _, rfl, rfl, rfl, unlike⟩
    · obtain ⟨type, value, found⟩ := faultAt.mismatch
      exact ⟨_, type, value, found⟩
  exact ⟨path, type, value, declared, there, rfl, rfl, unlike, FieldType.name_eq_typeName_iff unlike⟩

/-- The least integer that needs more than 64 bits with a sign, as the number of a contract. -/
def tooGreatId : Json :=
  .object [("contracts", .list [.object [("id", .ofNat 9223372036854775808), ("path", .string "A.sol")]]),
    ("transactions", .list [])]

theorem reported_types_eq_of_great_id :
    BlockConfig.schema.validate tooGreatId =
      .error (.typeMismatch "contracts[0].id" "integer" "integer") := by
  rfl

theorem refused_integer_of_great_id :
    BlockConfig.schema.validate tooGreatId = .error (.typeMismatch "contracts[0].id" "integer" "integer") ∧
      ∃ path number, Json.follow path tooGreatId = some (.number (.integer number)) ∧
        ¬(-2 ^ 63 ≤ number ∧ number < 2 ^ 63) := by
  have rejected : BlockConfig.schema.validate tooGreatId =
      .error (.typeMismatch "contracts[0].id" "integer" "integer") := rfl
  obtain ⟨path, type, value, -, there, -, -, -, same⟩ := reported_types_eq_iff rejected
  obtain ⟨-, number, rfl, outside⟩ := same.mp rfl
  exact ⟨rejected, path, number, there, outside⟩

end Schema

end LedgerCapture
