import LedgerCapture.Schema
import LedgerCapture.Proofs.Result
import Mathlib.Algebra.Ring.Int.Defs

/-!
What a schema demands of a document, said without the order in which it is checked and without paths and
reports. Validation accepts the documents that meet the demands, and no others.
-/
namespace LedgerCapture

mutual

inductive FieldType.Fits : FieldType → Json → Prop where
  | string (text : String) : FieldType.Fits .string (.string text)
  | integer {least greatest : Option Int} {value : Int} (representable : -2 ^ 63 ≤ value ∧ value < 2 ^ 63)
      (notLess : ∀ bound ∈ least, bound ≤ value) (notGreater : ∀ bound ∈ greatest, value ≤ bound) :
      FieldType.Fits (.integer least greatest) (.number (.integer value))
  | boolean (value : Bool) : FieldType.Fits .boolean (.boolean value)
  | list {item : FieldType} {values : List Json} (every : ∀ value ∈ values, FieldType.Fits item value) :
      FieldType.Fits (.list item) (.list values)
  | object {schema : Schema} {document : Json} (conforms : Schema.Conforms schema document) :
      FieldType.Fits (.object schema) document

/-- The value has the type of the field and passes the field's own rule. -/
inductive Schema.Field.Admits : Schema.Field → Json → Prop where
  | mk {name : String} {type : FieldType} {check : Option Check} {value : Json} (fits : FieldType.Fits type value)
      (passes : ∀ rule ∈ check, rule value = .ok ()) : Schema.Field.Admits (.mk name type check) value

/-- The document meets the schema: nothing that is required is missing, each field that is there is right, and
under a strict schema there is nothing else. -/
inductive Schema.Conforms : Schema → Json → Prop where
  | mk {required optional : List Schema.Field} {strict : Bool} {members : List (String × Json)}
      (present : ∀ field ∈ required, ∃ value, Json.lookup field.name members = some value)
      (requiredAdmitted : ∀ field ∈ required, ∀ value, Json.lookup field.name members = some value →
        Schema.Field.Admits field value)
      (optionalAdmitted : ∀ field ∈ optional, ∀ value, Json.lookup field.name members = some value →
        Schema.Field.Admits field value)
      (declared : strict = true → ∀ member ∈ members, ∃ field ∈ required ++ optional, field.name = member.1) :
      Schema.Conforms (.mk required optional strict) (.object members)

end

namespace Schema

section

variable {name : String} {type : FieldType} {check : Check} {required optional : List Field} {strict : Bool}

@[simp] theorem field_name : (field name type).name = name := rfl

@[simp] theorem checkedField_name : (checkedField name type check).name = name := rfl

@[simp] theorem required_mk : (mk required optional strict).required = required := rfl

@[simp] theorem optional_mk : (mk required optional strict).optional = optional := rfl

end

theorem Field.admits_iff {name : String} {type : FieldType} {check : Option Check} {value : Json} :
    (Field.mk name type check).Admits value ↔ type.Fits value ∧ ∀ rule ∈ check, rule value = .ok () :=
  ⟨fun ⟨fits, passes⟩ => ⟨fits, passes⟩, fun ⟨fits, passes⟩ => .mk fits passes⟩

theorem conforms_iff {schema : Schema} {document : Json} :
    schema.Conforms document ↔ ∃ members, document = .object members ∧
      (∀ field ∈ schema.required, ∃ value, Json.lookup field.name members = some value ∧ field.Admits value) ∧
      (∀ field ∈ schema.optional, ∀ value, Json.lookup field.name members = some value → field.Admits value) ∧
      (schema.isStrict = true →
        ∀ member ∈ members, ∃ field ∈ schema.required ++ schema.optional, field.name = member.1) := by
  constructor
  · rintro ⟨present, requiredAdmitted, optionalAdmitted, declared⟩
    refine ⟨_, rfl, fun field member => ?_, optionalAdmitted, declared⟩
    obtain ⟨value, found⟩ := present field member
    exact ⟨value, found, requiredAdmitted field member value found⟩
  · rintro ⟨members, rfl, complete, optionalAdmitted, declared⟩
    cases schema with
    | mk required optional strict =>
      refine .mk (fun field member => (complete field member).imp fun _ => And.left) ?_ optionalAdmitted declared
      intro field member value found
      obtain ⟨other, foundToo, admits⟩ := complete field member
      obtain rfl := Option.some.inj (found.symm.trans foundToo)
      exact admits

theorem field_admitted_iff {name : String} {type : FieldType} {document : Json} :
    (field name type).Admits document ↔ type.Fits document := by
  rw [field, Field.admits_iff]
  simp

theorem checkedField_admitted_iff {name : String} {type : FieldType} {check : Check} {document : Json} :
    (checkedField name type check).Admits document ↔ type.Fits document ∧ check document = .ok () := by
  rw [checkedField, Field.admits_iff]
  simp

theorem list_fits_iff {item : FieldType} {document : Json} :
    (FieldType.list item).Fits document ↔ ∃ values, document = .list values ∧ ∀ value ∈ values, item.Fits value := by
  constructor
  · rintro (_ | _ | _ | every)
    exact ⟨_, rfl, every⟩
  · rintro ⟨values, rfl, every⟩
    exact .list every

theorem object_fits_iff {schema : Schema} {document : Json} :
    (FieldType.object schema).Fits document ↔ schema.Conforms document := by
  constructor
  · rintro (_ | _ | _ | _ | conforms)
    exact conforms
  · exact .object

/-! ### The parts of the check -/

theorem integer?_eq_some_iff {document : Json} {value : Int} :
    integer? document = some value ↔
      document = .number (.integer value) ∧ -2 ^ 63 ≤ value ∧ value < 2 ^ 63 := by
  have least : integerRange.1 = -2 ^ 63 := rfl
  have greatest : integerRange.2 = 2 ^ 63 - 1 := rfl
  unfold integer?
  split
  · next number =>
    rw [least, greatest, Option.ite_none_right_eq_some, Option.some.injEq, Json.number.injEq,
      Json.Number.integer.injEq]
    omega
  · next other =>
    refine ⟨nofun, ?_⟩
    rintro ⟨rfl, -⟩
    exact absurd rfl (other value)

theorem checkBounds_eq_ok_iff {field : String} {value : Int} {least greatest : Option Int} :
    checkBounds field value least greatest = .ok () ↔
      (∀ bound ∈ least, bound ≤ value) ∧ ∀ bound ∈ greatest, value ≤ bound := by
  unfold checkBounds
  cases least <;> cases greatest <;> simp [throw_bind, ite_throw_eq_ok_iff, pure_eq_ok_iff]

theorem runCheck_eq_ok_iff {field : String} {value : Json} {check : Option Check} :
    runCheck field value check = .ok () ↔ ∀ rule ∈ check, rule value = .ok () := by
  cases check with
  | none => simp [runCheck]
  | some rule => simp [runCheck, mapError_eq_ok_iff]

theorem undeclared?_eq_none_iff {fields : List Field} {members : List (String × Json)} :
    undeclared? fields members = none ↔ ∀ member ∈ members, ∃ field ∈ fields, field.name = member.1 := by
  simp [undeclared?]

/-- Where the path plays no part for one item, all items can be judged without theirs. -/
theorem checkItems_eq_ok_iff {check : String → Json → Except ValidationError Unit} {accepts : Json → Prop}
    (judged : ∀ path value, check path value = .ok () ↔ accepts value) {field : String} {index : Nat}
    {values : List Json} :
    checkItems check field index values = .ok () ↔ ∀ value ∈ values, accepts value := by
  induction values generalizing index with
  | nil => simp [checkItems]
  | cons value rest ih => simp [checkItems, bind_eq_ok_iff, judged, ih]

/-! ### The check as a whole -/

theorem checkField_eq_ok_iff {name : String} {type : FieldType} {value : Json} (check : Option Check)
    (judged : checkType name value type = .ok () ↔ type.Fits value) :
    checkType name value type = .ok () ∧ runCheck name value check = .ok () ↔
      (Field.mk name type check).Admits value := by
  rw [judged, runCheck_eq_ok_iff, Field.admits_iff]

mutual

theorem checkType_eq_ok_iff (field : String) (value : Json) (type : FieldType) :
    checkType field value type = .ok () ↔ type.Fits value := by
  match type with
  | .string =>
    constructor
    · intro accepted
      unfold checkType at accepted
      split at accepted
      · exact .string _
      · cases accepted
    · rintro ⟨text⟩
      rw [checkType]
  | .integer least greatest =>
    constructor
    · intro accepted
      unfold checkType at accepted
      split at accepted
      · next found same =>
        obtain ⟨rfl, representable⟩ := integer?_eq_some_iff.mp same
        obtain ⟨notLess, notGreater⟩ := checkBounds_eq_ok_iff.mp accepted
        exact .integer representable notLess notGreater
      · cases accepted
    · intro fits
      cases fits with
      | integer representable notLess notGreater =>
        rw [checkType, integer?_eq_some_iff.mpr ⟨rfl, representable⟩]
        exact checkBounds_eq_ok_iff.mpr ⟨notLess, notGreater⟩
  | .boolean =>
    constructor
    · intro accepted
      unfold checkType at accepted
      split at accepted
      · exact .boolean _
      · cases accepted
    · rintro ⟨⟩
      rw [checkType]
  | .list item =>
    have judged := fun path value => checkType_eq_ok_iff path value item
    constructor
    · intro accepted
      unfold checkType at accepted
      split at accepted
      · exact .list ((checkItems_eq_ok_iff judged).mp accepted)
      · cases accepted
    · intro fits
      cases fits with
      | list every =>
        rw [checkType]
        exact (checkItems_eq_ok_iff judged).mpr every
  | .object schema =>
    rw [checkType, mapError_eq_ok_iff, validate_eq_ok_iff value schema]
    constructor
    · exact .object
    · intro fits
      cases fits with
      | object conforms => exact conforms

theorem checkRequired_eq_ok_iff (members : List (String × Json)) (fields : List Field) :
    checkRequired members fields = .ok () ↔
      ∀ field ∈ fields, ∃ value, Json.lookup field.name members = some value ∧ field.Admits value := by
  match fields with
  | [] => simp [checkRequired]
  | .mk name type check :: rest =>
    have judged := fun value => checkField_eq_ok_iff check (checkType_eq_ok_iff name value type)
    have later := checkRequired_eq_ok_iff members rest
    rw [checkRequired, List.forall_mem_cons, ← later]
    cases found : Json.lookup name members with
    | none => simp [Field.name, found, throw_bind]
    | some value => simp [Field.name, found, unit_bind_eq_ok_iff, ← judged, and_assoc]

theorem checkOptional_eq_ok_iff (members : List (String × Json)) (fields : List Field) :
    checkOptional members fields = .ok () ↔
      ∀ field ∈ fields, ∀ value, Json.lookup field.name members = some value → field.Admits value := by
  match fields with
  | [] => simp [checkOptional]
  | .mk name type check :: rest =>
    have judged := fun value => checkField_eq_ok_iff check (checkType_eq_ok_iff name value type)
    have later := checkOptional_eq_ok_iff members rest
    rw [checkOptional, List.forall_mem_cons, ← later]
    cases found : Json.lookup name members with
    | none => simp [Field.name, found]
    | some value => simp [Field.name, found, unit_bind_eq_ok_iff, ← judged, and_assoc]

theorem validate_eq_ok_iff (document : Json) (schema : Schema) :
    validate document schema = .ok () ↔ schema.Conforms document := by
  match schema with
  | .mk required optional strict =>
    have complete := fun members => checkRequired_eq_ok_iff members required
    have right := fun members => checkOptional_eq_ok_iff members optional
    rw [conforms_iff]
    cases document with
    | object members =>
      rw [validate, unit_bind_eq_ok_iff, unit_bind_eq_ok_iff, complete, right]
      simp only [Json.object.injEq, exists_eq_left', Schema.required, Schema.optional, isStrict,
        ← undeclared?_eq_none_iff]
      cases strict <;> cases undeclared? (required ++ optional) members <;> simp [pure_eq_ok_iff]
    | _ =>
      rw [validate]
      · exact ⟨nofun, nofun⟩
      · exact nofun

end

/-- Validation says of every document whether it meets the schema. -/
theorem validate_accepts_iff (schema : Schema) (document : Json) :
    schema.validate document = .ok () ↔ ∃ members, document = .object members ∧
      (∀ field ∈ schema.required, ∃ value, Json.lookup field.name members = some value ∧ field.Admits value) ∧
      (∀ field ∈ schema.optional, ∀ value, Json.lookup field.name members = some value → field.Admits value) ∧
      (schema.isStrict = true →
        ∀ member ∈ members, ∃ field ∈ schema.required ++ schema.optional, field.name = member.1) := by
  rw [validate_eq_ok_iff, conforms_iff]

end Schema

end LedgerCapture
