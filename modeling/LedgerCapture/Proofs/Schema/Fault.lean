import LedgerCapture.Proofs.Schema
import LedgerCapture.Proofs.Schema.Place

/-!
Where the check of a document finds its fault. Every report goes back to a place that the document has and the schema
speaks of, and to what is wrong there; the text of the place is the one in the report, unless a value of the wrong
type is a member with the name of the document.
-/
namespace LedgerCapture

open Json (Step)

/-! ### What can be wrong -/

namespace Schema

def Field.type : Field → FieldType
  | .mk _ type _ => type

def Field.check : Field → Option Check
  | .mk _ _ check => check

def fields (schema : Schema) : List Field :=
  schema.required ++ schema.optional

end Schema

namespace FieldType

def name : FieldType → String
  | string => "string"
  | integer _ _ => "integer"
  | boolean => "boolean"
  | list _ => "array"
  | object _ => "object"

/-- The steps lead from a value of the first type to one of the second. -/
inductive Declares : FieldType → List Step → FieldType → Prop where
  | here (type : FieldType) : Declares type [] type
  | item {item type : FieldType} {path : List Step} (index : Nat) (declared : Declares item path type) :
      Declares (.list item) (.item index :: path) type
  | member {schema : Schema} {field : Schema.Field} {type : FieldType} {path : List Step}
      (listed : field ∈ schema.fields) (declared : Declares field.type path type) :
      Declares (.object schema) (.member field.name :: path) type

/-- The value is one that the type is about, whatever bounds and parts the type asks for. -/
inductive HasKind : FieldType → Json → Prop where
  | string (text : String) : HasKind .string (.string text)
  | integer {least greatest : Option Int} {value : Int} (representable : -2 ^ 63 ≤ value ∧ value < 2 ^ 63) :
      HasKind (.integer least greatest) (.number (.integer value))
  | boolean (value : Bool) : HasKind .boolean (.boolean value)
  | list {item : FieldType} (values : List Json) : HasKind (.list item) (.list values)
  | object {schema : Schema} (members : List (String × Json)) : HasKind (.object schema) (.object members)

/-- What is wrong with a value that should have the type, or with one of its members, and how it is reported,
under any name of the place. -/
inductive Refuses : FieldType → Json → List Step → ValidationError → Prop where
  | kind {type : FieldType} {value : Json} {field : String} (unlike : ¬type.HasKind value) :
      Refuses type value [] (.typeMismatch field type.name value.typeName)
  | less {least greatest : Option Int} {value bound : Int} {field : String} (bounded : bound ∈ least)
      (low : value < bound) :
      Refuses (.integer least greatest) (.number (.integer value)) [] (Schema.belowLeast field value bound)
  | greater {least greatest : Option Int} {value bound : Int} {field : String} (bounded : bound ∈ greatest)
      (high : bound < value) :
      Refuses (.integer least greatest) (.number (.integer value)) [] (Schema.aboveGreatest field value bound)
  | rule {schema : Schema} {members : List (String × Json)} {field : Schema.Field} {rule : Check} {value : Json}
      {place message : String} (listed : field ∈ schema.fields) (ruled : rule ∈ field.check)
      (found : Json.lookup field.name members = some value) (refused : rule value = .error message) :
      Refuses (.object schema) (.object members) [.member field.name] (.invalidValue place message)
  | missing {schema : Schema} {members : List (String × Json)} {field : Schema.Field} {place : String}
      (listed : field ∈ schema.required) (absent : Json.lookup field.name members = none) :
      Refuses (.object schema) (.object members) [.member field.name] (.missingField place)
  | unknown {schema : Schema} {members : List (String × Json)} {name place : String} {value : Json}
      (strict : schema.isStrict = true) (found : Json.lookup name members = some value)
      (undeclared : ∀ field ∈ schema.fields, field.name ≠ name) :
      Refuses (.object schema) (.object members) [.member name] (.unknownField place)

/-- The fault is at a place below a document that should have the type: the steps to it, the last of which may go
to a member of what is refused. -/
def FaultAt (type : FieldType) (document : Json) (path : List Step) (fault : ValidationError) : Prop :=
  ∃ outer last inner value, path = outer ++ last ∧ type.Declares outer inner ∧
    Json.follow outer document = some value ∧ inner.Refuses value last fault

theorem Fits.hasKind {type : FieldType} {value : Json} (fits : type.Fits value) : type.HasKind value := by
  cases fits with
  | string text => exact .string text
  | integer representable notLess notGreater => exact .integer representable
  | boolean value => exact .boolean value
  | list every => exact .list _
  | object conforms =>
    cases conforms
    exact .object _

end FieldType

/-! ### Reports -/

namespace ValidationError

def field : ValidationError → String
  | missingField field => field
  | unknownField field => field
  | invalidValue field _ => field
  | typeMismatch field _ _ => field

/-- The steps below a member that a report tells of. A type mismatch at a member with the name of the document counts
as one of the object that has the member. -/
def cut : ValidationError → List Step → List Step
  | typeMismatch _ _ _, path => Schema.withoutRoots path
  | _, path => path

def shown (fault : ValidationError) : List Step → List Step
  | [] => []
  | first :: rest => first :: fault.cut rest

theorem cut_item (fault : ValidationError) (index : Nat) (path : List Step) :
    fault.cut (.item index :: path) = .item index :: fault.cut path := by
  cases fault with
  | typeMismatch field expected actual =>
    exact Schema.withoutRoots_cons.trans (if_neg fun ⟨same, _⟩ => nomatch same)
  | _ => rfl

/-- How the report of an object's member becomes one of the object around it. -/
theorem field_below {fault : ValidationError} {name : String} {path : List Step} (outer : String)
    (named : fault.field = Schema.textFrom name (fault.cut path)) :
    (fault.below outer).field = Schema.textFrom outer ((fault.below outer).cut (.member name :: path)) := by
  cases fault with
  | typeMismatch field expected actual =>
    have text : field = Schema.textFrom name (Schema.withoutRoots path) := named
    show (if field = root then outer else outer ++ "." ++ field) =
      Schema.textFrom outer (Schema.withoutRoots (.member name :: path))
    rw [Schema.withoutRoots_cons, text]
    by_cases same : name = root ∧ Schema.withoutRoots path = []
    · rw [if_pos (Schema.textFrom_eq_root_iff.mpr same), if_pos ⟨congrArg _ same.1, same.2⟩]
      rfl
    · rw [if_neg fun root => same (Schema.textFrom_eq_root_iff.mp root),
        if_neg fun root => same ⟨Step.member.inj root.1, root.2⟩, Schema.member_textFrom]
  | _ =>
    have text : _ = Schema.textFrom name path := named
    exact (congrArg (outer ++ "." ++ ·) text).trans (Schema.member_textFrom outer name path)

end ValidationError

namespace FieldType

variable {type inner : FieldType} {document value : Json} {path last : List Step} {fault : ValidationError}

theorem Refuses.below (refuses : type.Refuses value last fault) (outer : String) :
    type.Refuses value last (fault.below outer) := by
  cases refuses with
  | kind unlike => exact .kind unlike
  | less bounded low => exact .less bounded low
  | greater bounded high => exact .greater bounded high
  | rule listed ruled found refused => exact .rule listed ruled found refused
  | missing listed absent => exact .missing listed absent
  | unknown strict found undeclared => exact .unknown strict found undeclared

namespace FaultAt

theorem here (refuses : type.Refuses document last fault) : type.FaultAt document last fault :=
  ⟨[], last, type, document, rfl, .here type, rfl, refuses⟩

theorem below (faultAt : type.FaultAt document path fault) (outer : String) :
    type.FaultAt document path (fault.below outer) := by
  obtain ⟨before, last, inner, value, same, declared, there, refuses⟩ := faultAt
  exact ⟨before, last, inner, value, same, declared, there, refuses.below outer⟩

theorem item {items : List Json} {index : Nat} (found : items[index]? = some document)
    (faultAt : type.FaultAt document path fault) :
    (FieldType.list type).FaultAt (.list items) (.item index :: path) fault := by
  obtain ⟨before, last, inner, value, rfl, declared, there, refuses⟩ := faultAt
  refine ⟨.item index :: before, last, inner, value, rfl, .item index declared, ?_, refuses⟩
  rw [Json.follow, Step.go, Json.items?, Option.bind_some, found]
  exact there

theorem member {schema : Schema} {members : List (String × Json)} {field : Schema.Field}
    (listed : field ∈ schema.fields) (found : Json.lookup field.name members = some document)
    (faultAt : field.type.FaultAt document path fault) :
    (FieldType.object schema).FaultAt (.object members) (.member field.name :: path) fault := by
  obtain ⟨before, last, inner, value, rfl, declared, there, refuses⟩ := faultAt
  refine ⟨.member field.name :: before, last, inner, value, rfl, .member listed declared, ?_, refuses⟩
  rw [Json.follow, Step.go, Json.member?, found]
  exact there

end FaultAt

end FieldType

/-! ### What the check finds -/

namespace Schema

variable {field : String} {members : List (String × Json)} {fault : ValidationError}

theorem checkBounds_eq_error {value : Int} {least greatest : Option Int}
    (failed : checkBounds field value least greatest = .error fault) :
    (∃ bound ∈ least, value < bound ∧ fault = belowLeast field value bound) ∨
      ∃ bound ∈ greatest, bound < value ∧ fault = aboveGreatest field value bound := by
  unfold checkBounds at failed
  cases least <;> cases greatest <;>
    simp [throw_bind, ite_throw_eq_error_iff, pure_ne_error, eq_comm (a := fault)] at failed ⊢
  case none.some | some.none => exact failed
  case some.some => exact failed.imp_right And.right

theorem checkItems_eq_error {check : String → Json → Except ValidationError Unit} {index : Nat} {items : List Json}
    (failed : checkItems check field index items = .error fault) :
    ∃ place item, items[place]? = some item ∧
      check (textFrom field [.item (index + place)]) item = .error fault := by
  induction items generalizing index with
  | nil => cases failed
  | cons item rest ih =>
    rcases bind_eq_error_iff.mp failed with first | ⟨_, -, later⟩
    · exact ⟨0, item, rfl, by simpa [textFrom, stepText, String.append_assoc] using first⟩
    · obtain ⟨place, other, found, refused⟩ := ih later
      refine ⟨place + 1, other, found, ?_⟩
      rwa [Nat.add_right_comm, Nat.add_assoc] at refused

theorem runCheck_eq_error {value : Json} {check : Option Check} (failed : runCheck field value check = .error fault) :
    ∃ rule ∈ check, ∃ message, rule value = .error message ∧ fault = .invalidValue field message := by
  cases check with
  | none => cases failed
  | some rule =>
    obtain ⟨message, refused, rfl⟩ := mapError_eq_error_iff.mp failed
    exact ⟨rule, rfl, message, refused, rfl⟩

def Traced (schema : Schema) (members : List (String × Json)) (fault : ValidationError) : Prop :=
  ∃ name rest, (FieldType.object schema).FaultAt (.object members) (.member name :: rest) fault ∧
    fault.field = textFrom name (fault.cut rest)

section

variable {schema : Schema} {declared : Field} {value : Json} (listed : declared ∈ schema.fields)
  (found : Json.lookup declared.name members = some value)

include listed found

theorem Traced.of_type {path : List Step} (faultAt : declared.type.FaultAt value path fault)
    (named : fault.field = textFrom declared.name (fault.cut path)) : schema.Traced members fault :=
  ⟨declared.name, path, faultAt.member listed found, named⟩

theorem Traced.of_rule (failed : runCheck declared.name value declared.check = .error fault) :
    schema.Traced members fault := by
  obtain ⟨rule, ruled, message, refused, rfl⟩ := runCheck_eq_error failed
  exact ⟨declared.name, [], .here (.rule listed ruled found refused), rfl⟩

end

theorem exists_lookup {member : String × Json} (listed : member ∈ members) :
    ∃ value, Json.lookup member.1 members = some value := by
  induction members with
  | nil => cases listed
  | cons first rest ih =>
    rw [Json.lookup]
    split
    · exact ⟨first.2, rfl⟩
    · next other =>
      rcases List.mem_cons.mp listed with rfl | later
      · exact absurd (beq_self_eq_true member.1) other
      · exact ih later

theorem Traced.of_undeclared {schema : Schema} {name : String} (strict : schema.isStrict = true)
    (found : undeclared? schema.fields members = some name) : schema.Traced members (.unknownField name) := by
  obtain ⟨member, foundMember, rfl⟩ := Option.map_eq_some_iff.mp found
  obtain ⟨value, there⟩ := exists_lookup (List.mem_of_find?_eq_some foundMember)
  have undeclared : ∀ field ∈ schema.fields, field.name ≠ member.1 := by
    simpa using List.find?_some foundMember
  exact ⟨member.1, [], .here (.unknown strict there undeclared), rfl⟩

mutual

theorem checkType_fault (field : String) (value : Json) (type : FieldType) {fault : ValidationError}
    (failed : checkType field value type = .error fault) :
    ∃ path, type.FaultAt value path fault ∧ fault.field = textFrom field (fault.cut path) := by
  match type with
  | .string =>
    unfold checkType at failed
    split at failed
    · cases failed
    · next other =>
      cases failed
      refine ⟨[], .here (.kind ?_), rfl⟩
      rintro ⟨text⟩
      exact other text rfl
  | .integer least greatest =>
    unfold checkType at failed
    split at failed
    · next found same =>
      obtain ⟨rfl, -⟩ := integer?_eq_some_iff.mp same
      rcases checkBounds_eq_error failed with ⟨bound, bounded, low, rfl⟩ | ⟨bound, bounded, high, rfl⟩
      · exact ⟨[], .here (.less bounded low), rfl⟩
      · exact ⟨[], .here (.greater bounded high), rfl⟩
    · next none =>
      cases failed
      refine ⟨[], .here (.kind ?_), rfl⟩
      intro kind
      cases kind with
      | integer representable => exact nomatch none.symm.trans (integer?_eq_some_iff.mpr ⟨rfl, representable⟩)
  | .boolean =>
    unfold checkType at failed
    split at failed
    · cases failed
    · next other =>
      cases failed
      refine ⟨[], .here (.kind ?_), rfl⟩
      rintro ⟨⟩
      exact other _ rfl
  | .list item =>
    unfold checkType at failed
    split at failed
    · next items =>
      obtain ⟨place, value, found, refused⟩ := checkItems_eq_error failed
      obtain ⟨path, faultAt, named⟩ := checkType_fault _ value item refused
      rw [Nat.zero_add] at named
      exact ⟨.item place :: path, faultAt.item found, by rw [fault.cut_item]; exact named⟩
    · next other =>
      cases failed
      refine ⟨[], .here (.kind ?_), rfl⟩
      rintro ⟨⟩
      exact other _ rfl
  | .object schema =>
    rw [checkType] at failed
    obtain ⟨cause, refused, rfl⟩ := mapError_eq_error_iff.mp failed
    rcases validate_fault value schema refused with ⟨unlike, rfl⟩ | ⟨members, rfl, name, rest, faultAt, named⟩
    · exact ⟨[], .here (.kind unlike), rfl⟩
    · exact ⟨.member name :: rest, faultAt.below field, ValidationError.field_below field named⟩

theorem checkRequired_fault {schema : Schema} (members : List (String × Json)) (fields : List Field)
    (among : fields ⊆ schema.required) {fault : ValidationError}
    (failed : checkRequired members fields = .error fault) : schema.Traced members fault := by
  match fields with
  | [] => cases failed
  | .mk name type check :: rest =>
    obtain ⟨here, later⟩ := List.cons_subset.mp among
    rw [checkRequired] at failed
    cases found : Json.lookup name members with
    | none =>
      simp only [found, throw_bind] at failed
      cases failed
      exact ⟨name, [], .here (.missing here found), rfl⟩
    | some value =>
      simp only [found] at failed
      have listed : Field.mk name type check ∈ schema.fields := List.mem_append_left _ here
      rcases bind_eq_error_iff.mp failed with refused | ⟨_, -, failed⟩
      · obtain ⟨path, faultAt, named⟩ := checkType_fault name value type refused
        exact .of_type listed found faultAt named
      rcases bind_eq_error_iff.mp failed with refused | ⟨_, -, failed⟩
      · exact .of_rule listed found refused
      · exact checkRequired_fault members rest later failed

theorem checkOptional_fault {schema : Schema} (members : List (String × Json)) (fields : List Field)
    (among : fields ⊆ schema.optional) {fault : ValidationError}
    (failed : checkOptional members fields = .error fault) : schema.Traced members fault := by
  match fields with
  | [] => cases failed
  | .mk name type check :: rest =>
    obtain ⟨here, later⟩ := List.cons_subset.mp among
    rw [checkOptional] at failed
    cases found : Json.lookup name members with
    | none =>
      simp only [found] at failed
      exact checkOptional_fault members rest later failed
    | some value =>
      simp only [found] at failed
      have listed : Field.mk name type check ∈ schema.fields := List.mem_append_right _ here
      rcases bind_eq_error_iff.mp failed with refused | ⟨_, -, failed⟩
      · obtain ⟨path, faultAt, named⟩ := checkType_fault name value type refused
        exact .of_type listed found faultAt named
      rcases bind_eq_error_iff.mp failed with refused | ⟨_, -, failed⟩
      · exact .of_rule listed found refused
      · exact checkOptional_fault members rest later failed

theorem validate_fault (document : Json) (schema : Schema) {fault : ValidationError}
    (failed : validate document schema = .error fault) :
    (¬(FieldType.object schema).HasKind document ∧
      fault = .typeMismatch ValidationError.root "object" document.typeName) ∨
    ∃ members, document = .object members ∧ schema.Traced members fault := by
  match schema with
  | .mk required optional strict =>
    unfold validate at failed
    split at failed
    · next members =>
      refine .inr ⟨members, rfl, ?_⟩
      rcases bind_eq_error_iff.mp failed with refused | ⟨_, -, failed⟩
      · exact checkRequired_fault members required (List.Subset.refl _) refused
      rcases bind_eq_error_iff.mp failed with refused | ⟨_, -, failed⟩
      · exact checkOptional_fault members optional (List.Subset.refl _) refused
      split at failed
      · next isStrict =>
        split at failed
        · next name found =>
          cases failed
          exact .of_undeclared isStrict found
        · cases failed
      · cases failed
    · next other =>
      cases failed
      refine .inl ⟨?_, rfl⟩
      rintro ⟨⟩
      exact other _ rfl

end

end Schema

end LedgerCapture
