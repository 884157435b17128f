import LedgerCapture.Width
import LedgerCapture.Json.Basic

/-!
Schemas: what a document must look like before it is used. `Schema.validate` reports the first fault
with the path of the field it concerns, such as `contracts[1].id`.
-/
namespace LedgerCapture

inductive ValidationError where
  | missingField (field : String)
  | unknownField (field : String)
  | invalidValue (field message : String)
  | typeMismatch (field expected actual : String)
  deriving DecidableEq, Repr

namespace ValidationError

def message : ValidationError → String
  | missingField field => "Missing required field: " ++ field
  | unknownField field => "Unexpected field: " ++ field
  | invalidValue field reason => "Invalid value for field '" ++ field ++ "': " ++ reason
  | typeMismatch field expected actual =>
    "Type mismatch for field '" ++ field ++ "': expected " ++ expected ++ ", got " ++ actual

/-- What the document itself is called where the name of a field should stand. -/
def root : String := "root"

/-- The fault of an object that is the value of `outer`. -/
def below (outer : String) : ValidationError → ValidationError
  | missingField field => .missingField (outer ++ "." ++ field)
  | unknownField field => .unknownField (outer ++ "." ++ field)
  | invalidValue field reason => .invalidValue (outer ++ "." ++ field) reason
  | typeMismatch field expected actual =>
    .typeMismatch (if field = root then outer else outer ++ "." ++ field) expected actual

end ValidationError

/-- A rule of its own for a value that has the right type: why the value is refused, or nothing. -/
abbrev Check := Json → Except String Unit

mutual

inductive FieldType where
  | string
  | integer (least greatest : Option Int)
  | boolean
  | list (item : FieldType)
  | object (schema : Schema)

inductive Schema.Field where
  | mk (name : String) (type : FieldType) (check : Option Check)

/-- A schema of objects. A strict one allows no other fields. -/
inductive Schema where
  | mk (required optional : List Schema.Field) (strict : Bool)

end

namespace Schema

def Field.name : Field → String
  | mk name _ _ => name

def required : Schema → List Field
  | mk required _ _ => required

def optional : Schema → List Field
  | mk _ optional _ => optional

def isStrict : Schema → Bool
  | mk _ _ strict => strict

def field (name : String) (type : FieldType) : Field :=
  .mk name type none

def checkedField (name : String) (type : FieldType) (check : Check) : Field :=
  .mk name type (some check)

/-- The greatest and least integers that an integer field can hold. -/
def integerRange : Int × Int := (Width.leastSigned 64, Width.greatestSigned 64)

/-- The integer that the document is, if 64 bits with a sign hold it. -/
def integer? : Json → Option Int
  | .number (.integer value) =>
    if integerRange.1 ≤ value ∧ value ≤ integerRange.2 then some value else none
  | _ => none

def belowLeast (field : String) (value least : Int) : ValidationError :=
  .invalidValue field ("Value " ++ toString value ++ " is less than minimum " ++ toString least)

def aboveGreatest (field : String) (value greatest : Int) : ValidationError :=
  .invalidValue field ("Value " ++ toString value ++ " is greater than maximum " ++ toString greatest)

def checkBounds (field : String) (value : Int) (least greatest : Option Int) :
    Except ValidationError Unit := do
  if let some least := least then
    if value < least then throw (belowLeast field value least)
  if let some greatest := greatest then
    if greatest < value then throw (aboveGreatest field value greatest)

def runCheck (field : String) (value : Json) (check : Option Check) : Except ValidationError Unit :=
  match check with
  | none => .ok ()
  | some check => (check value).mapError (.invalidValue field)

def undeclared? (fields : List Field) (members : List (String × Json)) : Option String :=
  (members.find? fun member => !(fields.any (·.name == member.1))).map Prod.fst

/-- Checks the items of an array, counted from `index`, with `check`. -/
def checkItems (check : String → Json → Except ValidationError Unit) (field : String) :
    Nat → List Json → Except ValidationError Unit
  | _, [] => .ok ()
  | index, item :: rest => do
    check (field ++ "[" ++ toString index ++ "]") item
    checkItems check field (index + 1) rest

mutual

/-- Checks a value against a type; `field` is the path of the value. -/
def checkType (field : String) (value : Json) : FieldType → Except ValidationError Unit
  | .string =>
    match value with
    | .string _ => .ok ()
    | other => .error (.typeMismatch field "string" other.typeName)
  | .integer least greatest =>
    match integer? value with
    | some found => checkBounds field found least greatest
    | none => .error (.typeMismatch field "integer" value.typeName)
  | .boolean =>
    match value with
    | .boolean _ => .ok ()
    | other => .error (.typeMismatch field "boolean" other.typeName)
  | .list item =>
    match value with
    | .list items => checkItems (fun field value => checkType field value item) field 0 items
    | other => .error (.typeMismatch field "array" other.typeName)
  | .object schema => (validate value schema).mapError (.below field)

def checkRequired (members : List (String × Json)) : List Field → Except ValidationError Unit
  | [] => .ok ()
  | .mk name type check :: rest => do
    match Json.lookup name members with
    | none => throw (.missingField name)
    | some value =>
      checkType name value type
      runCheck name value check
    checkRequired members rest

def checkOptional (members : List (String × Json)) : List Field → Except ValidationError Unit
  | [] => .ok ()
  | .mk name type check :: rest => do
    match Json.lookup name members with
    | none => pure ()
    | some value =>
      checkType name value type
      runCheck name value check
    checkOptional members rest

/-- Checks a document: the required fields, the optional ones, and if the schema is strict that there
are no others. -/
def validate (document : Json) : Schema → Except ValidationError Unit
  | .mk required optional strict =>
    match document with
    | .object members => do
      checkRequired members required
      checkOptional members optional
      if strict then
        match undeclared? (required ++ optional) members with
        | some name => throw (.unknownField name)
        | none => pure ()
    | other => .error (.typeMismatch ValidationError.root "object" other.typeName)

end

end Schema

end LedgerCapture
