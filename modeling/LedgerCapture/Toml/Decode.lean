import LedgerCapture.Width
import LedgerCapture.Toml.Document
import LedgerCapture.Decimal.Shortest
import LedgerCapture.Text.Quoted

/-!
Reading TOML values at a type. Tables are read in the order of their keys, so the fault that is
reported is the one under the least key.
-/
namespace LedgerCapture.Toml

inductive Found where
  | string (value : String)
  | integer (value : Int)
  | float (value : Float)
  | boolean (value : Bool)
  | sequence
  | map
  deriving DecidableEq

def Float.render : Float → String
  | .finite value => value.render .plain
  | .infinite negative => if negative then "-inf" else "inf"
  | .notANumber => "NaN"
  | .tooLarge => "inf"

/-- Integers beyond 64 bits are described with the width they need. -/
def Found.describe : Found → String
  | string value => "string " ++ Text.quote value
  | integer value =>
    "integer `" ++ toString value ++ "`" ++
      (if Width.leastSigned 64 ≤ value ∧ value ≤ Width.greatest 64 then ""
      else if value ≤ Width.greatestSigned 128 then " as i128" else " as u128")
  | float value => "floating point `" ++ value.render ++ "`"
  | boolean value => "boolean `" ++ (if value then "true" else "false") ++ "`"
  | sequence => "sequence"
  | map => "map"

inductive DecodeError where
  | wrongType (found : Found) (expected : String)
  | wrongValue (found : Found) (expected : String)
  | wrongLength (length : Nat) (expected : String)
  | missingField (name : String)
  | unknownVariant (name : String) (known : List String)
  | refused (reason : String)
  deriving DecidableEq

def DecodeError.message : DecodeError → String
  | wrongType found expected => "invalid type: " ++ found.describe ++ ", expected " ++ expected
  | wrongValue found expected => "invalid value: " ++ found.describe ++ ", expected " ++ expected
  | wrongLength length expected => "invalid length " ++ toString length ++ ", expected " ++ expected
  | missingField name => "missing field `" ++ name ++ "`"
  | unknownVariant name known =>
    "unknown variant `" ++ name ++ "`, expected " ++
      " or ".intercalate (known.map fun variant => "`" ++ variant ++ "`")
  | refused reason => reason

def integerOverflow : DecodeError := .refused "integer number overflowed"

def floatOverflow : DecodeError := .refused "floating-point number overflowed"

/-- What a reader with other expectations finds. A number too large for any type is a fault by itself. -/
def found : Toml → Except DecodeError Found
  | .string value => .ok (.string value)
  | .integer value =>
    if Width.leastSigned 128 ≤ value ∧ value ≤ Width.greatest 128 then .ok (.integer value)
    else .error integerOverflow
  | .float .tooLarge => .error floatOverflow
  | .float value => .ok (.float value)
  | .boolean value => .ok (.boolean value)
  | .datetime _ => .ok .map
  | .list _ => .ok .sequence
  | .table _ => .ok .map

def mismatch (value : Toml) (expected : String) : DecodeError :=
  match value.found with
  | .ok found => .wrongType found expected
  | .error fault => fault

/-- The entries of a table. A date or time passes for a table with one entry. -/
def entries? : Toml → Option (List (String × Toml))
  | .table entries => some entries
  | .datetime text => some [(datetimeKey, .string text)]
  | _ => none

def readStringAs (expected : String) (value : Toml) : Except DecodeError String :=
  match value with
  | .string text => .ok text
  | other => .error (other.mismatch expected)

def readString (value : Toml) : Except DecodeError String :=
  value.readStringAs "a string"

def readPath (value : Toml) : Except DecodeError String :=
  value.readStringAs "path string"

def readBoolean (value : Toml) : Except DecodeError Bool :=
  match value with
  | .boolean truth => .ok truth
  | other => .error (other.mismatch "a boolean")

def readNatural (greatest : Nat) (expected : String) (value : Toml) : Except DecodeError Nat :=
  match value with
  | .integer number =>
    if 0 ≤ number ∧ number ≤ greatest then .ok number.toNat
    else if Width.leastSigned 64 ≤ number ∧ number ≤ Width.greatest 64 then
      .error (.wrongValue (.integer number) expected)
    else .error (value.mismatch expected)
  | other => .error (other.mismatch expected)

def readUInt64 (value : Toml) : Except DecodeError UInt64 :=
  (value.readNatural (Width.greatest 64) "u64").map UInt64.ofNat

def readUInt32 (value : Toml) : Except DecodeError UInt32 :=
  (value.readNatural (Width.greatest 32) "u32").map UInt32.ofNat

def readStrings (value : Toml) : Except DecodeError (List String) :=
  match value with
  | .list items => items.mapM readString
  | other => .error (other.mismatch "a sequence")

def readInteger (number : Int) : Except DecodeError Toml :=
  if Width.leastSigned 64 ≤ number ∧ number ≤ Width.greatestSigned 64 then .ok (.integer number)
  else if 0 ≤ number ∧ number ≤ Width.greatest 64 then .error (.refused "u64 value was too large")
  else .error ((Toml.integer number).mismatch "any valid TOML value")

/-- The date or time that a table stands for whose first key says so. -/
def readDatetime (value : Toml) : Except DecodeError Toml :=
  match value with
  | .string text =>
    match datetimeOf? text.toList with
    | some text => .ok (.datetime text)
    | none => .error (.refused "failed to parse datetime")
  | other => .error (other.mismatch "string containing a datetime")

mutual

/-- Reads a value of any type: integers have 64 bits with a sign, floats are in range, and a table under
the key of dates and times is one of those. -/
def readAny : Toml → Except DecodeError Toml
  | .string value => .ok (.string value)
  | .integer value => readInteger value
  | .float .tooLarge => .error floatOverflow
  | .float (.finite value) => .ok (.float (.finite value))
  | .float (.infinite negative) => .ok (.float (.infinite negative))
  | .float .notANumber => .ok (.float .notANumber)
  | .boolean value => .ok (.boolean value)
  | .datetime text => .ok (.datetime text)
  | .list items => (readAnyItems items).map .list
  | .table entries =>
    match entries with
    | [] => .ok (.table [])
    | (key, value) :: rest =>
      if key = datetimeKey then readDatetime value
      else (readAnyEntries ((key, value) :: rest)).map .table

def readAnyItems : List Toml → Except DecodeError (List Toml)
  | [] => .ok []
  | item :: rest => do
    let item ← readAny item
    return item :: (← readAnyItems rest)

def readAnyEntries : List (String × Toml) → Except DecodeError (List (String × Toml))
  | [] => .ok []
  | (key, value) :: rest => do
    let value ← readAny value
    return (key, value) :: (← readAnyEntries rest)

end

def readTable (value : Toml) : Except DecodeError (List (String × Toml)) :=
  match value.entries? with
  | some entries => readAnyEntries entries
  | none => .error (value.mismatch "a map")

/-! ### Records -/

/-- A field of a record that is read into `σ`. A field may be required of tables, of arrays or both. -/
structure Field (σ : Type) where
  name : String
  requiredOfTable : Bool
  requiredOfList : Bool
  filled : σ → Bool
  read : Toml → σ → Except DecodeError σ

structure Record (σ : Type) where
  name : String
  fields : List (Field σ)

namespace Record

variable {σ : Type}

def describe (record : Record σ) : String :=
  "struct " ++ record.name

def describeLength (record : Record σ) : String :=
  record.describe ++ " with " ++ toString record.fields.length ++
    (if record.fields.length == 1 then " element" else " elements")

/-- Reads the entries of a table. Entries that are no field are passed over. -/
def readEntries (record : Record σ) : σ → List (String × Toml) → Except DecodeError σ
  | state, [] => .ok state
  | state, (key, value) :: rest => do
    match record.fields.find? (·.name == key) with
    | none => record.readEntries state rest
    | some field => record.readEntries (← field.read value state) rest

/-- Reads the items of an array as the fields in order; further items are passed over. -/
def readItems (record : Record σ) : Nat → σ → List (Field σ) → List Toml → Except DecodeError σ
  | _, state, [], _ => .ok state
  | count, state, field :: fields, item :: items => do
    record.readItems (count + 1) (← field.read item state) fields items
  | count, state, field :: fields, [] =>
    if field.requiredOfList then .error (.wrongLength count record.describeLength)
    else record.readItems (count + 1) state fields []

/-- Reads a record into `state`, which holds the defaults. -/
def read (record : Record σ) (state : σ) (value : Toml) : Except DecodeError σ :=
  match value.entries? with
  | some entries => do
    let state ← record.readEntries state entries
    match record.fields.find? (fun field => field.requiredOfTable && !field.filled state) with
    | some field => throw (.missingField field.name)
    | none => return state
  | none =>
    match value with
    | .list items => record.readItems 0 state record.fields items
    | other => .error (other.mismatch record.describe)

end Record

def optionalField {σ α : Type} (name : String) (read : Toml → Except DecodeError α)
    (set : α → σ → σ) : Field σ :=
  ⟨name, false, false, fun _ => true, fun value state => do return set (← read value) state⟩

def requiredField {σ α : Type} (name : String) (filled : σ → Bool) (read : Toml → Except DecodeError α)
    (set : α → σ → σ) : Field σ :=
  ⟨name, true, true, filled, fun value state => do return set (← read value) state⟩

/-- Reads a choice between words that carry no value: the word itself, or a table with the word as its
only key and nothing below it. -/
def readChoice {α : Type} (known : List (String × α)) (value : Toml) : Except DecodeError α := do
  let variant (name : String) : Except DecodeError α :=
    match known.find? (·.1 == name) with
    | some (_, choice) => .ok choice
    | none => .error (.unknownVariant name (known.map Prod.fst))
  match value with
  | .string name => variant name
  | .table [(name, content)] =>
    let choice ← variant name
    match content with
    | .table [] => return choice
    | .list [] => return choice
    | .table _ => throw (.refused "expected empty table")
    | .list _ => throw (.refused "expected empty array")
    | .string _ => throw (.refused "expected table, found string")
    | .integer _ => throw (.refused "expected table, found integer")
    | .float _ => throw (.refused "expected table, found float")
    | .boolean _ => throw (.refused "expected table, found boolean")
    | .datetime _ => throw (.refused "expected table, found datetime")
  | .table entries =>
    throw (.refused ("wanted exactly 1 element, found " ++ toString entries.length ++ " elements"))
  | _ => throw (.refused "wanted string or table")

def parse? (text : String) : Option Toml := do
  let entries ← ofText? text
  (readAny (.table entries)).toOption

end LedgerCapture.Toml
