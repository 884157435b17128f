import LedgerCapture.Json.Draft
import LedgerCapture.Json.Printer
import LedgerCapture.Text.Quoted

/-!
Reading a draft at a type. A reader goes through the draft in the order of the text and reports the
first fault it meets, be it one of the text or one of the type.
-/
namespace LedgerCapture.Json

inductive Found where
  | null
  | boolean (value : Bool)
  | integer (value : Int)
  | real (value : Decimal.Binary64)
  | string (value : String)
  | sequence
  | map
  deriving DecidableEq

def Found.describe : Found → String
  | null => "null"
  | boolean value => "boolean `" ++ booleanText value ++ "`"
  | integer value => "integer `" ++ toString value ++ "`"
  | real value => "floating point `" ++ value.render doubleLayout ++ "`"
  | string value => "string " ++ Text.quote value
  | sequence => "sequence"
  | map => "map"

inductive DecodeError where
  | malformed (fault : SyntaxError)
  | wrongType (found : Found) (expected : String)
  | wrongValue (found : Found) (expected : String)
  | wrongLength (length : Nat) (expected : String)
  | missingField (name : String)
  | duplicateField (name : String)
  /-- The value has the right shape and is refused by the rules of its type. -/
  | refused (reason : String)
  deriving DecidableEq

def DecodeError.message : DecodeError → String
  | malformed fault => fault.message
  | wrongType found expected => "invalid type: " ++ found.describe ++ ", expected " ++ expected
  | wrongValue found expected => "invalid value: " ++ found.describe ++ ", expected " ++ expected
  | wrongLength length expected => "invalid length " ++ toString length ++ ", expected " ++ expected
  | missingField name => "missing field `" ++ name ++ "`"
  | duplicateField name => "duplicate field `" ++ name ++ "`"
  | refused reason => reason

/-- How a document is being read: how many arrays and objects may still be opened inside each other, if
that is limited, and whether the document was a text or is known as a whole already. -/
structure Reading where
  room : Option Nat
  known : Bool

namespace Reading

/-- Of a text, at most 127 arrays and objects may be open at once. -/
def limited : Reading := ⟨some 127, false⟩

def unlimited : Reading := ⟨none, false⟩

/-- A document that has been read before. -/
def ofDocument : Reading := ⟨none, true⟩

def enter (reading : Reading) : Except DecodeError Reading :=
  match reading.room with
  | none => .ok reading
  | some 0 => .error (.malformed .nestedTooDeep)
  | some (room + 1) => .ok { reading with room := some room }

end Reading

def wellFormed {α : Type} (part : Except SyntaxError α) : Except DecodeError α :=
  part.mapError .malformed

/-- The fault of an array that ends so, for a reader that wants its items. -/
def Ending.listFault? : Ending → Option SyntaxError
  | closed => none
  | textEnds => some .endInList
  | stray => some .expectedCommaOrListEnd
  | commaThenClosed => some .trailingComma
  | commaThenTextEnds => some .endInValue
  | keyNotString => some .keyNotString
  | brokenKey _ => some .keyNotString

/-- The fault of an array of which all expected items have been read. -/
def Ending.surplusFault? : Ending → Option SyntaxError
  | closed => none
  | textEnds => some .endInList
  | commaThenClosed => some .trailingComma
  | _ => some .trailingCharacters

def Ending.objectFault? : Ending → Option SyntaxError
  | closed => none
  | textEnds => some .endInObject
  | stray => some .expectedCommaOrObjectEnd
  | commaThenClosed => some .trailingComma
  | commaThenTextEnds => some .endInValue
  | keyNotString => some .keyNotString
  | brokenKey key => some (match key.read with | .error fault => fault | .ok _ => .keyNotString)

/-- The fault of an array that ends so, for a reader that passes over it. -/
def Ending.skippedListFault? : Ending → Option SyntaxError
  | commaThenClosed => some .expectedValue
  | ending => ending.listFault?

def Ending.skippedObjectFault? : Ending → Option SyntaxError
  | commaThenClosed => some .keyNotString
  | commaThenTextEnds => some .endInObject
  | brokenKey key => some (match key.skip with | .error fault => fault | .ok _ => .keyNotString)
  | ending => ending.objectFault?

def failIf (fault : Option SyntaxError) : Except DecodeError Unit :=
  match fault with
  | none => .ok ()
  | some fault => .error (.malformed fault)

namespace Draft

/-- What a reader with other expectations finds. Scalars have to be well formed to be named. -/
def found : Draft → Except SyntaxError Found
  | .missing fault => .error fault
  | .literal .null => .ok .null
  | .literal (.boolean value) => .ok (.boolean value)
  | .number value =>
    value.read.map fun
      | .integer value => .integer value
      | .real value => .real value
  | .string value => value.read.map .string
  | .list _ _ => .ok .sequence
  | .object _ _ => .ok .map

def mismatch (draft : Draft) (expected : String) : DecodeError :=
  match draft.found with
  | .ok found => .wrongType found expected
  | .error fault => .malformed fault

mutual

def skip : Draft → Except DecodeError Unit
  | .missing fault => .error (.malformed fault)
  | .literal _ => .ok ()
  | .number value => wellFormed value.skip
  | .string value => wellFormed value.skip
  | .list items ending => do
    skipItems items
    failIf ending.skippedListFault?
  | .object members ending => do
    skipMembers members
    failIf ending.skippedObjectFault?

def skipItems : List Draft → Except DecodeError Unit
  | [] => .ok ()
  | item :: rest => do
    skip item
    skipItems rest

def skipMembers : List (Scalar String × Draft) → Except DecodeError Unit
  | [] => .ok ()
  | (key, value) :: rest => do
    wellFormed key.skip
    skip value
    skipMembers rest

end

mutual

def readJson (reading : Reading) : Draft → Except DecodeError Json
  | .missing fault => .error (.malformed fault)
  | .literal .null => .ok .null
  | .literal (.boolean value) => .ok (.boolean value)
  | .number value => (wellFormed value.read).map .number
  | .string value => (wellFormed value.read).map .string
  | .list items ending => do
    let inner ← reading.enter
    let values ← readJsonItems inner items
    failIf ending.listFault?
    return .list values
  | .object members ending => do
    let inner ← reading.enter
    let members ← readJsonMembers inner members
    failIf ending.objectFault?
    return .ofMembers members

def readJsonItems (reading : Reading) : List Draft → Except DecodeError (List Json)
  | [] => .ok []
  | item :: rest => do
    let value ← readJson reading item
    return value :: (← readJsonItems reading rest)

def readJsonMembers (reading : Reading) :
    List (Scalar String × Draft) → Except DecodeError (List (String × Json))
  | [] => .ok []
  | (key, value) :: rest => do
    let name ← wellFormed key.read
    let value ← readJson reading value
    return (name, value) :: (← readJsonMembers reading rest)

end

/-- Reads a string; `expected` names the type in messages. -/
def readStringAs (expected : String) (draft : Draft) : Except DecodeError String :=
  match draft with
  | .string value => wellFormed value.read
  | other => .error (other.mismatch expected)

def readString (draft : Draft) : Except DecodeError String :=
  draft.readStringAs "a string"

def readPath (draft : Draft) : Except DecodeError String :=
  draft.readStringAs "path string"

def readInteger (least greatest : Int) (expected : String) (draft : Draft) : Except DecodeError Int :=
  match draft with
  | .number value => do
    match ← wellFormed value.read with
    | .integer value =>
      if least ≤ value ∧ value ≤ greatest then return value
      else throw (.wrongValue (.integer value) expected)
    | .real value => throw (.wrongType (.real value) expected)
  | other => .error (other.mismatch expected)

/-- Reads a natural number of 64 bits. -/
def readNatural (draft : Draft) : Except DecodeError Nat := do
  return (← draft.readInteger 0 greatestInteger "u64").toNat

/-- Reads a signed integer of 64 bits. -/
def readSigned (draft : Draft) : Except DecodeError Int :=
  draft.readInteger leastInteger (Width.greatestSigned 64) "i64"

def readList {α : Type} (read : Reading → Draft → Except DecodeError α) (reading : Reading)
    (draft : Draft) : Except DecodeError (List α) :=
  match draft with
  | .list items ending => do
    let inner ← reading.enter
    let values ← items.mapM (read inner)
    failIf ending.listFault?
    return values
  | other => .error (other.mismatch "a sequence")

def readOption {α : Type} (read : Reading → Draft → Except DecodeError α) (reading : Reading)
    (draft : Draft) : Except DecodeError (Option α) :=
  match draft with
  | .literal .null => .ok none
  | other => (read reading other).map some

end Draft

/-! ### Records -/

/-- A field of a record that is being read into `σ`: its name, whether it has been read, whether it may
be absent, and how it is read. -/
structure Field (σ : Type) where
  name : String
  filled : σ → Bool
  optional : Bool
  read : Reading → Draft → σ → Except DecodeError σ

/-- A type of records: its name in messages and its fields in the order of their declaration. -/
structure Record (σ : Type) where
  name : String
  fields : List (Field σ)

namespace Record

variable {σ : Type}

def describe (record : Record σ) : String :=
  "struct " ++ record.name

def describeLength (record : Record σ) : String :=
  record.describe ++ " with " ++ toString record.fields.length ++
    (if record.fields.length == 1 then " element" else " elements")

def checkComplete (fields : List (Field σ)) (state : σ) : Except DecodeError σ :=
  match fields.find? (fun field => !field.optional && !field.filled state) with
  | none => .ok state
  | some field => .error (.missingField field.name)

/-- Reads the members of an object. Members that are no field are passed over. -/
def readMembers (record : Record σ) (reading : Reading) (state : σ) :
    List (Scalar String × Draft) → Except DecodeError σ
  | [] => .ok state
  | (key, value) :: rest => do
    let name ← wellFormed key.read
    match record.fields.find? (·.name == name) with
    | none =>
      value.skip
      record.readMembers reading state rest
    | some field =>
      if field.filled state then throw (.duplicateField name)
      record.readMembers reading (← field.read reading value state) rest

/-- Reads the items of an array as the fields in order. `count` is the number of fields read so far,
`total` the length of the array. -/
def readItems (record : Record σ) (reading : Reading) (ending : Ending) (total count : Nat) (state : σ) :
    List (Field σ) → List Draft → Except DecodeError σ
  | field :: fields, item :: items => do
    record.readItems reading ending total (count + 1) (← field.read reading item state) fields items
  | field :: fields, [] => do
    failIf ending.listFault?
    if field.optional then record.readItems reading ending total (count + 1) state fields []
    else throw (.wrongLength count record.describeLength)
  | [], [] => do
    failIf ending.surplusFault?
    return state
  | [], _ :: _ =>
    if reading.known then .error (.wrongLength total "fewer elements in array")
    else .error (.malformed .trailingCharacters)

/-- Reads a record from an object or from an array of its fields. -/
def read (record : Record σ) (empty : σ) (reading : Reading) (draft : Draft) : Except DecodeError σ :=
  match draft with
  | .object members ending => do
    let inner ← reading.enter
    let state ← record.readMembers inner empty members
    failIf ending.objectFault?
    checkComplete record.fields state
  | .list items ending => do
    let inner ← reading.enter
    record.readItems inner ending items.length 0 empty record.fields items
  | other => .error (other.mismatch record.describe)

end Record

def required {α : Type} (name : String) (value : Option α) : Except DecodeError α :=
  match value with
  | some value => .ok value
  | none => .error (.missingField name)

/-! ### Whole documents -/

def decode {α : Type} (read : Reading → Draft → Except DecodeError α) (reading : Reading) (text : String) :
    Except DecodeError α := do
  let (draft, more) := Draft.ofText text
  let value ← read reading draft
  if more then throw (.malformed .trailingCharacters)
  return value

/-- Reads the value at the start of a text. -/
def decodeLeading {α : Type} (read : Reading → Draft → Except DecodeError α) (reading : Reading)
    (text : String) : Except DecodeError α :=
  read reading (Draft.ofText text).1

def parse (reading : Reading) (text : String) : Except DecodeError Json :=
  decode Draft.readJson reading text

end LedgerCapture.Json
