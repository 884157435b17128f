import LedgerCapture.Json.Basic

/-!
TOML values. Tables are kept in the byte order of their keys, each key once.
-/
namespace LedgerCapture

/-- A floating-point number as TOML can write one. `tooLarge` is a decimal beyond the range of doubles;
it is a fault of whoever reads the value. -/
inductive Toml.Float where
  | finite (value : Decimal.Binary64)
  | infinite (negative : Bool)
  | notANumber
  | tooLarge
  deriving DecidableEq, Repr

/-- A TOML value. Dates and times are kept as the text in which they are written again. -/
inductive Toml where
  | string (value : String)
  | integer (value : Int)
  | float (value : Toml.Float)
  | boolean (value : Bool)
  | datetime (text : String)
  | list (items : List Toml)
  | table (entries : List (String × Toml))
  deriving Repr, Inhabited

namespace Toml

def lookup (key : String) : List (String × Toml) → Option Toml
  | [] => none
  | (other, value) :: rest => if other == key then some value else lookup key rest

def get? (value : Toml) (key : String) : Option Toml :=
  match value with
  | .table entries => lookup key entries
  | _ => none

def string? : Toml → Option String
  | .string value => some value
  | _ => none

def integer? : Toml → Option Int
  | .integer value => some value
  | _ => none

def list? : Toml → Option (List Toml)
  | .list items => some items
  | _ => none

def insertEntry (key : String) (value : Toml) : List (String × Toml) → List (String × Toml)
  | [] => [(key, value)]
  | (other, present) :: rest =>
    if key < other then (key, value) :: (other, present) :: rest
    else if key == other then (key, value) :: rest
    else (other, present) :: insertEntry key value rest

def ofEntries (entries : List (String × Toml)) : Toml :=
  .table (entries.foldl (fun sorted entry => insertEntry entry.1 entry.2 sorted) [])

/-- The key under which a date or time appears in a document that has no such values. -/
def datetimeKey : String := "$__toml_private_datetime"

def Float.toJson : Float → Json
  | .finite value => .number (.real value)
  | .infinite _ | .notANumber | .tooLarge => .null

mutual

/-- The value as a JSON document. What JSON cannot write as a number becomes null. -/
def toJson : Toml → Json
  | .string value => .string value
  | .integer value => .number (.integer value)
  | .float value => value.toJson
  | .boolean value => .boolean value
  | .datetime text => .object [(datetimeKey, .string text)]
  | .list items => .list (itemsToJson items)
  | .table entries => .object (entriesToJson entries)

def itemsToJson : List Toml → List Json
  | [] => []
  | item :: rest => toJson item :: itemsToJson rest

def entriesToJson : List (String × Toml) → List (String × Json)
  | [] => []
  | (key, value) :: rest => (key, toJson value) :: entriesToJson rest

end

end Toml

end LedgerCapture
