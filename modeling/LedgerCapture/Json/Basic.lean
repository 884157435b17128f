import LedgerCapture.Decimal.Binary64

/-!
JSON documents. The members of an object are a list: documents that were read have their members in
the byte order of the names and each name once (`Json.ofMembers`), documents that the tool composes
have them in the order in which they are to be written.
-/
namespace LedgerCapture

/-- A number: an integer, or a double where the text has a fraction, an exponent or too many digits. -/
inductive Json.Number where
  | integer (value : Int)
  | real (value : Decimal.Binary64)
  deriving DecidableEq, Repr, Inhabited

inductive Json where
  | null
  | boolean (value : Bool)
  | number (value : Json.Number)
  | string (value : String)
  | list (items : List Json)
  | object (members : List (String × Json))
  deriving Repr, Inhabited

namespace Json

def ofNat (value : Nat) : Json := .number (.integer value)

/-- Puts a member into its place in the byte order of the names. A member of the same name gives way. -/
def insertMember (name : String) (value : Json) : List (String × Json) → List (String × Json)
  | [] => [(name, value)]
  | (other, present) :: rest =>
    if name < other then (name, value) :: (other, present) :: rest
    else if name == other then (name, value) :: rest
    else (other, present) :: insertMember name value rest

/-- The object with these members, in the byte order of their names; of equal names the last one counts. -/
def ofMembers (members : List (String × Json)) : Json :=
  .object (members.foldl (fun sorted member => insertMember member.1 member.2 sorted) [])

def lookup (name : String) : List (String × Json) → Option Json
  | [] => none
  | (other, value) :: rest => if other == name then some value else lookup name rest

def member? (name : String) : Json → Option Json
  | .object members => lookup name members
  | _ => none

def items? : Json → Option (List Json)
  | .list items => some items
  | _ => none

def string? : Json → Option String
  | .string value => some value
  | _ => none

def typeName : Json → String
  | .null => "null"
  | .boolean _ => "boolean"
  | .number (.integer _) => "integer"
  | .number (.real _) => "float"
  | .string _ => "string"
  | .list _ => "array"
  | .object _ => "object"

end Json

end LedgerCapture
