import LedgerCapture.Json.Basic
import LedgerCapture.Decimal.Shortest
import LedgerCapture.Text.Quoted

/-!
JSON documents as text: on one line without blanks, or with one item per line and two blanks of
indentation per level. All functions append to a text that is already written.
-/
namespace LedgerCapture.Json

open Decimal

/-- Doubles from 0.00001 up to below 10^16 are written positionally; an exponent carries its sign. -/
def doubleLayout : Layout := ⟨some (-4), some 16, true⟩

def Number.render : Number → String
  | .integer value => toString value
  | .real value => value.render doubleLayout

def escapeChar (c : Char) : String :=
  if c == '"' then "\\\""
  else if c == '\\' then "\\\\"
  else if c == '\n' then "\\n"
  else if c == '\r' then "\\r"
  else if c == '\t' then "\\t"
  else if c.toNat == 0x08 then "\\b"
  else if c.toNat == 0x0C then "\\f"
  else if c.toNat < 0x20 then
    (if c.toNat < 0x10 then "\\u000" else "\\u00") ++ Text.hexDigits c.toNat
  else String.singleton c

def writeString (out text : String) : String :=
  text.toList.foldl (fun out c => out ++ escapeChar c) (out ++ "\"") ++ "\""

def booleanText (value : Bool) : String :=
  if value then "true" else "false"

mutual

def writeCompact (out : String) : Json → String
  | .list items => writeCompactItems (out ++ "[") true items ++ "]"
  | .object members => writeCompactMembers (out ++ "\x7b") true members ++ "\x7d"
  | .null => out ++ "null"
  | .boolean value => out ++ booleanText value
  | .number value => out ++ value.render
  | .string value => writeString out value

def writeCompactItems (out : String) (first : Bool) : List Json → String
  | [] => out
  | item :: rest =>
    writeCompactItems (writeCompact (if first then out else out ++ ",") item) false rest

def writeCompactMembers (out : String) (first : Bool) : List (String × Json) → String
  | [] => out
  | (name, value) :: rest =>
    let out := writeString (if first then out else out ++ ",") name ++ ":"
    writeCompactMembers (writeCompact out value) false rest

end

def compact (document : Json) : String :=
  writeCompact "" document

def newLine (out : String) (depth : Nat) : String :=
  out ++ "\n" ++ String.ofList (List.replicate (2 * depth) ' ')

mutual

def writePretty (out : String) (depth : Nat) : Json → String
  | .list items =>
    match items with
    | [] => out ++ "[]"
    | item :: rest => newLine (writePrettyItems (out ++ "[") (depth + 1) true (item :: rest)) depth ++ "]"
  | .object members =>
    match members with
    | [] => out ++ "\x7b\x7d"
    | member :: rest =>
      newLine (writePrettyMembers (out ++ "\x7b") (depth + 1) true (member :: rest)) depth ++ "\x7d"
  | .null => out ++ "null"
  | .boolean value => out ++ booleanText value
  | .number value => out ++ value.render
  | .string value => writeString out value

def writePrettyItems (out : String) (depth : Nat) (first : Bool) : List Json → String
  | [] => out
  | item :: rest =>
    let out := newLine (if first then out else out ++ ",") depth
    writePrettyItems (writePretty out depth item) depth false rest

def writePrettyMembers (out : String) (depth : Nat) (first : Bool) : List (String × Json) → String
  | [] => out
  | (name, value) :: rest =>
    let out := newLine (if first then out else out ++ ",") depth
    let out := writeString out name ++ ": "
    writePrettyMembers (writePretty out depth value) depth false rest

end

/-- The document with one item or member per line, and a final line end. -/
def fileText (document : Json) : String :=
  writePretty "" 0 document ++ "\n"

end LedgerCapture.Json
