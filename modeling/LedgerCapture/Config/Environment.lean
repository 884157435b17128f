/-!
References to environment variables in a configuration text: `${NAME}`, or `${NAME:-default}` with a
text for the case that the variable is not set. All references are found before any of them is replaced,
so what a variable brings in is never searched for references.
-/
namespace LedgerCapture.Config

abbrev Environment := String → Option String

structure Reference where
  name : String
  default : Option String
  deriving DecidableEq, Repr

/-- What takes the place of a reference, or the name of the variable if it is missing. -/
def Reference.value (environment : Environment) (reference : Reference) : Except String String :=
  match (environment reference.name).or reference.default with
  | some value => .ok value
  | none => .error reference.name

/-! ### Finding references -/

def isNameStart (c : Char) : Bool :=
  ('A' ≤ c && c ≤ 'Z') || c == '_'

def isNameChar (c : Char) : Bool :=
  isNameStart c || ('0' ≤ c && c ≤ '9')

def greatestNameLength : Nat := 128

def greatestDefaultLength : Nat := 256

/-- The characters of one kind at the start of the text and what follows them, if there are not too many. -/
def runAt? (kind : Char → Bool) (greatest : Nat) (text : List Char) : Option (List Char × List Char) :=
  let run := (text.take (greatest + 1)).takeWhile kind
  if run.length ≤ greatest then some (run, text.drop run.length) else none

def nameAt? (text : List Char) : Option (List Char × List Char) :=
  if text.head?.any isNameStart then runAt? isNameChar greatestNameLength text else none

def defaultAt? (text : List Char) : Option (List Char × List Char) :=
  runAt? (· != '\x7d') greatestDefaultLength text

def referenceAt? (text : List Char) : Option (Reference × Nat) :=
  match text with
  | '$' :: '\x7b' :: rest => do
    let (name, rest) ← nameAt? rest
    match rest with
    | '\x7d' :: _ => return (⟨String.ofList name, none⟩, name.length + 3)
    | ':' :: '-' :: rest => do
      let (default, rest) ← defaultAt? rest
      match rest with
      | '\x7d' :: _ =>
        return (⟨String.ofList name, some (String.ofList default)⟩, name.length + default.length + 5)
      | _ => none
    | _ => none
  | _ => none

/-- A reference where it was found: the place of its first character, and that of the character behind it. -/
structure Occurrence where
  start : Nat
  stop : Nat
  reference : Reference
  deriving DecidableEq, Repr

/-- The references in the part of a text that starts at `place`, the leftmost first. The next `covered`
characters belong to a reference that was found before. -/
def occurrencesFrom (place : Nat) : Nat → List Char → List Occurrence
  | _, [] => []
  | covered + 1, _ :: rest => occurrencesFrom (place + 1) covered rest
  | 0, c :: rest =>
    match referenceAt? (c :: rest) with
    | some (reference, length) =>
      ⟨place, place + length, reference⟩ :: occurrencesFrom (place + 1) (length - 1) rest
    | none => occurrencesFrom (place + 1) 0 rest

/-- The references in a text, none overlapping another. -/
def occurrences (text : String) : List Occurrence :=
  occurrencesFrom 0 0 text.toList

/-! ### Replacing them -/

structure Replacement where
  start : Nat
  stop : Nat
  value : String
  deriving DecidableEq, Repr

def Occurrence.replacement (environment : Environment) (occurrence : Occurrence) :
    Except String Replacement := do
  return ⟨occurrence.start, occurrence.stop, ← occurrence.reference.value environment⟩

def Replacement.apply (replacement : Replacement) (text : List Char) : List Char :=
  text.take replacement.start ++ (replacement.value.toList ++ text.drop replacement.stop)

/-- The text with all references replaced, or the name of the first variable that is missing. The last
reference is replaced first, since a replacement moves all that stands behind it. -/
def substitute (environment : Environment) (text : String) : Except String String := do
  let replacements ← (occurrences text).mapM (Occurrence.replacement environment)
  return String.ofList (replacements.foldr Replacement.apply text.toList)

end LedgerCapture.Config
