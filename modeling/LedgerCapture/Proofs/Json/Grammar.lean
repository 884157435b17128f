import LedgerCapture.Json.Token

/-!
The grammar of JSON texts, without regard to how they are read. It says nothing about what a text means: a
number may be of any size, a name may stand twice, an escape may be half of a pair.
-/
namespace LedgerCapture.Json.Grammar

def IsGap (text : List Char) : Prop :=
  ∀ c ∈ text, isSpace c = true

/-! ### Numbers -/

def IsDigits (text : List Char) : Prop :=
  text ≠ [] ∧ ∀ c ∈ text, isDigit c = true

/-- A whole number has no zeros in front. -/
inductive IsWhole : List Char → Prop where
  | zero : IsWhole ['0']
  | other {c : Char} {rest : List Char} (digit : isDigit c = true) (positive : c ≠ '0')
      (digits : ∀ d ∈ rest, isDigit d = true) : IsWhole (c :: rest)

inductive IsFraction : List Char → Prop where
  | absent : IsFraction []
  | present {text : List Char} (digits : IsDigits text) : IsFraction ('.' :: text)

inductive IsExponent : List Char → Prop where
  | absent : IsExponent []
  | present {mark : Char} {sign text : List Char} (marked : mark = 'e' ∨ mark = 'E')
      (signed : sign = [] ∨ sign = ['+'] ∨ sign = ['-']) (digits : IsDigits text) :
      IsExponent (mark :: (sign ++ text))

inductive IsNumber : List Char → Prop where
  | mk {sign whole fraction exponent : List Char} (signed : sign = [] ∨ sign = ['-']) (isWhole : IsWhole whole)
      (isFraction : IsFraction fraction) (isExponent : IsExponent exponent) :
      IsNumber (sign ++ (whole ++ (fraction ++ exponent)))

/-! ### Strings -/

inductive IsCharacter : List Char → Prop where
  | plain {c : Char} (noQuote : c ≠ '"') (noEscape : c ≠ '\\') (noControl : 0x20 ≤ c.toNat) : IsCharacter [c]
  | escaped {c : Char} (known : c ∈ ['"', '\\', '/', 'b', 'f', 'n', 'r', 't']) : IsCharacter ['\\', c]
  | unit {a b c d : Char} (hexadecimal : ∀ digit ∈ [a, b, c, d], (hexValue? digit).isSome = true) :
      IsCharacter ['\\', 'u', a, b, c, d]

inductive IsBody : List Char → Prop where
  | nil : IsBody []
  | cons {first rest : List Char} (character : IsCharacter first) (body : IsBody rest) : IsBody (first ++ rest)

inductive IsString : List Char → Prop where
  | mk {body : List Char} (isBody : IsBody body) : IsString ('"' :: (body ++ ['"']))

/-! ### Values -/

mutual

/-- A value, without blanks around it. -/
inductive IsValue : List Char → Prop where
  | null : IsValue ['n', 'u', 'l', 'l']
  | true : IsValue ['t', 'r', 'u', 'e']
  | false : IsValue ['f', 'a', 'l', 's', 'e']
  | number {text : List Char} (isNumber : IsNumber text) : IsValue text
  | string {text : List Char} (isString : IsString text) : IsValue text
  | emptyList {gap : List Char} (isGap : IsGap gap) : IsValue ('[' :: (gap ++ [']']))
  | list {items : List Char} (areItems : AreItems items) : IsValue ('[' :: (items ++ [']']))
  | emptyObject {gap : List Char} (isGap : IsGap gap) : IsValue ('\x7b' :: (gap ++ ['\x7d']))
  | object {members : List Char} (areMembers : AreMembers members) :
      IsValue ('\x7b' :: (members ++ ['\x7d']))

/-- A value with the blanks around it. -/
inductive IsElement : List Char → Prop where
  | mk {before value after : List Char} (isGap : IsGap before) (isValue : IsValue value)
      (isGapAfter : IsGap after) : IsElement (before ++ (value ++ after))

inductive AreItems : List Char → Prop where
  | last {item : List Char} (isElement : IsElement item) : AreItems item
  | more {item rest : List Char} (isElement : IsElement item) (areItems : AreItems rest) :
      AreItems (item ++ ',' :: rest)

inductive IsMember : List Char → Prop where
  | mk {before name after value : List Char} (isGap : IsGap before) (isString : IsString name)
      (isGapAfter : IsGap after) (isElement : IsElement value) :
      IsMember (before ++ (name ++ (after ++ ':' :: value)))

inductive AreMembers : List Char → Prop where
  | last {member : List Char} (isMember : IsMember member) : AreMembers member
  | more {member rest : List Char} (isMember : IsMember member) (areMembers : AreMembers rest) :
      AreMembers (member ++ ',' :: rest)

end

theorem isBody_of_plain {text : List Char} (plain : ∀ c ∈ text, c ≠ '"' ∧ c ≠ '\\' ∧ 0x20 ≤ c.toNat) :
    IsBody text := by
  induction text with
  | nil => exact .nil
  | cons c rest ih =>
    obtain ⟨noQuote, noEscape, noControl⟩ := plain c (List.mem_cons_self ..)
    exact .cons (.plain noQuote noEscape noControl) (ih fun d member => plain d (List.mem_cons_of_mem _ member))

theorem IsValue.element {text : List Char} (isValue : IsValue text) : IsElement text := by
  have element : IsElement ([] ++ (text ++ [])) := .mk nofun isValue nofun
  rwa [List.append_nil, List.nil_append] at element

/-- A complete document: one value, with nothing but blanks around it. -/
def IsDocument (text : String) : Prop :=
  IsElement text.toList

end LedgerCapture.Json.Grammar
