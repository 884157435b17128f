import LedgerCapture.Width
import LedgerCapture.Json.Basic

/-!
JSON text as tokens. A token that is not well formed does not stop the reading by itself: it carries
the fault, and a reader that never looks at it never reports it. Strings and numbers carry two
verdicts, one for a reader that wants the value and one for a reader that only passes over it. The
latter accepts lone surrogates and numbers of any size.
-/
namespace LedgerCapture.Json

inductive SyntaxError where
  | endInValue
  | endInList
  | endInObject
  | endInString
  | expectedValue
  | expectedIdent
  | expectedColon
  | expectedCommaOrListEnd
  | expectedCommaOrObjectEnd
  | keyNotString
  | trailingComma
  | trailingCharacters
  | invalidEscape
  | invalidNumber
  | numberOutOfRange
  | loneSurrogate
  | unfinishedSurrogatePair
  | controlCharacter
  | nestedTooDeep
  deriving DecidableEq, Repr

def SyntaxError.message : SyntaxError → String
  | endInValue => "EOF while parsing a value"
  | endInList => "EOF while parsing a list"
  | endInObject => "EOF while parsing an object"
  | endInString => "EOF while parsing a string"
  | expectedValue => "expected value"
  | expectedIdent => "expected ident"
  | expectedColon => "expected `:`"
  | expectedCommaOrListEnd => "expected `,` or `]`"
  | expectedCommaOrObjectEnd => "expected `,` or `\x7d`"
  | keyNotString => "key must be a string"
  | trailingComma => "trailing comma"
  | trailingCharacters => "trailing characters"
  | invalidEscape => "invalid escape"
  | invalidNumber => "invalid number"
  | numberOutOfRange => "number out of range"
  | loneSurrogate => "lone leading surrogate in hex escape"
  | unfinishedSurrogatePair => "unexpected end of hex escape"
  | controlCharacter => "control character (\\u0000-\\u001F) found while parsing a string"
  | nestedTooDeep => "recursion limit exceeded"

inductive Literal where
  | null
  | boolean (value : Bool)
  deriving DecidableEq, Repr

/-- A string or number: its value, and whether a reader may at least pass over it. -/
structure Scalar (α : Type) where
  read : Except SyntaxError α
  skip : Except SyntaxError Unit

def Scalar.sound {α : Type} (value : α) : Scalar α := ⟨.ok value, .ok ()⟩

/-- The smallest parts of a JSON text. `stray` is a character that starts none of the others. -/
inductive Token where
  | openList
  | closeList
  | openObject
  | closeObject
  | colon
  | comma
  | literal (value : Except SyntaxError Literal)
  | number (value : Scalar Number)
  | string (value : Scalar String)
  | stray

/-! ### Strings -/

def hexValue? (c : Char) : Option Nat :=
  if '0' ≤ c ∧ c ≤ '9' then some (c.toNat - '0'.toNat)
  else if 'a' ≤ c ∧ c ≤ 'f' then some (c.toNat - 'a'.toNat + 10)
  else if 'A' ≤ c ∧ c ≤ 'F' then some (c.toNat - 'A'.toNat + 10)
  else none

/-- The number that the next four characters denote. Text that ends within the next four bytes is
reported as such. -/
def fourHexDigits (text : List Char) : Except SyntaxError Nat :=
  if (String.ofList (text.take 4)).utf8ByteSize < 4 then .error .endInString
  else
    match (text.take 4).mapM hexValue? with
    | some [a, b, c, d] => .ok (((a * 16 + b) * 16 + c) * 16 + d)
    | _ => .error .invalidEscape

/-- What a backslash stands for together with the `length` characters behind it. -/
inductive Escape where
  | char (value : Char) (length : Nat)
  | surrogate (fault : SyntaxError) (length : Nat)
  | broken (fault : SyntaxError)

/-- An escape by code unit; a pair of surrogates is one character. The text starts behind the `u`. -/
def unicodeEscape (text : List Char) : Escape :=
  match fourHexDigits text with
  | .error fault => .broken fault
  | .ok unit =>
    if 0xDC00 ≤ unit ∧ unit ≤ 0xDFFF then .surrogate .loneSurrogate 5
    else if unit < 0xD800 ∨ 0xDBFF < unit then .char (Char.ofNat unit) 5
    else
      match text.drop 4 with
      | [] => .broken .endInString
      | ['\\'] => .broken .endInString
      | '\\' :: 'u' :: rest =>
        match fourHexDigits rest with
        | .error fault => .surrogate fault 5
        | .ok low =>
          if 0xDC00 ≤ low ∧ low ≤ 0xDFFF then
            .char (Char.ofNat ((unit - 0xD800) * 0x400 + (low - 0xDC00) + 0x10000)) 11
          else .surrogate .loneSurrogate 5
      | _ => .surrogate .unfinishedSurrogatePair 5

def escapeAt (text : List Char) : Escape :=
  match text with
  | [] => .broken .endInString
  | c :: rest =>
    if c = 'u' then unicodeEscape rest
    else if c = '"' ∨ c = '\\' ∨ c = '/' then .char c 1
    else if c = 'b' then .char '\x08' 1
    else if c = 'f' then .char '\x0c' 1
    else if c = 'n' then .char '\n' 1
    else if c = 'r' then .char '\r' 1
    else if c = 't' then .char '\t' 1
    else .broken .invalidEscape

/-- The first fault of a reader that has got this far. -/
def failAfter {α β : Type} (soFar : Except SyntaxError α) (fault : SyntaxError) : Except SyntaxError β :=
  match soFar with
  | .ok _ => .error fault
  | .error earlier => .error earlier

/-- The string whose characters so far are in `soFar`, the last one first, and the text behind it. -/
def scanString (soFar : Except SyntaxError (List Char)) (text : List Char) :
    Scalar String × List Char :=
  match text with
  | [] => (⟨failAfter soFar .endInString, .error .endInString⟩, [])
  | c :: rest =>
    if c = '"' then (⟨soFar.map (fun chars => String.ofList chars.reverse), .ok ()⟩, rest)
    else if c = '\\' then
      match escapeAt rest with
      | .char value length => scanString (soFar.map (value :: ·)) (rest.drop length)
      | .surrogate fault length => scanString (failAfter soFar fault) (rest.drop length)
      | .broken fault => (⟨failAfter soFar fault, .error fault⟩, [])
    else if c.toNat < 0x20 then (⟨failAfter soFar .controlCharacter, .error .controlCharacter⟩, [])
    else scanString (soFar.map (c :: ·)) rest
termination_by text.length
decreasing_by all_goals simp only [List.length_drop, List.length_cons]; omega

theorem length_scanString_le (soFar : Except SyntaxError (List Char)) (text : List Char) :
    (scanString soFar text).2.length ≤ text.length := by
  fun_induction scanString soFar text <;> simp_all [List.length_drop] <;> omega

/-! ### Numbers -/

def isDigit (c : Char) : Bool := '0' ≤ c && c ≤ '9'

def digitsValue (digits : List Char) : Nat :=
  digits.foldl (fun value c => value * 10 + (c.toNat - '0'.toNat)) 0

/-- The parts of a number that is written correctly. Without fraction and exponent it is an integer. -/
structure NumberText where
  negative : Bool
  whole : List Char
  fraction : Option (List Char)
  exponent : Option (Bool × List Char)

/-- The least and the greatest integer that are kept exactly. -/
def leastInteger : Int := Width.leastSigned 64

def greatestInteger : Int := Width.greatest 64

/-- The value of a number: integers are exact as far as 64 bits hold them, all else is a double. Zero
with a minus sign is one of the latter. -/
def NumberText.value (text : NumberText) : Except SyntaxError Number :=
  let fraction := text.fraction.getD []
  let digits := digitsValue (text.whole ++ fraction)
  let power : Int :=
    match text.exponent with
    | none => 0
    | some (negative, ds) => if negative then -(digitsValue ds : Int) else digitsValue ds
  let integer : Int := if text.negative then -(digits : Int) else digits
  let isInteger := text.fraction.isNone && text.exponent.isNone
  if isInteger && !(text.negative && digits == 0) && leastInteger ≤ integer && integer ≤ greatestInteger then
    .ok (.integer integer)
  else
    match Decimal.ofDecimal text.negative digits (text.whole.length + fraction.length)
        (power - fraction.length) with
    | some value => .ok (.real value)
    | none => .error .numberOutOfRange

def brokenNumber (rest : List Char) : Except SyntaxError (NumberText × List Char) :=
  .error (if rest.isEmpty then .endInValue else .invalidNumber)

def exponentSign (text : List Char) : Bool × List Char :=
  match text with
  | '-' :: rest => (true, rest)
  | '+' :: rest => (false, rest)
  | text => (false, text)

def scanExponent (soFar : NumberText) (text : List Char) : Except SyntaxError (NumberText × List Char) :=
  match text with
  | [] => .ok (soFar, [])
  | c :: rest =>
    if c = 'e' ∨ c = 'E' then
      let signed := exponentSign rest
      if (signed.2.takeWhile isDigit).isEmpty then brokenNumber signed.2
      else
        .ok (⟨soFar.negative, soFar.whole, soFar.fraction,
          some (signed.1, signed.2.takeWhile isDigit)⟩, signed.2.dropWhile isDigit)
    else .ok (soFar, c :: rest)

def scanFraction (soFar : NumberText) (text : List Char) : Except SyntaxError (NumberText × List Char) :=
  match text with
  | '.' :: rest =>
    if (rest.takeWhile isDigit).isEmpty then brokenNumber rest
    else
      scanExponent ⟨soFar.negative, soFar.whole, some (rest.takeWhile isDigit), none⟩
        (rest.dropWhile isDigit)
  | text => scanExponent soFar text

/-- The number without its sign. A zero is not followed by further digits. -/
def scanUnsigned (negative : Bool) (text : List Char) : Except SyntaxError (NumberText × List Char) :=
  match text with
  | [] => brokenNumber []
  | c :: rest =>
    if c = '0' then
      if rest.head?.any isDigit then .error .invalidNumber
      else scanFraction ⟨negative, ['0'], none, none⟩ rest
    else if isDigit c then
      scanFraction ⟨negative, c :: rest.takeWhile isDigit, none, none⟩ (rest.dropWhile isDigit)
    else brokenNumber (c :: rest)

theorem length_dropWhile_isDigit_le (text : List Char) :
    (text.dropWhile isDigit).length ≤ text.length :=
  (List.dropWhile_sublist isDigit).length_le

theorem length_exponentSign_le (text : List Char) : (exponentSign text).2.length ≤ text.length := by
  unfold exponentSign
  split <;> simp

theorem length_scanExponent_le {soFar : NumberText} {text : List Char} {scanned : NumberText × List Char}
    (read : scanExponent soFar text = .ok scanned) : scanned.2.length ≤ text.length := by
  unfold scanExponent at read
  split at read
  · cases read; simp
  · next c rest =>
    split at read
    · dsimp only at read
      split at read
      · simp [brokenNumber] at read
      · cases read
        have digits := length_dropWhile_isDigit_le (exponentSign rest).2
        have sign := length_exponentSign_le rest
        simp only [List.length_cons]
        omega
    · cases read; simp

theorem length_scanFraction_le {soFar : NumberText} {text : List Char} {scanned : NumberText × List Char}
    (read : scanFraction soFar text = .ok scanned) : scanned.2.length ≤ text.length := by
  unfold scanFraction at read
  split at read
  · next rest =>
    split at read
    · simp [brokenNumber] at read
    · have exponent := length_scanExponent_le read
      have digits := length_dropWhile_isDigit_le rest
      simp only [List.length_cons]
      omega
  · exact length_scanExponent_le read

theorem length_scanUnsigned_lt {negative : Bool} {text : List Char} {scanned : NumberText × List Char}
    (read : scanUnsigned negative text = .ok scanned) : scanned.2.length < text.length := by
  unfold scanUnsigned at read
  split at read
  · simp [brokenNumber] at read
  · next c rest =>
    split at read
    · split at read
      · simp at read
      · have := length_scanFraction_le read
        simp only [List.length_cons]
        omega
    · split at read
      · have fraction := length_scanFraction_le read
        have digits := length_dropWhile_isDigit_le rest
        simp only [List.length_cons]
        omega
      · simp [brokenNumber] at read

def scanNumber (text : List Char) : Scalar Number × List Char :=
  let scanned :=
    match text with
    | '-' :: rest => scanUnsigned true rest
    | text => scanUnsigned false text
  match scanned with
  | .ok (found, rest) => (⟨found.value, .ok ()⟩, rest)
  | .error fault => (⟨.error fault, .error .invalidNumber⟩, [])

/-! ### Tokens -/

/-- Reads a word of which the first character has been seen: the remaining characters, and the text
behind them or the fault. -/
def scanWord (word text : List Char) : Except SyntaxError (List Char) :=
  match word, text with
  | [], text => .ok text
  | _ :: _, [] => .error .endInValue
  | w :: word, c :: text => if w = c then scanWord word text else .error .expectedIdent

def isSpace (c : Char) : Bool := c = ' ' || c = '\n' || c = '\t' || c = '\r'

theorem length_scanWord_le {word text rest : List Char} (read : scanWord word text = .ok rest) :
    rest.length ≤ text.length := by
  fun_induction scanWord word text with
  | case1 => simp_all
  | case2 => simp at read
  | case3 word c text ih =>
    have := ih read
    simp only [List.length_cons]
    omega
  | case4 => simp at read

theorem length_scanNumber_le (c : Char) (text : List Char) :
    (scanNumber (c :: text)).2.length ≤ text.length := by
  unfold scanNumber
  dsimp only
  split
  · next found rest read =>
    split at read
    · next below same =>
      cases same
      have := length_scanUnsigned_lt read
      dsimp only at this ⊢
      omega
    · have := length_scanUnsigned_lt read
      simp only [List.length_cons] at this
      dsimp only
      omega
  · simp

def wordToken (value : Literal) (word text : List Char) : Token × List Char :=
  match scanWord word text with
  | .ok rest => (.literal (.ok value), rest)
  | .error fault => (.literal (.error fault), [])

def tokenAt (c : Char) (text : List Char) : Token × List Char :=
  if c = '[' then (.openList, text)
  else if c = ']' then (.closeList, text)
  else if c = '\x7b' then (.openObject, text)
  else if c = '\x7d' then (.closeObject, text)
  else if c = ':' then (.colon, text)
  else if c = ',' then (.comma, text)
  else if c = '"' then
    let (found, rest) := scanString (.ok []) text
    (.string found, rest)
  else if c = '-' || isDigit c then
    let (found, rest) := scanNumber (c :: text)
    (.number found, rest)
  else if c = 'n' then wordToken .null ['u', 'l', 'l'] text
  else if c = 't' then wordToken (.boolean true) ['r', 'u', 'e'] text
  else if c = 'f' then wordToken (.boolean false) ['a', 'l', 's', 'e'] text
  else (.stray, text)

theorem length_wordToken_le (value : Literal) (word text : List Char) :
    (wordToken value word text).2.length ≤ text.length := by
  unfold wordToken
  split
  · exact length_scanWord_le (by assumption)
  · simp

theorem length_ite_le {test : Prop} [Decidable test] {this other : Token × List Char} {length : Nat}
    (here : this.2.length ≤ length) (there : other.2.length ≤ length) :
    (if test then this else other).2.length ≤ length := by
  split
  · exact here
  · exact there

theorem length_tokenAt_le (c : Char) (text : List Char) : (tokenAt c text).2.length ≤ text.length := by
  unfold tokenAt
  dsimp only
  repeat' apply length_ite_le
  all_goals
    first
      | exact Nat.le_refl _
      | exact length_scanString_le _ _
      | exact length_scanNumber_le _ _
      | exact length_wordToken_le _ _ _

/-- The tokens of the text, behind those in `done` (the last one first). -/
def tokensFrom (done : List Token) (text : List Char) : List Token :=
  match text with
  | [] => done.reverse
  | c :: rest =>
    if isSpace c then tokensFrom done rest
    else tokensFrom ((tokenAt c rest).1 :: done) (tokenAt c rest).2
termination_by text.length
decreasing_by
  · simp
  · have := length_tokenAt_le c rest
    simp only [List.length_cons]
    omega

def tokens (text : List Char) : List Token :=
  tokensFrom [] text

end LedgerCapture.Json
