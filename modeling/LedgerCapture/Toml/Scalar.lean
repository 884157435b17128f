import LedgerCapture.Toml.Basic
import LedgerCapture.Json.Token

/-!
The values of a TOML document that are written as one word: numbers, truth values, dates and times.
-/
namespace LedgerCapture.Toml

open Json (isDigit digitsValue hexValue?)

/-- Takes the separators out of a run of digits. Each stands between two digits. -/
def plainDigits? (isAllowed : Char → Bool) : List Char → Option (List Char)
  | [] => none
  | [c] => if isAllowed c then some [c] else none
  | c :: '_' :: next :: rest =>
    if isAllowed c && isAllowed next then (plainDigits? isAllowed (next :: rest)).map (c :: ·) else none
  | c :: rest => if isAllowed c then (plainDigits? isAllowed rest).map (c :: ·) else none

/-- The decimal digits of a number: no zero stands before another digit. -/
def wholeDigits? (text : List Char) : Option (List Char) :=
  match plainDigits? isDigit text with
  | some ('0' :: _ :: _) => none
  | digits => digits

/-- The number that digits to a base denote, of which each must be below the base. -/
def valueToBase? (base : Nat) (text : List Char) : Option Nat := do
  let digits ← plainDigits? (fun c => (hexValue? c).any (· < base)) text
  return digits.foldl (fun value c => value * base + (hexValue? c).getD 0) 0

def splitSign (text : List Char) : Bool × List Char :=
  match text with
  | '-' :: rest => (true, rest)
  | '+' :: rest => (false, rest)
  | rest => (false, rest)

def integerOf (negative : Bool) (digits : List Char) : Int :=
  if negative then -(digitsValue digits : Int) else digitsValue digits

/-- Integers: decimal with an optional sign, or to base 16, 8 or 2 without one. -/
def integerOf? (text : List Char) : Option Int :=
  match text with
  | '0' :: 'x' :: digits => (valueToBase? 16 digits).map Int.ofNat
  | '0' :: 'o' :: digits => (valueToBase? 8 digits).map Int.ofNat
  | '0' :: 'b' :: digits => (valueToBase? 2 digits).map Int.ofNat
  | text => (wholeDigits? (splitSign text).2).map (integerOf (splitSign text).1)

/-- The exponent behind the letter `e`; zeros may lead here. -/
def exponentOf? (text : List Char) : Option Int :=
  (plainDigits? isDigit (splitSign text).2).map (integerOf (splitSign text).1)

/-- Floats: a decimal with a fraction, an exponent or both, or one of the words `inf` and `nan`. -/
def floatOf? (text : List Char) : Option Float := do
  let (negative, unsigned) := splitSign text
  if unsigned == "inf".toList then return .infinite negative
  if unsigned == "nan".toList then return .notANumber
  let isMark := fun (c : Char) => c == 'e' || c == 'E'
  let mantissa := unsigned.takeWhile (fun c => !isMark c)
  let power ←
    match unsigned.dropWhile (fun c => !isMark c) with
    | [] => some 0
    | _ :: exponent => exponentOf? exponent
  let whole ← wholeDigits? (mantissa.takeWhile (· != '.'))
  let fraction ←
    match mantissa.dropWhile (· != '.') with
    | [] => if mantissa.length < unsigned.length then some [] else none
    | _ :: digits => plainDigits? isDigit digits
  match Decimal.ofDecimal negative (digitsValue (whole ++ fraction)) (whole.length + fraction.length)
      (power - fraction.length) with
  | some value => return .finite value
  | none => return .tooLarge

/-! ### Dates and times -/

def daysOfMonth (year month : Nat) : Nat :=
  if month == 2 then
    if year % 4 == 0 && (year % 100 != 0 || year % 400 == 0) then 29 else 28
  else if month == 4 || month == 6 || month == 9 || month == 11 then 30
  else 31

/-- The number that exactly these digits denote, if it lies between the bounds. -/
def boundedNumber? (least greatest : Nat) (digits : List Char) : Option Nat :=
  if digits.all isDigit && least ≤ digitsValue digits && digitsValue digits ≤ greatest then
    some (digitsValue digits)
  else none

/-- A date at the start of the text, as it is written again, and the text behind it. -/
def dateOf? (text : List Char) : Option (List Char × List Char) :=
  match text with
  | y1 :: y2 :: y3 :: y4 :: '-' :: m1 :: m2 :: '-' :: d1 :: d2 :: rest => do
    let year ← boundedNumber? 0 9999 [y1, y2, y3, y4]
    let month ← boundedNumber? 1 12 [m1, m2]
    discard (boundedNumber? 1 (daysOfMonth year month) [d1, d2])
    return (text.take 10, rest)
  | _ => none

/-- The fraction of a second as it is written again: nine digits count, zeros at the end do not. -/
def fractionText (digits : List Char) : List Char :=
  match ((digits.take 9).reverse.dropWhile (· == '0')).reverse with
  | [] => []
  | kept => '.' :: kept

/-- The seconds of a time, which may be left out. -/
def secondsOf? (text : List Char) : Option (List Char × List Char) :=
  match text with
  | ':' :: s1 :: s2 :: rest => do
    discard (boundedNumber? 0 60 [s1, s2])
    match rest with
    | '.' :: rest =>
      if (rest.takeWhile isDigit).isEmpty then none
      else some (':' :: s1 :: s2 :: fractionText (rest.takeWhile isDigit), rest.dropWhile isDigit)
    | rest => some ([':', s1, s2], rest)
  | ':' :: _ => none
  | rest => some (":00".toList, rest)

def timeOf? (text : List Char) : Option (List Char × List Char) :=
  match text with
  | h1 :: h2 :: ':' :: m1 :: m2 :: rest => do
    discard (boundedNumber? 0 23 [h1, h2])
    discard (boundedNumber? 0 59 [m1, m2])
    let (seconds, rest) ← secondsOf? rest
    return ([h1, h2, ':', m1, m2] ++ seconds, rest)
  | _ => none

/-- An offset from universal time, as it is written again. No offset has a minus sign and no amount. -/
def offsetOf? (text : List Char) : Option (List Char) :=
  match text with
  | [] => some []
  | ['Z'] => some ['Z']
  | ['z'] => some ['Z']
  | [sign, h1, h2, ':', m1, m2] => do
    let hours ← boundedNumber? 0 23 [h1, h2]
    let minutes ← boundedNumber? 0 59 [m1, m2]
    if sign == '+' || (sign == '-' && hours + minutes == 0) then some ['+', h1, h2, ':', m1, m2]
    else if sign == '-' then some ['-', h1, h2, ':', m1, m2]
    else none
  | _ => none

def isTimeMark (c : Char) : Bool := c == 'T' || c == 't' || c == ' '

def datetimeOf? (text : List Char) : Option String :=
  match dateOf? text with
  | none =>
    match timeOf? text with
    | some (time, []) => some (String.ofList time)
    | _ => none
  | some (date, []) => some (String.ofList date)
  | some (date, mark :: rest) =>
    if isTimeMark mark then do
      let (time, rest) ← timeOf? rest
      let offset ← offsetOf? rest
      return String.ofList (date ++ 'T' :: time ++ offset)
    else none

/-! ### Words -/

def isWordChar (c : Char) : Bool :=
  isDigit c || ('a' ≤ c && c ≤ 'z') || ('A' ≤ c && c ≤ 'Z') || c == '_' || c == '-' || c == '+' ||
    c == '.' || c == ':'

/-- The word at the start of the text and what follows it. A time of day belongs to the date before it,
also when a space stands between them. -/
def splitWord (text : List Char) : List Char × List Char :=
  let word := text.takeWhile isWordChar
  let rest := text.dropWhile isWordChar
  match dateOf? word, rest with
  | some (_, []), ' ' :: d :: more =>
    if isDigit d then (word ++ ' ' :: (d :: more).takeWhile isWordChar, (d :: more).dropWhile isWordChar)
    else (word, rest)
  | _, _ => (word, rest)

def wordValue? (word : List Char) : Option Toml :=
  if word == "true".toList then some (.boolean true)
  else if word == "false".toList then some (.boolean false)
  else
    ((integerOf? word).map Toml.integer <|> (floatOf? word).map Toml.float) <|>
      (datetimeOf? word).map Toml.datetime

end LedgerCapture.Toml
