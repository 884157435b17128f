import LedgerCapture.Decimal.Binary64

/-!
The fewest decimal digits that read back as a given double, and how they are laid out. The digits are
found on the decimal grids of 1, 2, … 17 places: the first grid that has a point in the interval of
reals rounding to the number wins, of two such points the nearer one.
-/
namespace LedgerCapture.Decimal

/-- A decimal number `digits * 10 ^ power`. -/
structure Scientific where
  digits : Nat
  power : Int
  deriving DecidableEq, Repr

/-- A positive double between the bounds of the reals that round to it, all as numerators over the one
denominator. The bounds belong to the interval if the significand is even. -/
structure RoundingInterval where
  low : Nat
  value : Nat
  high : Nat
  denominator : Nat
  closed : Bool

/-- The reals that round to the double. Below a power of two the neighbours are closer than above. -/
def Binary64.roundingInterval (number : Binary64) : RoundingInterval :=
  let narrow := number.significand == Nat.pow 2 52 && number.exponent > leastExponent
  let value := 4 * number.significand
  let low := if narrow then value - 1 else value - 2
  let (factor, denominator) :=
    if number.exponent ≥ 0 then (Nat.pow 2 number.exponent.toNat, 4) else (1, 4 * Nat.pow 2 (-number.exponent).toNat)
  ⟨low * factor, value * factor, (value + 2) * factor, denominator, number.significand % 2 == 0⟩

def RoundingInterval.contains (interval : RoundingInterval) (point scale : Nat) : Bool :=
  let point := point * interval.denominator
  if interval.closed then interval.low * scale ≤ point && point ≤ interval.high * scale
  else interval.low * scale < point && point < interval.high * scale

/-- The point of the grid `10 ^ power` that reads back and is nearest to the value, if the grid has one;
of two equally near ones the even one. -/
def RoundingInterval.onGrid? (interval : RoundingInterval) (power : Int) : Option Scientific :=
  let up := if power ≥ 0 then Nat.pow 10 power.toNat else 1
  let scale := if power ≥ 0 then 1 else Nat.pow 10 (-power).toNat
  -- the value is `value * scale / (denominator * up)` grid steps above zero
  let dividend := interval.value * scale
  let divisor := interval.denominator * up
  let below := dividend / divisor
  let rest := 2 * (dividend % divisor)
  let lower := below != 0 && interval.contains (below * up) scale
  let upper := interval.contains ((below + 1) * up) scale
  let takeLower := lower && (!upper || rest < divisor || (rest == divisor && below % 2 == 0))
  if takeLower then some ⟨below, power⟩
  else if upper then some ⟨below + 1, power⟩
  else none

def digitCount (value : Nat) : Nat :=
  (Nat.toDigits 10 value).length

/-- Tries the grids from `power` down, `places` of them. -/
def RoundingInterval.search (interval : RoundingInterval) : Nat → Int → Option Scientific
  | 0, _ => none
  | places + 1, power => (interval.onGrid? power).or (interval.search places (power - 1))

/-- The power of ten of the leading digit, or one more. -/
def RoundingInterval.magnitude (interval : RoundingInterval) : Int :=
  (digitCount interval.value : Int) - (digitCount interval.denominator : Int)

/-- Takes trailing zeros off, at most `fuel` of them. -/
def Scientific.strip : Nat → Scientific → Scientific
  | 0, number => number
  | fuel + 1, number =>
    if number.digits != 0 && number.digits % 10 == 0 then
      strip fuel ⟨number.digits / 10, number.power + 1⟩
    else number

/-- The shortest decimal that reads back as the double (its sign left aside). -/
def Binary64.shortest (number : Binary64) : Scientific :=
  if number.significand == 0 then ⟨0, 0⟩
  else
    let interval := number.roundingInterval
    ((interval.search 20 interval.magnitude).getD ⟨0, 0⟩).strip 400

/-- How the digits of a number are laid out. `point` is the position of the decimal point relative to
the first digit: positional notation is used where `positionalFrom ≤ point ≤ positionalTo`. -/
structure Layout where
  positionalFrom : Option Int
  positionalTo : Option Int
  exponentSign : Bool

def zeros (count : Nat) : String :=
  String.ofList (List.replicate count '0')

/-- The digits with a decimal point and at least one digit on each side of it. -/
def positional (digits : String) (power : Int) : String :=
  let count := digits.length
  let point : Int := count + power
  if power ≥ 0 then digits ++ zeros power.toNat ++ ".0"
  else if point > 0 then
    String.ofList (digits.toList.take point.toNat) ++ "." ++
      String.ofList (digits.toList.drop point.toNat)
  else "0." ++ zeros (-point).toNat ++ digits

/-- One digit, the others after a point, and the power of ten of the first. -/
def exponential (layout : Layout) (digits : String) (power : Int) : String :=
  let exponent : Int := digits.length + power - 1
  let mantissa :=
    match digits.toList with
    | first :: second :: rest => String.ofList (first :: '.' :: second :: rest)
    | short => String.ofList short
  let sign := if exponent < 0 then "-" else if layout.exponentSign then "+" else ""
  mantissa ++ "e" ++ sign ++ toString exponent.natAbs

def Binary64.render (layout : Layout) (number : Binary64) : String :=
  let short := number.shortest
  let digits := toString short.digits
  let point : Int := digits.length + short.power
  let isPositional :=
    number.significand == 0 ||
      (layout.positionalFrom.all (· ≤ point) && layout.positionalTo.all (point ≤ ·))
  (if number.negative then "-" else "") ++
    (if isPositional then positional digits short.power else exponential layout digits short.power)

/-- Every digit written out, however large or small the number. -/
def Layout.plain : Layout := ⟨none, none, false⟩

example : (nearest false 1 10).map (·.shortest) = some ⟨1, -1⟩ := by decide +kernel
example : (⟨false, 1, -1074⟩ : Binary64).shortest = ⟨5, -324⟩ := by decide +kernel

end LedgerCapture.Decimal
