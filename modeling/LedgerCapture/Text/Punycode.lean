/-!
Text beyond ASCII written in ASCII, as in names of hosts: the ASCII characters first, then where the
others belong. These are put in by ascending code point, each told by its distance from the one before.
-/
namespace LedgerCapture.Text.Punycode

def digit (value : Nat) : Char :=
  Char.ofNat (if value < 26 then 97 + value else 22 + value)

/-- The least digit at a place that is not the last one. -/
def threshold (bias place : Nat) : Nat :=
  max 1 (min 26 (place - bias))

/-- A distance in digits, the least one first. -/
def digits (bias place distance : Nat) : List Char :=
  if distance < threshold bias place then [digit distance]
  else
    let rest := distance - threshold bias place
    let base := 36 - threshold bias place
    digit (threshold bias place + rest % base) :: digits bias (place + 36) (rest / base)
termination_by distance
decreasing_by
  have : 1 ≤ threshold bias place := Nat.le_max_left _ _
  exact Nat.lt_of_le_of_lt (Nat.div_le_self _ _) (by omega)

def biasFor (place distance : Nat) : Nat :=
  if 455 < distance then biasFor (place + 36) (distance / 35)
  else place + 36 * distance / (distance + 38)
termination_by distance
decreasing_by exact Nat.div_lt_self (by omega) (by omega)

/-- The bias after a distance, when `count` characters are in place. The first distance is larger than others. -/
def adapt (distance count : Nat) (isFirst : Bool) : Nat :=
  let scaled := if isFirst then distance / 700 else distance / 2
  biasFor 0 (scaled + scaled / count)

/-- What is written so far, the distance from the last character put in, and how many are in place. -/
structure Progress where
  written : List Char
  distance : Nat
  bias : Nat
  count : Nat

/-- Passes a character of the text while those with code point `point` are put in. -/
def Progress.pass (basicCount point : Nat) (progress : Progress) (c : Char) : Progress :=
  if c.toNat < point then { progress with distance := progress.distance + 1 }
  else if c.toNat = point then
    { written := progress.written ++ digits progress.bias 36 progress.distance
      distance := 0
      bias := adapt progress.distance (progress.count + 1) (progress.count == basicCount)
      count := progress.count + 1 }
  else progress

/-- Puts in the characters with each of the code points, `least` being the first one still open. -/
def Progress.putIn (text : List Char) (basicCount : Nat) : Nat → Progress → List Nat → Progress
  | _, progress, [] => progress
  | least, progress, point :: rest =>
    let skipped := (point - least) * (progress.count + 1)
    let passed := text.foldl (Progress.pass basicCount point)
      { progress with distance := progress.distance + skipped }
    putIn text basicCount (point + 1) { passed with distance := passed.distance + 1 } rest

def insertPoint (point : Nat) : List Nat → List Nat
  | [] => [point]
  | least :: rest =>
    if point < least then point :: least :: rest
    else if point = least then least :: rest
    else least :: insertPoint point rest

def encode (text : List Char) : List Char :=
  let basic := text.filter (·.toNat < 128)
  let points := ((text.filter (128 ≤ ·.toNat)).map Char.toNat).foldr insertPoint []
  let start := if basic.isEmpty then [] else basic ++ ['-']
  (Progress.putIn text basic.length 128 ⟨start, 0, 72, basic.length⟩ points).written

example : String.ofList (encode ['é']) = "9ca" := by decide +kernel
example : String.ofList (encode "bücher".toList) = "bcher-kva" := by decide +kernel
example : String.ofList (encode "日本語".toList) = "wgv71a119e" := by decide +kernel

end LedgerCapture.Text.Punycode
