/-!
The hash function Keccak with 256 bits of output: a sponge that takes in 136 bytes at a time. The state
is 25 words of 64 bits, the word in column x and row y at position x + 5 y.
-/
namespace LedgerCapture.Keccak

abbrev State := Array UInt64

/-- The word in a column and a row, both counted round. -/
def word (state : State) (x y : Nat) : UInt64 :=
  state.getD (x % 5 + 5 * (y % 5)) 0

def build (value : Nat → Nat → UInt64) : State :=
  ((List.range 25).map fun i => value (i % 5) (i / 5)).toArray

def rotateLeft (value : UInt64) (count : Nat) : UInt64 :=
  (value <<< UInt64.ofNat count) ||| (value >>> UInt64.ofNat (64 - count))

/-- How far the words are rotated, row by row. -/
def rotations : List Nat :=
  [0, 1, 62, 28, 27, 36, 44, 6, 55, 20, 3, 10, 43, 25, 39, 41, 45, 15, 21, 8, 18, 2, 61, 56, 14]

def roundConstants : List UInt64 := [
  0x0000000000000001, 0x0000000000008082, 0x800000000000808A, 0x8000000080008000,
  0x000000000000808B, 0x0000000080000001, 0x8000000080008081, 0x8000000000008009,
  0x000000000000008A, 0x0000000000000088, 0x0000000080008009, 0x000000008000000A,
  0x000000008000808B, 0x800000000000008B, 0x8000000000008089, 0x8000000000008003,
  0x8000000000008002, 0x8000000000000080, 0x000000000000800A, 0x800000008000000A,
  0x8000000080008081, 0x8000000000008080, 0x0000000080000001, 0x8000000080008008]

/-- Adds to each word the parities of two neighbouring columns. -/
def mixColumns (state : State) : State :=
  let parity := fun x => word state x 0 ^^^ word state x 1 ^^^ word state x 2 ^^^ word state x 3 ^^^ word state x 4
  let parities := ((List.range 5).map parity).toArray
  build fun x y =>
    word state x y ^^^ parities.getD ((x + 4) % 5) 0 ^^^ rotateLeft (parities.getD ((x + 1) % 5) 0) 1

/-- Rotates the words and moves them: the one in column x and row y goes to column y, row 2x + 3y. -/
def moveWords (state : State) : State :=
  build fun x y =>
    rotateLeft (word state (x + 3 * y) x) (rotations.getD ((x + 3 * y) % 5 + 5 * x) 0)

/-- Combines each word with the two behind it in its row. -/
def mixRows (state : State) : State :=
  build fun x y => word state x y ^^^ ((~~~ word state (x + 1) y) &&& word state (x + 2) y)

def round (state : State) (constant : UInt64) : State :=
  (mixRows (moveWords (mixColumns state))).modify 0 (· ^^^ constant)

def permute (state : State) : State :=
  roundConstants.foldl round state

/-- The number of bytes that are taken in at a time. -/
def rate : Nat := 136

/-- The word that eight bytes are, the least significant first. -/
def littleEndian (bytes : List UInt8) : UInt64 :=
  bytes.foldr (fun byte value => (value <<< 8) ||| byte.toUInt64) 0

def absorb (state : State) (block : List UInt8) : State :=
  let words := (List.range 17).map fun i => littleEndian ((block.drop (8 * i)).take 8)
  permute (build fun x y => word state x y ^^^ words.getD (x + 5 * y) 0)

def pad (message : List UInt8) : List UInt8 :=
  let missing := rate - message.length % rate
  if missing == 1 then message ++ [0x81]
  else message ++ 0x01 :: List.replicate (missing - 2) 0 ++ [0x80]

def absorbAll (state : State) : Nat → List UInt8 → State
  | 0, _ => state
  | count + 1, bytes => absorbAll (absorb state (bytes.take rate)) count (bytes.drop rate)

/-- The bytes of a word, the least significant first. -/
def wordBytes (value : UInt64) : List UInt8 :=
  (List.range 8).map fun i => (value >>> UInt64.ofNat (8 * i)).toUInt8

def hash256 (message : List UInt8) : List UInt8 :=
  let padded := pad message
  let state := absorbAll (Array.replicate 25 0) (padded.length / rate) padded
  (List.range 4).flatMap fun i => wordBytes (word state i 0)

def hexText (bytes : List UInt8) : String :=
  String.ofList (bytes.flatMap fun byte =>
    [Nat.digitChar (byte.toNat / 16), Nat.digitChar (byte.toNat % 16)])

end LedgerCapture.Keccak
