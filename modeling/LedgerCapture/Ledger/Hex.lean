/-!
Hexadecimal identifiers as programs print them: digits behind a `0x` mark, which may be missing or
written with a capital letter.
-/
namespace LedgerCapture.Ledger

def dropHexMark (text : List Char) : List Char :=
  match text with
  | '0' :: 'x' :: digits => digits
  | '0' :: 'X' :: digits => digits
  | digits => digits

def hasHexMark (text : List Char) : Bool :=
  match text with
  | '0' :: 'x' :: _ => true
  | '0' :: 'X' :: _ => true
  | _ => false

def withoutHexMark (text : String) : String :=
  String.ofList (dropHexMark text.toList)

/-- The text with a mark, its own if it has one. -/
def withHexMark (text : String) : String :=
  if hasHexMark text.toList then text else "0x" ++ text

/-- The mark and eight digits of an identifier, enough to tell it from others; what is shorter is kept. -/
def abbreviate (text : String) : String :=
  let chars := text.toList
  if (chars.drop 10).isEmpty then text else String.ofList (chars.take 10) ++ ".."

def isHexDigit (c : Char) : Bool :=
  ('0' ≤ c && c ≤ '9') || ('a' ≤ c && c ≤ 'f') || ('A' ≤ c && c ≤ 'F')

def isLowerHexDigit (c : Char) : Bool :=
  ('0' ≤ c && c ≤ '9') || ('a' ≤ c && c ≤ 'f')

def lowerHexDigit (c : Char) : Char :=
  if 'A' ≤ c && c ≤ 'F' then Char.ofNat (c.toNat + 32) else c

theorem toNat_lt_of_isHexDigit {c : Char} (digit : isHexDigit c = true) : c.toNat < 128 := by
  simp only [isHexDigit, Bool.or_eq_true, Bool.and_eq_true, decide_eq_true_eq] at digit
  rcases digit with (⟨_, upper⟩ | ⟨_, upper⟩) | ⟨_, upper⟩ <;>
    exact Nat.lt_of_le_of_lt (show c.toNat ≤ _ from upper) (by decide)

theorem isLowerHexDigit_lowerHexDigit {c : Char} (digit : isHexDigit c = true) :
    isLowerHexDigit (lowerHexDigit c) = true := by
  have all : ∀ n : Fin 128, isHexDigit (Char.ofNat n) = true →
      isLowerHexDigit (lowerHexDigit (Char.ofNat n)) = true := by decide
  have := all ⟨c.toNat, toNat_lt_of_isHexDigit digit⟩
  simp only [Char.ofNat_toNat] at this
  exact this digit

end LedgerCapture.Ledger
