/-!
Blank characters, the White_Space property of Unicode, and trimming. Every text the tool quotes in
a message or reads from a program is trimmed with this rule.
-/
namespace LedgerCapture.Text

/-- A blank character: White_Space of the Unicode standard. -/
def isBlank (c : Char) : Bool :=
  let n := c.toNat
  (0x09 ≤ n && n ≤ 0x0D) || n == 0x20 || n == 0x85 || n == 0xA0 || n == 0x1680 ||
    (0x2000 ≤ n && n ≤ 0x200A) || n == 0x2028 || n == 0x2029 || n == 0x202F || n == 0x205F ||
    n == 0x3000

def trimChars (chars : List Char) : List Char :=
  ((chars.dropWhile isBlank).reverse.dropWhile isBlank).reverse

def trim (text : String) : String :=
  String.ofList (trimChars text.toList)

def isBlankText (text : String) : Bool :=
  text.toList.all isBlank

theorem trimChars_eq_nil {chars : List Char} (blank : chars.all isBlank = true) :
    trimChars chars = [] := by
  have : chars.dropWhile isBlank = [] := by
    induction chars with
    | nil => rfl
    | cons c rest ih =>
      simp only [List.all_cons, Bool.and_eq_true] at blank
      simp [blank.1, ih blank.2]
  simp [trimChars, this]

end LedgerCapture.Text
