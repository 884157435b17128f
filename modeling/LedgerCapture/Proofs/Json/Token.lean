import LedgerCapture.Proofs.Json.Grammar

/-!
How a text is cut into tokens. What is in the grammar is cut in one way whatever stands behind it; only a number
could run into more digits, so something that stops it has to follow.
-/
namespace LedgerCapture.Json

open Grammar

theorem tokensFrom_eq (done : List Token) (text : List Char) :
    tokensFrom done text = done.reverse ++ tokens text := by
  -- On the length, since a token may take more than one character.
  induction length : text.length using Nat.strongRecOn generalizing done text with
  | ind length ih =>
    cases text with
    | nil => simp [tokens, tokensFrom]
    | cons c rest =>
      subst length
      rw [tokens, tokensFrom, tokensFrom]
      split
      · exact ih _ (Nat.lt_succ_self _) done rest rfl
      · have shorter := Nat.lt_succ_of_le (length_tokenAt_le c rest)
        rw [ih _ shorter _ _ rfl, ih _ shorter [_] _ rfl]
        simp

theorem tokens_nil : tokens [] = [] := by
  rw [tokens, tokensFrom, List.reverse_nil]

theorem tokens_space {c : Char} (space : isSpace c = true) (rest : List Char) :
    tokens (c :: rest) = tokens rest := by
  rw [tokens, tokensFrom, if_pos space, tokens]

theorem tokens_cons {c : Char} (other : isSpace c = false) (rest : List Char) :
    tokens (c :: rest) = (tokenAt c rest).1 :: tokens (tokenAt c rest).2 := by
  rw [tokens, tokensFrom, if_neg (by simp [other]), tokensFrom_eq]
  rfl

/-! ### Pieces of a text -/

/-- What may follow a number without becoming a part of it. -/
def Stops (text : List Char) : Prop :=
  ∀ c, text.head? = some c → isDigit c = false ∧ c ≠ '.' ∧ c ≠ 'e' ∧ c ≠ 'E'

def Anything (_ : List Char) : Prop :=
  True

theorem Stops.nil : Stops [] := by
  intro c same
  cases same

theorem Stops.gap {gap : List Char} (isGap : IsGap gap) {more : List Char} (stops : Stops more) :
    Stops (gap ++ more) := by
  cases gap with
  | nil => exact stops
  | cons c rest =>
    intro d same
    cases same
    have space := isGap c (List.mem_cons_self ..)
    simp only [isSpace, Bool.or_eq_true, decide_eq_true_eq] at space
    rcases space with ((rfl | rfl) | rfl) | rfl <;> decide

/-- A mark between values. -/
theorem Stops.mark {c : Char} (known : c ∈ [',', ']', '\x7d', ':']) (more : List Char) : Stops (c :: more) := by
  intro d same
  cases same
  simp only [List.mem_cons, List.not_mem_nil, or_false] at known
  rcases known with rfl | rfl | rfl | rfl <;> decide

/-- The text is cut into these tokens, whatever follows of the given kind. -/
def Cuts (follow : List Char → Prop) (text : List Char) (found : List Token) : Prop :=
  ∀ more, follow more → tokens (text ++ more) = found ++ tokens more

namespace Cuts

variable {follow : List Char → Prop} {left right text : List Char} {found more : List Token}

theorem weaken (cuts : Cuts Anything text found) : Cuts follow text found :=
  fun more _ => cuts more trivial

theorem append (cuts : Cuts Stops left found) (cutsMore : Cuts follow right more)
    (stops : ∀ rest, follow rest → Stops (right ++ rest)) : Cuts follow (left ++ right) (found ++ more) := by
  intro rest follows
  rw [List.append_assoc, cuts _ (stops rest follows), cutsMore rest follows, List.append_assoc]

theorem gap {gap : List Char} (isGap : IsGap gap) : Cuts Anything gap [] := by
  intro more _
  induction gap with
  | nil => rfl
  | cons c rest ih =>
    rw [List.cons_append, tokens_space (isGap c (List.mem_cons_self ..))]
    exact ih fun d member => isGap d (List.mem_cons_of_mem _ member)

theorem of_tokenAt {c : Char} {token : Token} (other : isSpace c = false)
    (read : ∀ more, follow more → tokenAt c (text ++ more) = (token, more)) : Cuts follow (c :: text) [token] := by
  intro more follows
  rw [List.cons_append, tokens_cons other, read more follows]
  rfl

/-- A bracket, a comma or a colon in front of what is cut already. -/
theorem mark {c : Char} {token : Token} (other : isSpace c = false) (read : ∀ rest, tokenAt c rest = (token, rest))
    (cuts : Cuts follow text found) : Cuts follow (c :: text) (token :: found) := by
  intro more follows
  rw [List.cons_append, tokens_cons other, read, cuts more follows]
  rfl

theorem literalNull : Cuts Anything ['n', 'u', 'l', 'l'] [.literal (.ok .null)] :=
  of_tokenAt rfl fun _ _ => rfl

theorem literalTrue : Cuts Anything ['t', 'r', 'u', 'e'] [.literal (.ok (.boolean true))] :=
  of_tokenAt rfl fun _ _ => rfl

theorem literalFalse : Cuts Anything ['f', 'a', 'l', 's', 'e'] [.literal (.ok (.boolean false))] :=
  of_tokenAt rfl fun _ _ => rfl

end Cuts

end LedgerCapture.Json
