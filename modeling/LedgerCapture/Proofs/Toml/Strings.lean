import LedgerCapture.Proofs.Toml.Lines

/-!
How much of the text a string takes. Reading only goes forward, and a string takes at least as many characters as it
has, with its quotation marks besides. On one line it takes no more than these only if it means itself.
-/
namespace LedgerCapture.Toml

section Skipping

variable {text rest : List Char}

theorem skipBlanks_suffix (text : List Char) : skipBlanks text <:+ text :=
  List.dropWhile_suffix _

theorem skipComment_suffix (text : List Char) : skipComment text <:+ text := by
  unfold skipComment
  split
  · exact (List.dropWhile_suffix _).trans (List.suffix_cons _ _)
  · exact List.suffix_refl _

theorem afterNewline?_suffix (found : afterNewline? text = some rest) : rest <:+ text := by
  unfold afterNewline? at found
  split at found
  · cases found
    exact List.suffix_cons _ _
  · cases found
    exact (List.suffix_cons _ _).trans (List.suffix_cons _ _)
  · cases found

theorem afterLine?_suffix (found : afterLine? text = some rest) : rest <:+ text := by
  unfold afterLine? at found
  split at found
  · cases found
    exact List.nil_suffix
  · exact ((afterNewline?_suffix found).trans (skipComment_suffix _)).trans (skipBlanks_suffix _)

theorem skipLines_suffix (fuel : Nat) (text : List Char) : skipLines fuel text <:+ text := by
  induction fuel generalizing text with
  | zero => exact List.suffix_refl _
  | succ fuel ih =>
    have line : skipComment (skipBlanks text) <:+ text := (skipComment_suffix _).trans (skipBlanks_suffix _)
    rw [skipLines]
    split
    · next found => exact ((ih _).trans (afterNewline?_suffix found)).trans line
    · exact line

theorem dropFirstNewline_suffix (text : List Char) : dropFirstNewline text <:+ text := by
  unfold dropFirstNewline
  cases found : afterNewline? text with
  | none => exact List.suffix_refl _
  | some rest => exact afterNewline?_suffix found

end Skipping

/-! ### Escapes -/

section Escapes

variable {c : Char} {text rest : List Char}

theorem not_newline_of_mapM_hexValue? {text : List Char} {digits : List Nat}
    (read : text.mapM Json.hexValue? = some digits) : '\n' ∉ text := by
  induction text generalizing digits with
  | nil =>
    exact List.not_mem_nil
  | cons c text ih =>
    simp only [List.mapM_cons, Option.bind_eq_bind, Option.bind_eq_some_iff] at read
    obtain ⟨digit, here, digits, behind, -⟩ := read
    have notNewline : '\n' ≠ c := by
      rintro rfl
      cases here
    simp [notNewline, ih behind]

theorem codePoint?_extent {count : Nat} (found : codePoint? count text = some (c, rest)) :
    ∃ digits, text = digits ++ rest ∧ '\n' ∉ digits := by
  simp only [codePoint?, Option.bind_eq_bind, Option.bind_eq_some_iff] at found
  obtain ⟨values, read, found⟩ := found
  split at found
  · cases found
    exact ⟨text.take count, (List.take_append_drop count text).symm, not_newline_of_mapM_hexValue? read⟩
  · cases found

theorem escape?_extent (found : escape? text = some (c, rest)) :
    ∃ written, text = written ++ rest ∧ written ≠ [] ∧ '\n' ∉ written := by
  have letter (d : Char) (other : d ≠ '\n') : ∃ written, d :: rest = written ++ rest ∧ written ≠ [] ∧ '\n' ∉ written :=
    ⟨[d], rfl, List.cons_ne_nil _ _, by simpa using other.symm⟩
  have point {d : Char} {text : List Char} {count : Nat} (other : d ≠ '\n')
      (found : codePoint? count text = some (c, rest)) :
      ∃ written, d :: text = written ++ rest ∧ written ≠ [] ∧ '\n' ∉ written := by
    obtain ⟨digits, rfl, inside⟩ := codePoint?_extent found
    exact ⟨d :: digits, rfl, List.cons_ne_nil _ _, by simpa [inside] using other.symm⟩
  unfold escape? at found
  split at found
  · cases found; exact letter _ (by decide)
  · cases found; exact letter _ (by decide)
  · cases found; exact letter _ (by decide)
  · cases found; exact letter _ (by decide)
  · cases found; exact letter _ (by decide)
  · cases found; exact letter _ (by decide)
  · cases found; exact letter _ (by decide)
  · cases found; exact letter _ (by decide)
  · exact point (by decide) found
  · exact point (by decide) found
  · exact point (by decide) found
  · cases found

end Escapes

/-! ### Strings -/

section Strings

variable {quote : Char} {done text rest : List Char} {fuel : Nat} {content : String}

/-- A string on one line. It has fewer characters than stand between its marks if one of them is part of an escape. -/
theorem basicString_extent (found : basicString done fuel text = some (content, rest)) :
    ∃ inside, text = inside ++ '"' :: rest ∧ '\n' ∉ inside ∧ content.toList.length ≤ done.length + inside.length ∧
      (content.toList.length = done.length + inside.length →
        content.toList = done.reverse ++ inside ∧ IsInert inside) := by
  induction fuel generalizing done text with
  | zero => cases found
  | succ fuel ih =>
    unfold basicString at found
    split at found
    · cases found
    · cases found
      exact ⟨[], rfl, List.not_mem_nil, by simp, fun _ => ⟨by simp, nofun⟩⟩
    · next escaped =>
      simp only [Option.bind_eq_bind, Option.bind_eq_some_iff] at found
      obtain ⟨⟨c, behind⟩, escape, found⟩ := found
      obtain ⟨written, rfl, some, sameLine⟩ := escape?_extent escape
      obtain ⟨inside, rfl, inLine, bound, -⟩ := ih found
      have positive := List.length_pos_iff.mpr some
      refine ⟨'\\' :: (written ++ inside), by simp, by simp [sameLine, inLine], ?_, ?_⟩
      · simp only [List.length_cons, List.length_append] at bound ⊢
        omega
      · intro same
        simp only [List.length_cons, List.length_append] at bound same
        omega
    · next c more notQuote notBackslash =>
      split at found
      · next plain =>
        obtain ⟨inside, rfl, inLine, bound, exact⟩ := ih found
        have notNewline : '\n' ≠ c := by
          rintro rfl
          exact absurd plain (by decide)
        refine ⟨c :: inside, rfl, by simp [inLine, notNewline], ?_, ?_⟩
        · simp only [List.length_cons] at bound ⊢
          omega
        · intro same
          simp only [List.length_cons] at exact same
          obtain ⟨content, inert⟩ := exact (by omega)
          refine ⟨by simp [content], ?_⟩
          intro d member
          rcases List.mem_cons.mp member with rfl | member
          · exact ⟨plain, fun same => notQuote same, fun same => notBackslash same⟩
          · exact inert d member
      · cases found

theorem literalString_extent (found : literalString text = some (content, rest)) :
    ∃ inside, text = inside ++ '\'' :: rest ∧ content.toList = inside := by
  unfold literalString at found
  dsimp only at found
  split at found
  · next ended =>
    cases found
    refine ⟨_, ?_, String.toList_ofList⟩
    rw [← ended, List.takeWhile_append_dropWhile]
  · cases found

theorem closingQuotes_extent (found : closingQuotes quote done text = some (some (content, rest))) :
    ∃ inside, text = inside ++ quote :: quote :: quote :: rest ∧
      content.toList.length = done.length + inside.length := by
  unfold closingQuotes at found
  dsimp only at found
  split at found
  · cases found
  · split at found
    · cases found
    · next enough few =>
      simp only [Option.some.injEq, Prod.mk.injEq] at found
      obtain ⟨rfl, rfl⟩ := found
      have marks : text.takeWhile (· == quote) =
          List.replicate ((text.takeWhile (· == quote)).length - 3) quote ++ [quote, quote, quote] := by
        rw [show [quote, quote, quote] = List.replicate 3 quote from rfl, List.replicate_append_replicate,
          Nat.sub_add_cancel (by omega), List.eq_replicate_iff]
        exact ⟨rfl, fun c member => by simpa using List.mem_takeWhile_imp member⟩
      refine ⟨List.replicate ((text.takeWhile (· == quote)).length - 3) quote, ?_, ?_⟩
      · calc text
          _ = text.takeWhile (· == quote) ++ text.dropWhile (· == quote) := List.takeWhile_append_dropWhile.symm
          _ = _ := by rw [Config.drop_length_takeWhile, marks]; simp
      · simp

theorem continuedLine?_suffix (found : continuedLine? fuel text = some rest) : rest <:+ text := by
  have go (fuel : Nat) (text : List Char) : continuedLine?.go fuel text <:+ text := by
    induction fuel generalizing text with
    | zero => exact List.suffix_refl _
    | succ fuel ih =>
      rw [continuedLine?.go]
      split
      · next found => exact ((ih _).trans (afterNewline?_suffix found)).trans (skipBlanks_suffix _)
      · exact skipBlanks_suffix _
  obtain ⟨behind, ended, rfl⟩ := Option.map_eq_some_iff.mp found
  exact ((go fuel behind).trans (afterNewline?_suffix ended)).trans (skipBlanks_suffix _)

/-- A string over several lines. Whatever stands in front of the three marks that end it, there is at least as much of
it as of what it means. -/
theorem longString_extent (found : longString quote done fuel text = some (content, rest)) :
    ∃ inside, text = inside ++ quote :: quote :: quote :: rest ∧
      content.toList.length ≤ done.length + inside.length := by
  induction fuel generalizing done text with
  | zero => cases found
  | succ fuel ih =>
    unfold longString at found
    split at found
    · next ended =>
      subst found
      obtain ⟨inside, rfl, length⟩ := closingQuotes_extent ended
      exact ⟨inside, rfl, Nat.le_of_eq length⟩
    · split at found
      · cases found
      · obtain ⟨inside, rfl, bound⟩ := ih found
        exact ⟨_ :: _ :: inside, rfl, by simp only [List.length_cons] at bound ⊢; omega⟩
      · split at found
        · split at found
          · next behind continued =>
            obtain ⟨skipped, rfl⟩ := continuedLine?_suffix continued
            obtain ⟨inside, rfl, bound⟩ := ih found
            refine ⟨'\\' :: (skipped ++ inside), by simp, ?_⟩
            simp only [List.length_cons, List.length_append]
            omega
          · simp only [Option.bind_eq_bind, Option.bind_eq_some_iff] at found
            obtain ⟨⟨c, behind⟩, escape, found⟩ := found
            obtain ⟨written, rfl, -, -⟩ := escape?_extent escape
            obtain ⟨inside, rfl, bound⟩ := ih found
            refine ⟨'\\' :: (written ++ inside), by simp, ?_⟩
            simp only [List.length_cons, List.length_append] at bound ⊢
            omega
        · obtain ⟨inside, rfl, bound⟩ := ih found
          exact ⟨_ :: inside, rfl, by simp only [List.length_cons] at bound ⊢; omega⟩
      · split at found
        · obtain ⟨inside, rfl, bound⟩ := ih found
          exact ⟨_ :: inside, rfl, by simp only [List.length_cons] at bound ⊢; omega⟩
        · cases found

theorem longString_behind_newline {more : List Char}
    (found : longString quote [] fuel (dropFirstNewline more) = some (content, rest)) :
    ∃ front, more = front ++ quote :: quote :: quote :: rest ∧ content.toList.length ≤ front.length := by
  obtain ⟨inside, same, bound⟩ := longString_extent found
  obtain ⟨newline, cut⟩ := dropFirstNewline_suffix more
  refine ⟨newline ++ inside, by rw [← cut, same, List.append_assoc], ?_⟩
  simp only [List.length_nil, List.length_append] at bound ⊢
  omega

/-- A string of any kind takes two marks more than it has characters. -/
theorem stringValue_extent (found : stringValue fuel text = some (content, rest)) :
    ∃ written, text = written ++ rest ∧ content.toList.length + 2 ≤ written.length := by
  have long {quote : Char} {more : List Char}
      (found : longString quote [] fuel (dropFirstNewline more) = some (content, rest)) :
      ∃ written, quote :: quote :: quote :: more = written ++ rest ∧ content.toList.length + 2 ≤ written.length := by
    obtain ⟨front, rfl, bound⟩ := longString_behind_newline found
    refine ⟨quote :: quote :: quote :: (front ++ [quote, quote, quote]), by simp, ?_⟩
    simp only [List.length_cons, List.length_append]
    omega
  unfold stringValue at found
  split at found
  · exact long found
  · exact long found
  · obtain ⟨inside, rfl, -, bound, -⟩ := basicString_extent found
    refine ⟨'"' :: (inside ++ ['"']), by simp, ?_⟩
    simp only [List.length_nil, List.length_cons, List.length_append] at bound ⊢
    omega
  · obtain ⟨inside, rfl, rfl⟩ := literalString_extent found
    exact ⟨'\'' :: (content.toList ++ ['\'']), by simp, by simp⟩
  · cases found

/-! ### Texts between marks -/

/-- A text in front of a mark and a line end is read as it is on one line only if it means itself. -/
theorem isInert_of_basicString {more : List Char}
    (found : basicString [] fuel (text ++ '"' :: '\n' :: more) = some (content, rest)) (same : content.toList = text) :
    IsInert text := by
  obtain ⟨inside, cut, inLine, bound, exact⟩ := basicString_extent found
  rw [same, List.length_nil, Nat.zero_add] at bound exact
  have whole : inside = text := by
    rcases List.append_eq_append_iff.mp cut with ⟨further, rfl, ends⟩ | ⟨further, rfl, -⟩
    · cases further with
      | nil => exact List.append_nil text
      | cons mark further =>
        -- the string goes on behind the mark, so it has the line end in it
        have ends := (List.cons.inj ends).2
        cases further with
        | nil => cases ends
        | cons newline further =>
          rw [← (List.cons.inj ends).1] at inLine
          exact absurd (by simp) inLine
    · rw [List.length_append] at bound
      have nothing : further = [] := List.eq_nil_of_length_eq_zero (by omega)
      rw [nothing, List.append_nil]
  rw [← whole]
  exact (exact (by rw [whole])).2

/-- A text between quotation marks is read as it is only if it means itself, unless the string ends inside `back`: no
three marks follow each other before that. -/
theorem isInert_of_stringValue {middle back : List Char} (apart : ¬ ['"', '"', '"'] <:+: middle)
    (found : stringValue fuel ('"' :: (text ++ '"' :: '\n' :: (middle ++ back))) = some (content, rest))
    (same : content.toList = text) (early : back.length ≤ rest.length) : IsInert text := by
  unfold stringValue at found
  split at found
  · next opened =>
    exfalso
    obtain ⟨front, cut, bound⟩ := longString_behind_newline found
    rw [cut] at opened
    have start : ('"' :: text ++ ['"', '\n']) ++ (middle ++ back) =
        ('"' :: '"' :: '"' :: front) ++ ('"' :: '"' :: '"' :: rest) := by simpa using opened
    have ending : ∃ further, middle ++ back = (further ++ ['"', '"', '"']) ++ rest := by
      rcases List.append_eq_append_iff.mp start with ⟨further, -, behind⟩ | ⟨further, shorter, behind⟩
      · exact ⟨further, by rw [behind]; simp⟩
      · have lengths := congrArg List.length shorter
        simp only [List.length_append, List.length_cons, List.length_nil, same] at lengths bound
        have nothing : further = [] := List.eq_nil_of_length_eq_zero (by omega)
        rw [nothing] at behind
        exact ⟨[], behind.symm⟩
    obtain ⟨further, ending⟩ := ending
    rcases List.append_eq_append_iff.mp ending with ⟨more, longer, ends⟩ | ⟨more, inside, -⟩
    · have lengths := congrArg List.length ends
      rw [List.length_append] at lengths
      have nothing : more = [] := List.eq_nil_of_length_eq_zero (by omega)
      rw [nothing, List.append_nil] at longer
      exact apart ⟨further, [], by rw [longer, List.append_nil]⟩
    · exact apart ⟨further, more, inside.symm⟩
  · next opened => cases opened
  · next opened =>
    rw [← (List.cons.inj opened).2] at found
    exact isInert_of_basicString found same
  · next opened => cases opened
  · cases found

end Strings

end LedgerCapture.Toml
