import LedgerCapture.Proofs.Decimal.Integer
import LedgerCapture.Proofs.Json.Token

/-!
Numbers and strings as single tokens. A number ends before what cannot go on with it, and a string with the
first quote that is not escaped.
-/
namespace LedgerCapture.Json

open Grammar

/-! ### Numbers -/

theorem takeWhile_digits {digits rest : List Char} (all : ∀ c ∈ digits, isDigit c = true)
    (stop : ∀ c, rest.head? = some c → isDigit c = false) :
    (digits ++ rest).takeWhile isDigit = digits ∧ (digits ++ rest).dropWhile isDigit = rest := by
  have none : rest.takeWhile isDigit = [] ∧ rest.dropWhile isDigit = rest := by
    cases rest with
    | nil => exact ⟨rfl, rfl⟩
    | cons c tail => simp [stop c rfl]
  rw [List.takeWhile_append_of_pos all, List.dropWhile_append_of_pos all, none.1, none.2]
  exact ⟨List.append_nil _, rfl⟩

theorem scanExponent_stops {more : List Char} (stops : Stops more) (soFar : NumberText) :
    scanExponent soFar more = .ok (soFar, more) := by
  cases more with
  | nil => rfl
  | cons c rest =>
    obtain ⟨-, -, small, capital⟩ := stops c rfl
    rw [scanExponent, if_neg (not_or_intro small capital)]

theorem scanExponent_eq {text : List Char} (isExponent : IsExponent text) (soFar : NumberText) :
    ∃ found, ∀ more, Stops more → scanExponent soFar (text ++ more) = .ok (found, more) := by
  cases isExponent with
  | absent => exact ⟨soFar, fun more stops => scanExponent_stops stops soFar⟩
  | @present mark sign digits marked signed isDigits =>
    have sign_eq : ∃ negative, ∀ rest, exponentSign (sign ++ (digits ++ rest)) = (negative, digits ++ rest) := by
      rcases signed with rfl | rfl | rfl
      · obtain ⟨d, tail, rfl⟩ := List.exists_cons_of_ne_nil isDigits.1
        have digit := isDigits.2 d (List.mem_cons_self ..)
        refine ⟨false, fun rest => ?_⟩
        rw [List.nil_append, List.cons_append]
        unfold exponentSign
        split
        case h_1 same => cases same; cases digit
        case h_2 same => cases same; cases digit
        case h_3 => rfl
      · exact ⟨false, fun rest => rfl⟩
      · exact ⟨true, fun rest => rfl⟩
    obtain ⟨negative, signs⟩ := sign_eq
    refine ⟨⟨soFar.negative, soFar.whole, soFar.fraction, some (negative, digits)⟩, fun more stops => ?_⟩
    obtain ⟨taken, dropped⟩ := takeWhile_digits isDigits.2 fun c same => (stops c same).1
    have some : digits.isEmpty = false := List.isEmpty_eq_false_iff.mpr isDigits.1
    rw [List.cons_append, List.append_assoc, scanExponent, if_pos marked]
    simp only [signs, taken, dropped, some, Bool.false_eq_true, if_false]

/-- What stands behind the digits of a number, up to where it ends. -/
theorem stops_exponent {text : List Char} (isExponent : IsExponent text) {more : List Char} (stops : Stops more) :
    ∀ c, (text ++ more).head? = some c → isDigit c = false ∧ c ≠ '.' := by
  intro c same
  cases isExponent with
  | absent => exact ⟨(stops c same).1, (stops c same).2.1⟩
  | present marked signed digits =>
    cases same
    rcases marked with rfl | rfl <;> decide

theorem scanFraction_absent {text : List Char} (stop : ∀ c, text.head? = some c → isDigit c = false ∧ c ≠ '.')
    (soFar : NumberText) : scanFraction soFar text = scanExponent soFar text := by
  unfold scanFraction
  split
  case h_1 => exact absurd rfl (stop '.' rfl).2
  case h_2 => rfl

theorem scanFraction_eq {fraction exponent : List Char} (isFraction : IsFraction fraction)
    (isExponent : IsExponent exponent) (soFar : NumberText) :
    ∃ found, ∀ more, Stops more → scanFraction soFar (fraction ++ (exponent ++ more)) = .ok (found, more) := by
  cases isFraction with
  | absent =>
    obtain ⟨found, scanned⟩ := scanExponent_eq isExponent soFar
    refine ⟨found, fun more stops => ?_⟩
    rw [List.nil_append, scanFraction_absent (stops_exponent isExponent stops), scanned more stops]
  | @present digits isDigits =>
    obtain ⟨found, scanned⟩ :=
      scanExponent_eq isExponent ⟨soFar.negative, soFar.whole, some digits, none⟩
    refine ⟨found, fun more stops => ?_⟩
    obtain ⟨taken, dropped⟩ := takeWhile_digits isDigits.2 fun c same => (stops_exponent isExponent stops c same).1
    have some : digits.isEmpty = false := List.isEmpty_eq_false_iff.mpr isDigits.1
    rw [List.cons_append, scanFraction, taken, dropped, if_neg (by simp [some]), scanned more stops]

theorem scanUnsigned_whole {whole : List Char} (isWhole : IsWhole whole) (negative : Bool) {rest : List Char}
    (stop : ∀ c, rest.head? = some c → isDigit c = false) :
    scanUnsigned negative (whole ++ rest) = scanFraction ⟨negative, whole, none, none⟩ rest := by
  cases isWhole with
  | zero =>
    have none : ¬rest.head?.any isDigit = true := by
      cases same : rest.head? with
      | none => simp
      | some c => simp [stop c same]
    rw [List.singleton_append, scanUnsigned, if_pos rfl, if_neg none]
  | @other c tail digit positive digits =>
    obtain ⟨taken, dropped⟩ := takeWhile_digits digits stop
    rw [List.cons_append, scanUnsigned, if_neg positive, if_pos digit, taken, dropped]

theorem stops_fraction {fraction exponent : List Char} (isFraction : IsFraction fraction)
    (isExponent : IsExponent exponent) {more : List Char} (stops : Stops more) :
    ∀ c, (fraction ++ (exponent ++ more)).head? = some c → isDigit c = false := by
  intro c same
  cases isFraction with
  | absent => exact (stops_exponent isExponent stops c same).1
  | present digits => cases same; decide

/-- A digit at the start of a number without a sign. -/
theorem exists_digit_of_isWhole {whole : List Char} (isWhole : IsWhole whole) :
    ∃ c rest, whole = c :: rest ∧ isDigit c = true := by
  cases isWhole with
  | zero => exact ⟨'0', [], rfl, rfl⟩
  | other digit positive digits => exact ⟨_, _, rfl, digit⟩

theorem scanNumber_of {sign text rest : List Char} {found : NumberText} (signed : sign = [] ∨ sign = ['-'])
    (digit : ∃ c tail, text = c :: tail ∧ isDigit c = true)
    (scanned : scanUnsigned (sign == ['-']) text = .ok (found, rest)) :
    scanNumber (sign ++ text) = (⟨found.value, .ok ()⟩, rest) := by
  rcases signed with rfl | rfl
  · obtain ⟨c, tail, rfl, digit⟩ := digit
    have unsigned : scanUnsigned false (c :: tail) = .ok (found, rest) := scanned
    unfold scanNumber
    split
    case h_1 same => cases same; cases digit
    case h_2 => rw [List.nil_append, unsigned]
  · have negative : scanUnsigned true text = .ok (found, rest) := scanned
    rw [List.singleton_append, scanNumber, negative]

/-- A number of the grammar can be passed over, and it is cut at its end. -/
theorem scanNumber_eq {text : List Char} (isNumber : IsNumber text) :
    ∃ value : Scalar Number, value.skip = .ok () ∧
      ∀ more, Stops more → scanNumber (text ++ more) = (value, more) := by
  obtain ⟨signed, isWhole, isFraction, isExponent⟩ := isNumber
  next sign whole fraction exponent =>
    obtain ⟨found, scanned⟩ := scanFraction_eq isFraction isExponent ⟨sign == ['-'], whole, none, none⟩
    refine ⟨⟨found.value, .ok ()⟩, rfl, fun more stops => ?_⟩
    obtain ⟨c, tail, rfl, digit⟩ := exists_digit_of_isWhole isWhole
    simp only [List.append_assoc]
    apply scanNumber_of signed ⟨c, tail ++ (fraction ++ (exponent ++ more)), List.cons_append .., digit⟩
    rw [scanUnsigned_whole isWhole _ (stops_fraction isFraction isExponent stops), scanned more stops]

/-- The first character tells that a number starts. -/
theorem tokenAt_number {c : Char} (starts : c = '-' ∨ isDigit c = true) (text : List Char) :
    isSpace c = false ∧ tokenAt c text = (.number (scanNumber (c :: text)).1, (scanNumber (c :: text)).2) := by
  have code : c.toNat = 45 ∨ 48 ≤ c.toNat ∧ c.toNat ≤ 57 := by
    rcases starts with rfl | digit
    · exact .inl rfl
    · simp only [isDigit, Bool.and_eq_true, decide_eq_true_eq] at digit
      exact .inr digit
  have differs : ∀ d : Char, d.toNat ≠ 45 → d.toNat < 48 ∨ 57 < d.toNat → c ≠ d := by
    rintro d noMinus noDigit rfl
    omega
  have begins : (c = '-' || isDigit c) = true := by simpa using starts
  constructor
  · simp only [isSpace, Bool.or_eq_false_iff, decide_eq_false_iff_not]
    exact ⟨⟨⟨differs ' ' (by decide) (by decide), differs '\n' (by decide) (by decide)⟩,
      differs '\t' (by decide) (by decide)⟩, differs '\r' (by decide) (by decide)⟩
  · unfold tokenAt
    rw [if_neg (differs '[' (by decide) (by decide)), if_neg (differs ']' (by decide) (by decide)),
      if_neg (differs '\x7b' (by decide) (by decide)), if_neg (differs '\x7d' (by decide) (by decide)),
      if_neg (differs ':' (by decide) (by decide)), if_neg (differs ',' (by decide) (by decide)),
      if_neg (differs '"' (by decide) (by decide)), if_pos begins]

/-- What the scanner finds to be a number is one token. -/
theorem Cuts.number {text : List Char} {value : Scalar Number}
    (starts : ∃ c rest, text = c :: rest ∧ (c = '-' ∨ isDigit c = true))
    (scanned : ∀ more, Stops more → scanNumber (text ++ more) = (value, more)) :
    Cuts Stops text [.number value] := by
  obtain ⟨c, rest, rfl, starts⟩ := starts
  apply Cuts.of_tokenAt (tokenAt_number starts []).1
  intro more stops
  have found := scanned more stops
  rw [List.cons_append] at found
  rw [(tokenAt_number starts _).2, found]

theorem exists_start_of_isNumber {text : List Char} (isNumber : IsNumber text) :
    ∃ c rest, text = c :: rest ∧ (c = '-' ∨ isDigit c = true) := by
  obtain ⟨signed, isWhole, -, -⟩ := isNumber
  rcases signed with rfl | rfl
  · obtain ⟨c, tail, rfl, digit⟩ := exists_digit_of_isWhole isWhole
    exact ⟨c, _, rfl, .inr digit⟩
  · exact ⟨'-', _, rfl, .inl rfl⟩

/-! ### Strings -/

theorem fourHexDigits_of {a b c d : Char} {w x y z : Nat} (first : hexValue? a = some w)
    (second : hexValue? b = some x) (third : hexValue? c = some y) (fourth : hexValue? d = some z)
    (more : List Char) :
    fourHexDigits (a :: b :: c :: d :: more) = .ok (((w * 16 + x) * 16 + y) * 16 + z) := by
  have taken : (a :: b :: c :: d :: more).take 4 = [a, b, c, d] := rfl
  have size : (String.ofList [a, b, c, d]).utf8ByteSize = a.utf8Size + b.utf8Size + c.utf8Size + d.utf8Size := by
    simp [String.utf8ByteSize, List.utf8Encode_singleton, Nat.add_assoc]
  have bytes : ¬(String.ofList [a, b, c, d]).utf8ByteSize < 4 := by
    have := a.utf8Size_pos
    have := b.utf8Size_pos
    have := c.utf8Size_pos
    have := d.utf8Size_pos
    omega
  rw [fourHexDigits, taken, if_neg bytes]
  simp [first, second, third, fourth]

theorem fourHexDigits_eq {a b c d : Char} (hexadecimal : ∀ digit ∈ [a, b, c, d], (hexValue? digit).isSome = true) :
    ∃ unit, ∀ more, fourHexDigits (a :: b :: c :: d :: more) = .ok unit := by
  obtain ⟨w, first⟩ := Option.isSome_iff_exists.mp (hexadecimal a (by simp))
  obtain ⟨x, second⟩ := Option.isSome_iff_exists.mp (hexadecimal b (by simp))
  obtain ⟨y, third⟩ := Option.isSome_iff_exists.mp (hexadecimal c (by simp))
  obtain ⟨z, fourth⟩ := Option.isSome_iff_exists.mp (hexadecimal d (by simp))
  exact ⟨_, fourHexDigits_of first second third fourth⟩

def Escape.Passes (escape : Escape) (length : Nat) : Prop :=
  (∃ value, escape = .char value length) ∨ ∃ fault, escape = .surrogate fault length

section

variable {a b c d : Char} {unit : Nat}

theorem unicodeEscape_of_low (digits : ∀ more, fourHexDigits (a :: b :: c :: d :: more) = .ok unit)
    (low : 0xDC00 ≤ unit ∧ unit ≤ 0xDFFF) (more : List Char) :
    unicodeEscape (a :: b :: c :: d :: more) = .surrogate .loneSurrogate 5 := by
  simp only [unicodeEscape, digits, if_pos low]

theorem unicodeEscape_of_plain (digits : ∀ more, fourHexDigits (a :: b :: c :: d :: more) = .ok unit)
    (notLow : ¬(0xDC00 ≤ unit ∧ unit ≤ 0xDFFF)) (plain : unit < 0xD800 ∨ 0xDBFF < unit) (more : List Char) :
    unicodeEscape (a :: b :: c :: d :: more) = .char (Char.ofNat unit) 5 := by
  simp only [unicodeEscape, digits, if_neg notLow, if_pos plain]

/-- The first half of a pair without a second half behind it. -/
theorem unicodeEscape_of_lone (digits : ∀ more, fourHexDigits (a :: b :: c :: d :: more) = .ok unit)
    (notLow : ¬(0xDC00 ≤ unit ∧ unit ≤ 0xDFFF)) (high : ¬(unit < 0xD800 ∨ 0xDBFF < unit)) {more : List Char}
    (some : more ≠ []) (alone : more ≠ ['\\']) (noUnit : ∀ rest, more ≠ '\\' :: 'u' :: rest) :
    unicodeEscape (a :: b :: c :: d :: more) = .surrogate .unfinishedSurrogatePair 5 := by
  have behind : (a :: b :: c :: d :: more).drop 4 = more := rfl
  simp only [unicodeEscape, digits, if_neg notLow, if_neg high, behind]

theorem unicodeEscape_of_pair {e f g h : Char} {other : Nat}
    (digits : ∀ more, fourHexDigits (a :: b :: c :: d :: more) = .ok unit)
    (digitsOther : ∀ more, fourHexDigits (e :: f :: g :: h :: more) = .ok other)
    (notLow : ¬(0xDC00 ≤ unit ∧ unit ≤ 0xDFFF)) (high : ¬(unit < 0xD800 ∨ 0xDBFF < unit)) (more : List Char) :
    unicodeEscape (a :: b :: c :: d :: '\\' :: 'u' :: e :: f :: g :: h :: more) =
      if 0xDC00 ≤ other ∧ other ≤ 0xDFFF then
        .char (Char.ofNat ((unit - 0xD800) * 0x400 + (other - 0xDC00) + 0x10000)) 11
      else .surrogate .loneSurrogate 5 := by
  simp only [unicodeEscape, digits, if_neg notLow, if_neg high, List.drop_succ_cons, List.drop_zero, digitsOther]

end

/-- What an escape takes of a text in the grammar leaves a text in the grammar: an escape of one character or of
one code unit takes itself, and the first half of a pair of surrogates takes the second half with it. -/
theorem escapeAt_body {tail rest : List Char} (character : IsCharacter ('\\' :: tail)) (body : IsBody rest) :
    ∃ escape length left, escape.Passes length ∧ IsBody left ∧ left.length ≤ rest.length ∧
      ∀ more, escapeAt (tail ++ (rest ++ '"' :: more)) = escape ∧
        (tail ++ (rest ++ '"' :: more)).drop length = left ++ '"' :: more := by
  cases character with
  | plain noQuote noEscape noControl => exact absurd rfl noEscape
  | @escaped c known =>
    have read : ∃ value, ∀ text, escapeAt (c :: text) = .char value 1 := by
      simp only [List.mem_cons, List.not_mem_nil, or_false] at known
      rcases known with rfl | rfl | rfl | rfl | rfl | rfl | rfl | rfl <;> exact ⟨_, fun _ => rfl⟩
    obtain ⟨value, read⟩ := read
    exact ⟨_, 1, rest, .inl ⟨value, rfl⟩, body, Nat.le_refl _, fun more => ⟨read _, rfl⟩⟩
  | @unit a b c d hexadecimal =>
    obtain ⟨unit, digits⟩ := fourHexDigits_eq hexadecimal
    by_cases low : 0xDC00 ≤ unit ∧ unit ≤ 0xDFFF
    · exact ⟨_, 5, rest, .inr ⟨_, rfl⟩, body, Nat.le_refl _,
        fun more => ⟨unicodeEscape_of_low digits low _, rfl⟩⟩
    by_cases plain : unit < 0xD800 ∨ 0xDBFF < unit
    · exact ⟨_, 5, rest, .inl ⟨_, rfl⟩, body, Nat.le_refl _,
        fun more => ⟨unicodeEscape_of_plain digits low plain _, rfl⟩⟩
    -- The first half of a pair stands for nothing unless the escape behind it is the second half.
    have lone : (∀ more, rest ++ '"' :: more ≠ ['\\'] ∧ ∀ behind, rest ++ '"' :: more ≠ '\\' :: 'u' :: behind) →
        ∃ escape length left, escape.Passes length ∧ IsBody left ∧ left.length ≤ rest.length ∧
          ∀ more, escapeAt (['u', a, b, c, d] ++ (rest ++ '"' :: more)) = escape ∧
            (['u', a, b, c, d] ++ (rest ++ '"' :: more)).drop length = left ++ '"' :: more := by
      intro alone
      refine ⟨_, 5, rest, .inr ⟨.unfinishedSurrogatePair, rfl⟩, body, Nat.le_refl _, fun more => ⟨?_, rfl⟩⟩
      exact unicodeEscape_of_lone digits low plain (by simp) (alone more).1 (alone more).2
    cases body with
    | nil => exact lone fun more => ⟨by simp, by simp⟩
    | @cons first rest character body =>
      cases character with
      | @plain e noQuote noEscape noControl => exact lone fun more => ⟨by simp [noEscape], by simp [noEscape]⟩
      | @escaped e known =>
        have noUnit : e ≠ 'u' := by
          rintro rfl
          simp at known
        exact lone fun more => ⟨by simp, by simp [noUnit]⟩
      | @unit e f g h hexadecimalOther =>
        obtain ⟨other, digitsOther⟩ := fourHexDigits_eq hexadecimalOther
        have read := unicodeEscape_of_pair digits digitsOther low plain
        by_cases pair : 0xDC00 ≤ other ∧ other ≤ 0xDFFF
        · have shorter : rest.length ≤ (['\\', 'u', e, f, g, h] ++ rest).length := by
            rw [List.length_append]
            exact Nat.le_add_left _ _
          exact ⟨_, 11, rest, .inl ⟨_, rfl⟩, body, shorter, fun more => ⟨(read _).trans (if_pos pair), rfl⟩⟩
        · exact ⟨_, 5, _, .inr ⟨_, rfl⟩, .cons (.unit hexadecimalOther) body, Nat.le_refl _,
            fun more => ⟨(read _).trans (if_neg pair), rfl⟩⟩

theorem scanString_escape {escape : Escape} {length : Nat} (passes : escape.Passes length)
    (soFar : Except SyntaxError (List Char)) : ∃ next, ∀ text, escapeAt text = escape →
      scanString soFar ('\\' :: text) = scanString next (text.drop length) := by
  rcases passes with ⟨value, rfl⟩ | ⟨fault, rfl⟩
  · refine ⟨soFar.map (value :: ·), fun text read => ?_⟩
    rw [scanString, if_neg (by decide), if_pos rfl, read]
  · refine ⟨failAfter soFar fault, fun text read => ?_⟩
    rw [scanString, if_neg (by decide), if_pos rfl, read]

theorem exists_tail_of_escape {first : List Char} (character : IsCharacter first) :
    (∃ c, first = [c] ∧ c ≠ '"' ∧ c ≠ '\\' ∧ 0x20 ≤ c.toNat) ∨ ∃ tail, first = '\\' :: tail := by
  cases character with
  | plain noQuote noEscape noControl => exact .inl ⟨_, rfl, noQuote, noEscape, noControl⟩
  | escaped known => exact .inr ⟨_, rfl⟩
  | unit hexadecimal => exact .inr ⟨_, rfl⟩

/-- A string of the grammar can be passed over, and it is cut behind its closing quote. -/
theorem scanString_eq {body : List Char} (isBody : IsBody body) (soFar : Except SyntaxError (List Char)) :
    ∃ value : Scalar String, value.skip = .ok () ∧
      ∀ more, scanString soFar (body ++ '"' :: more) = (value, more) := by
  -- On the length and not on the body: two escapes that make up a pair are read at once.
  induction measured : body.length using Nat.strongRecOn generalizing body soFar with
  | ind size ih =>
    cases isBody with
    | nil =>
      refine ⟨⟨soFar.map fun chars => String.ofList chars.reverse, .ok ()⟩, rfl, fun more => ?_⟩
      rw [List.nil_append, scanString, if_pos rfl]
    | @cons first rest character isBody =>
      rcases exists_tail_of_escape character with ⟨c, rfl, noQuote, noEscape, noControl⟩ | ⟨tail, rfl⟩
      · obtain ⟨value, passes, scanned⟩ := ih rest.length (by simp [← measured]) isBody (soFar.map (c :: ·)) rfl
        refine ⟨value, passes, fun more => ?_⟩
        rw [List.append_assoc, List.singleton_append, scanString, if_neg noQuote, if_neg noEscape,
          if_neg (Nat.not_lt.mpr noControl), scanned]
      · obtain ⟨escape, taken, left, harmless, isBody, shorter, read⟩ := escapeAt_body character isBody
        obtain ⟨next, goesOn⟩ := scanString_escape harmless soFar
        have less : left.length < size := by
          simp only [← measured, List.length_append, List.length_cons]
          omega
        obtain ⟨value, passes, scanned⟩ := ih left.length less isBody next rfl
        refine ⟨value, passes, fun more => ?_⟩
        rw [List.cons_append, List.cons_append, List.append_assoc, goesOn _ (read more).1, (read more).2, scanned]

theorem tokenAt_quote (text : List Char) :
    tokenAt '"' text = (.string (scanString (.ok []) text).1, (scanString (.ok []) text).2) :=
  rfl

/-- What the scanner finds to be a string is one token, whatever follows. -/
theorem Cuts.string {body : List Char} {value : Scalar String}
    (scanned : ∀ more, scanString (.ok []) (body ++ '"' :: more) = (value, more)) :
    Cuts Anything ('"' :: (body ++ ['"'])) [.string value] := by
  apply Cuts.of_tokenAt rfl
  intro more _
  rw [tokenAt_quote, List.append_assoc, List.singleton_append, scanned]

end LedgerCapture.Json
