import LedgerCapture.Json.Printer
import LedgerCapture.Proofs.Json.Draft

/-!
Documents that are written down and read again. The text of a document spells the document's own draft, so
a reader meets in the text what it would meet in the document.
-/
namespace LedgerCapture.Json

open Draft Grammar

/-! ### Strings -/

theorem toList_writeString (out text : String) :
    (writeString out text).toList =
      out.toList ++ '"' :: ((text.toList.flatMap fun c => (escapeChar c).toList) ++ ['"']) := by
  have written : ∀ (chars : List Char) (out : String),
      (chars.foldl (fun out c => out ++ escapeChar c) out).toList =
        out.toList ++ chars.flatMap fun c => (escapeChar c).toList := by
    intro chars
    induction chars with
    | nil => simp
    | cons c rest ih => intro out; simp [ih]
  simp [writeString, written]

/-- Control characters without an escape of their own are written by their code. -/
theorem escapeChar_control {c : Char} (control : c.toNat < 0x20)
    (others : c ∉ ['\n', '\r', '\t', '\x08', '\x0c']) :
    (escapeChar c).toList =
      ['\\', 'u', '0', '0', Nat.digitChar (c.toNat / 16), Nat.digitChar (c.toNat % 16)] := by
  have all : ∀ code : Fin 32, Char.ofNat code ∉ ['\n', '\r', '\t', '\x08', '\x0c'] →
      (escapeChar (Char.ofNat code)).toList =
        ['\\', 'u', '0', '0', Nat.digitChar (code / 16), Nat.digitChar (code % 16)] := by decide
  have this := all ⟨c.toNat, control⟩
  simp only [Char.ofNat_toNat] at this
  exact this others

theorem hexValue_digitChar {digit : Nat} (small : digit < 16) : hexValue? (Nat.digitChar digit) = some digit := by
  have all : ∀ digit : Fin 16, hexValue? (Nat.digitChar digit) = some digit.val := by decide
  exact all ⟨digit, small⟩

/-- What a character is written as is read as that character. -/
theorem scanString_escapeChar (c : Char) (done more : List Char) :
    scanString (.ok done) ((escapeChar c).toList ++ more) = scanString (.ok (c :: done)) more := by
  have escaped : ∀ {mark : Char} {value : Char}, (∀ rest, escapeAt (mark :: rest) = .char value 1) →
      scanString (.ok done) ('\\' :: mark :: more) = scanString (.ok (value :: done)) more := by
    intro mark value read
    rw [scanString, if_neg (by decide), if_pos rfl, read]
    rfl
  -- The escapes of two characters, the other control characters, and all that is written as it is.
  by_cases known : c ∈ ['"', '\\', '\n', '\r', '\t', '\x08', '\x0c']
  · simp only [List.mem_cons, List.not_mem_nil, or_false] at known
    rcases known with rfl | rfl | rfl | rfl | rfl | rfl | rfl <;> exact escaped fun _ => rfl
  simp only [List.mem_cons, List.not_mem_nil, or_false, not_or] at known
  obtain ⟨noQuote, noEscape, others⟩ := known
  by_cases control : c.toNat < 0x20
  · rw [escapeChar_control control (by simpa only [List.mem_cons, List.not_mem_nil, or_false, not_or] using others)]
    have zero : hexValue? '0' = some 0 := rfl
    have digits := fourHexDigits_of zero zero (hexValue_digitChar (show c.toNat / 16 < 16 by omega))
      (hexValue_digitChar (show c.toNat % 16 < 16 by omega))
    have code : ((0 * 16 + 0) * 16 + c.toNat / 16) * 16 + c.toNat % 16 = c.toNat := by omega
    rw [code] at digits
    have read := unicodeEscape_of_plain digits (by omega) (by omega) more
    rw [Char.ofNat_toNat] at read
    have written : escapeAt (['u', '0', '0', Nat.digitChar (c.toNat / 16), Nat.digitChar (c.toNat % 16)] ++ more) =
        .char c 5 := read
    rw [List.cons_append, scanString, if_neg (by decide), if_pos rfl, written]
    rfl
  · have plain : (escapeChar c).toList = [c] := by
      have shown : ∀ {code}, code < 0x20 → c.toNat ≠ code := fun small same => control (same ▸ small)
      simp [escapeChar, noQuote, noEscape, others, control, shown]
    rw [plain, List.singleton_append, scanString, if_neg noQuote, if_neg noEscape, if_neg control]
    rfl

/-- The text of a string is read as the string. -/
theorem scanString_writeString (text : String) (more : List Char) :
    scanString (.ok []) ((text.toList.flatMap fun c => (escapeChar c).toList) ++ '"' :: more) =
      (.sound text, more) := by
  have read : ∀ (chars done : List Char),
      scanString (.ok done) ((chars.flatMap fun c => (escapeChar c).toList) ++ '"' :: more) =
        (.sound (String.ofList (done.reverse ++ chars)), more) := by
    intro chars
    induction chars with
    | nil =>
      intro done
      rw [List.flatMap_nil, List.nil_append, scanString, if_pos rfl, List.append_nil]
      rfl
    | cons c rest ih =>
      intro done
      rw [List.flatMap_cons, List.append_assoc, scanString_escapeChar, ih, List.reverse_cons, List.append_assoc,
        List.singleton_append]
  rw [read text.toList [], List.reverse_nil, List.nil_append, String.ofList_toList]

theorem exists_cuts_writeString (out text : String) :
    ∃ written, (writeString out text).toList = out.toList ++ written ∧
      Cuts Anything written [.string (.sound text)] :=
  ⟨_, toList_writeString out text, .string (scanString_writeString text)⟩

/-! ### Integers -/

theorem isDigit_of_mem_toDigits {number : Nat} {c : Char} (member : c ∈ Nat.toDigits 10 number) :
    isDigit c = true := by
  simpa [isDigit] using Decimal.digit_of_mem_toDigits member

theorem isWhole_toDigits (number : Nat) : IsWhole (Nat.toDigits 10 number) := by
  rcases Nat.eq_zero_or_pos number with rfl | positive
  · exact .zero
  · cases digits : Nat.toDigits 10 number with
    | nil => exact absurd digits Nat.toDigits_ne_nil
    | cons c rest =>
      have all : ∀ d ∈ c :: rest, isDigit d = true := by
        rw [← digits]
        exact fun d member => isDigit_of_mem_toDigits member
      refine .other (all c (List.mem_cons_self ..)) ?_ fun d member => all d (List.mem_cons_of_mem _ member)
      rintro rfl
      exact Decimal.toDigits_ne_zero_cons positive rest digits

theorem digitsValue_toDigits (number : Nat) : digitsValue (Nat.toDigits 10 number) = number := by
  have value : ∀ (digits : List Char) (start : Nat),
      digits.foldl (fun value c => value * 10 + (c.toNat - '0'.toNat)) start = Nat.ofDigitChars 10 digits start := by
    intro digits
    induction digits with
    | nil => intro start; rfl
    | cons c rest ih => intro start; rw [List.foldl_cons, ih, Nat.ofDigitChars_cons, Nat.mul_comm]
  rw [digitsValue, value, Nat.ofDigitChars_ten_toDigits]

/-- An integer as a sign and digits. -/
theorem value_toDigits {negative : Bool} {number : Nat} (noMinus : negative = true → number ≠ 0) {value : Int}
    (same : (if negative then -(number : Int) else number) = value) (least : leastInteger ≤ value)
    (greatest : value ≤ greatestInteger) :
    (⟨negative, Nat.toDigits 10 number, none, none⟩ : NumberText).value = .ok (.integer value) := by
  subst same
  have zero : (!(negative && number == 0)) = true := by
    cases negative with
    | false => rfl
    | true => simpa using noMinus rfl
  simp only [NumberText.value, Option.getD_none, List.append_nil, digitsValue_toDigits]
  rw [if_pos]
  simp only [Option.isNone_none, Bool.and_self, zero, decide_eq_true least, decide_eq_true greatest]

/-- Digits with a sign before them are scanned as a whole, of whatever size the number is. -/
theorem scanNumber_digits {sign : List Char} (signed : sign = [] ∨ sign = ['-']) (number : Nat) {more : List Char}
    (stops : Stops more) :
    scanNumber (sign ++ Nat.toDigits 10 number ++ more) =
      (⟨(⟨sign == ['-'], Nat.toDigits 10 number, none, none⟩ : NumberText).value, .ok ()⟩, more) := by
  have isWhole := isWhole_toDigits number
  have scanned : scanUnsigned (sign == ['-']) (Nat.toDigits 10 number ++ more) =
      .ok (⟨sign == ['-'], Nat.toDigits 10 number, none, none⟩, more) := by
    rw [scanUnsigned_whole isWhole _ fun c same => (stops c same).1,
      scanFraction_absent fun c same => ⟨(stops c same).1, (stops c same).2.1⟩, scanExponent_stops stops]
  obtain ⟨c, rest, digits, digit⟩ := exists_digit_of_isWhole isWhole
  have starts : ∃ c tail, Nat.toDigits 10 number ++ more = c :: tail ∧ isDigit c = true :=
    ⟨c, rest ++ more, by rw [digits, List.cons_append], digit⟩
  rw [List.append_assoc, scanNumber_of signed starts scanned]

theorem scanNumber_toDigits {sign : List Char} (signed : sign = [] ∨ sign = ['-']) {number : Nat}
    (noMinus : (sign == ['-']) = true → number ≠ 0) {value : Int}
    (same : (if sign == ['-'] then -(number : Int) else number) = value) (least : leastInteger ≤ value)
    (greatest : value ≤ greatestInteger) {more : List Char} (stops : Stops more) :
    scanNumber (sign ++ Nat.toDigits 10 number ++ more) = (.sound (.integer value), more) := by
  rw [scanNumber_digits signed number stops, value_toDigits noMinus same least greatest]
  rfl

/-- An integer of 64 bits is read from its own text. -/
theorem cuts_integer {value : Int} (least : leastInteger ≤ value) (greatest : value ≤ greatestInteger) :
    Cuts Stops (toString value).toList [.number (.sound (.integer value))] := by
  cases value with
  | ofNat number =>
    have written : (toString (Int.ofNat number)).toList = [] ++ Nat.toDigits 10 number := by
      show (toString number).toList = _
      rw [Nat.toString_eq_ofList_toDigits, String.toList_ofList, List.nil_append]
    obtain ⟨c, rest, digits, digit⟩ := exists_digit_of_isWhole (isWhole_toDigits number)
    rw [written]
    exact .number ⟨c, rest, digits, .inr digit⟩ fun more stops =>
      scanNumber_toDigits (.inl rfl) nofun rfl least greatest stops
  | negSucc number =>
    have written : (toString (Int.negSucc number)).toList = ['-'] ++ Nat.toDigits 10 (number + 1) := by
      show ("-" ++ toString (number + 1)).toList = _
      rw [Nat.toString_eq_ofList_toDigits, String.toList_append]
      exact congrArg (['-'] ++ ·) String.toList_ofList
    rw [written]
    exact .number ⟨'-', _, rfl, .inl rfl⟩ fun more stops =>
      scanNumber_toDigits (.inr rfl) (fun _ => Nat.succ_ne_zero number) rfl least greatest stops

/-! ### Documents -/

mutual

/-- A document whose numbers are all integers of 64 bits. -/
def Exact : Json → Prop
  | .number (.integer value) => leastInteger ≤ value ∧ value ≤ greatestInteger
  | .number (.real _) => False
  | .list items => ExactItems items
  | .object members => ExactMembers members
  | .null | .boolean _ | .string _ => True

def ExactItems : List Json → Prop
  | [] => True
  | item :: rest => Exact item ∧ ExactItems rest

def ExactMembers : List (String × Json) → Prop
  | [] => True
  | (_, value) :: rest => Exact value ∧ ExactMembers rest

end

theorem exactItems_map {α : Type} {write : α → Json} {values : List α}
    (exact : ∀ value ∈ values, (write value).Exact) : ExactItems (values.map write) := by
  induction values with
  | nil => trivial
  | cons value rest ih =>
    obtain ⟨exactFirst, exactRest⟩ := List.forall_mem_cons.mp exact
    exact ⟨exactFirst, ih exactRest⟩

def Follows : Json → List Char → Prop
  | .number _ => Stops
  | _ => Anything

theorem Spells.stops {document : Json} {text : List Char} {value : Draft}
    (spells : Spells document.Follows text value) : Spells Stops text value := by
  cases document with
  | number value => exact spells
  | _ => exact Spells.weaken spells

theorem booleanText_spells (value : Bool) :
    Spells Anything (booleanText value).toList (.literal (.boolean value)) := by
  cases value with
  | true => exact ⟨_, Cuts.literalTrue, builds_literal _⟩
  | false => exact ⟨_, Cuts.literalFalse, builds_literal _⟩

theorem noGap : IsGap [] :=
  fun _ member => absurd member List.not_mem_nil

/-- What separates an item from the one before it. -/
theorem toList_separator (out : String) (first : Bool) :
    (if first then out else out ++ ",").toList = out.toList ++ if first then [] else [','] := by
  cases first <;> simp

mutual

/-- The text of a document spells the document's draft. -/
theorem exists_spells_writeCompact (document : Json) (exact : document.Exact) (out : String) :
    ∃ text, (writeCompact out document).toList = out.toList ++ text ∧
      Spells document.Follows text (ofJson document) := by
  match document, exact with
  | .null, _ => exact ⟨"null".toList, String.toList_append .., _, Cuts.literalNull, builds_literal _⟩
  | .boolean value, _ => exact ⟨(booleanText value).toList, String.toList_append .., booleanText_spells value⟩
  | .number (.integer value), ⟨least, greatest⟩ =>
    exact ⟨(toString value).toList, String.toList_append .., .number rfl (cuts_integer least greatest)⟩
  | .string value, _ =>
    obtain ⟨text, written, cuts⟩ := exists_cuts_writeString out value
    exact ⟨text, written, .string rfl cuts⟩
  | .list items, exact =>
    cases items with
    | nil => exact ⟨['[', ']'], by simp [writeCompact, writeCompactItems], Spells.emptyList noGap⟩
    | cons item rest =>
      obtain ⟨text, written, spells⟩ :=
        exists_spells_writeCompactItems (item :: rest) (List.cons_ne_nil _ _) exact (out ++ "[") true
      refine ⟨'[' :: (text ++ [']']), ?_, spells.list⟩
      rw [writeCompact, String.toList_append, written]
      simp
  | .object members, exact =>
    cases members with
    | nil => exact ⟨['\x7b', '\x7d'], by simp [writeCompact, writeCompactMembers], Spells.emptyObject noGap⟩
    | cons member rest =>
      obtain ⟨text, written, spells⟩ :=
        exists_spells_writeCompactMembers (member :: rest) (List.cons_ne_nil _ _) exact (out ++ "\x7b") true
      refine ⟨'\x7b' :: (text ++ ['\x7d']), ?_, spells.object⟩
      rw [writeCompact, String.toList_append, written]
      simp

theorem exists_spells_writeCompactItems (items : List Json) (some : items ≠ []) (exact : ExactItems items)
    (out : String) (first : Bool) :
    ∃ text, (writeCompactItems out first items).toList =
        out.toList ++ (if first then [] else [',']) ++ text ∧ SpellsItems text (ofItems items) := by
  match items, exact with
  | [], _ => exact absurd rfl some
  | item :: rest, ⟨exact, exactRest⟩ =>
    obtain ⟨text, written, spells⟩ :=
      exists_spells_writeCompact item exact (if first then out else out ++ ",")
    rw [toList_separator] at written
    by_cases last : rest = []
    · subst last
      exact ⟨text, by rw [writeCompactItems, writeCompactItems, written], spells.stops.single⟩
    · obtain ⟨textMore, writtenMore, spellsMore⟩ := exists_spells_writeCompactItems rest last exactRest
        (writeCompact (if first then out else out ++ ",") item) false
      refine ⟨text ++ ',' :: textMore, ?_, spells.stops.single.append spellsMore⟩
      rw [writeCompactItems, writtenMore, written]
      simp

theorem exists_spells_writeCompactMembers (members : List (String × Json)) (some : members ≠ [])
    (exact : ExactMembers members) (out : String) (first : Bool) :
    ∃ text, (writeCompactMembers out first members).toList =
        out.toList ++ (if first then [] else [',']) ++ text ∧ SpellsMembers text (Draft.ofMembers members) := by
  match members, exact with
  | [], _ => exact absurd rfl some
  | (name, value) :: rest, ⟨exact, exactRest⟩ =>
    obtain ⟨named, writtenName, cutsName⟩ := exists_cuts_writeString (if first then out else out ++ ",") name
    obtain ⟨text, written, spells⟩ :=
      exists_spells_writeCompact value exact (writeString (if first then out else out ++ ",") name ++ ":")
    rw [String.toList_append, writtenName, toList_separator] at written
    have spellsMember := spells.stops.member noGap noGap rfl cutsName
    by_cases last : rest = []
    · subst last
      refine ⟨_, ?_, spellsMember⟩
      rw [writeCompactMembers, writeCompactMembers, written]
      simp
    · obtain ⟨textMore, writtenMore, spellsMore⟩ := exists_spells_writeCompactMembers rest last exactRest
        (writeCompact (writeString (if first then out else out ++ ",") name ++ ":") value) false
      refine ⟨_, ?_, spellsMember.append spellsMore⟩
      rw [writeCompactMembers, writtenMore, written]
      simp

end

theorem spells_compact {document : Json} (exact : document.Exact) :
    Spells document.Follows (compact document).toList (ofJson document) := by
  obtain ⟨text, written, spells⟩ := exists_spells_writeCompact document exact ""
  rwa [compact, written, String.toList_empty, List.nil_append]

end LedgerCapture.Json
