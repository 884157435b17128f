import LedgerCapture.Toml.Document
import LedgerCapture.Proofs.Config.Environment

/-!
Documents that hold one header or one entry on each line. Such a document is read line by line: each header opens its
table, and each entry adds its text as it stands, provided the text holds no quotation mark, no backslash and no
control character.
-/
namespace LedgerCapture.Toml

open Config (Ended takeWhile_append_ended)

/-! ### Blanks and line ends -/

/-- Characters that neither a comment nor the end of a line starts with, nor are skipped. -/
abbrev IsSolid (c : Char) : Prop :=
  c ≠ ' ' ∧ c ≠ '\t' ∧ c ≠ '#' ∧ c ≠ '\n' ∧ c ≠ '\r'

section Skipping

variable {c : Char} {rest : List Char}

theorem skipBlanks_of_solid (solid : IsSolid c) : skipBlanks (c :: rest) = c :: rest := by
  obtain ⟨notSpace, notTab, -⟩ := solid
  exact List.dropWhile_cons_of_neg (by simp [notSpace, notTab])

theorem skipComment_of_solid (solid : IsSolid c) : skipComment (c :: rest) = c :: rest := by
  obtain ⟨-, -, notHash, -⟩ := solid
  unfold skipComment
  split
  · next same => exact absurd (List.cons.inj same).1 notHash
  · rfl

theorem afterNewline?_of_solid (solid : IsSolid c) : afterNewline? (c :: rest) = none := by
  obtain ⟨-, -, -, notNewline, notReturn⟩ := solid
  unfold afterNewline?
  split
  · next same => exact absurd (List.cons.inj same).1 notNewline
  · next same => exact absurd (List.cons.inj same).1 notReturn
  · rfl

theorem skipLines_of_solid (solid : IsSolid c) (fuel : Nat) : skipLines fuel (c :: rest) = c :: rest := by
  cases fuel with
  | zero => rfl
  | succ fuel =>
    simp only [skipLines, skipBlanks_of_solid solid, skipComment_of_solid solid, afterNewline?_of_solid solid]

theorem skipLines_newline (solid : IsSolid c) (fuel : Nat) :
    skipLines (fuel + 1) ('\n' :: c :: rest) = c :: rest := by
  show skipLines fuel (c :: rest) = _
  exact skipLines_of_solid solid fuel

theorem afterLine?_newline (rest : List Char) : afterLine? ('\n' :: rest) = some rest := rfl

end Skipping

/-! ### Keys -/

structure IsBare (key : String) : Prop where
  inside : ∀ c ∈ key.toList, isBareKeyChar c = true
  filled : key.toList ≠ []

instance (key : String) : Decidable (IsBare key) :=
  decidable_of_iff (key.toList.all isBareKeyChar = true ∧ key.toList ≠ [])
    ⟨fun ⟨inside, filled⟩ => ⟨List.all_eq_true.mp inside, filled⟩,
      fun ⟨inside, filled⟩ => ⟨List.all_eq_true.mpr inside, filled⟩⟩

def dotted : List String → List Char
  | [] => []
  | [key] => key.toList
  | key :: path => key.toList ++ '.' :: dotted path

section Keys

variable {c : Char} {key : String} {path : List String} {rest : List Char}

theorem isSolid_of_bare (bare : isBareKeyChar c = true) : IsSolid c := by
  refine ⟨?_, ?_, ?_, ?_, ?_⟩ <;> rintro rfl <;> revert bare <;> decide

theorem IsBare.exists_cons (bare : IsBare key) :
    ∃ first more, key.toList = first :: more ∧ isBareKeyChar first = true := by
  obtain ⟨first, more, same⟩ := List.exists_cons_of_ne_nil bare.filled
  exact ⟨first, more, same, bare.inside first (by rw [same]; exact List.mem_cons_self)⟩

theorem simpleKey_of_bare (bare : IsBare key) (ended : Ended isBareKeyChar rest) (fuel : Nat) :
    simpleKey fuel (key.toList ++ rest) = some (key, rest) := by
  obtain ⟨first, more, same, firstBare⟩ := bare.exists_cons
  have taken : (key.toList ++ rest).takeWhile isBareKeyChar = key.toList := takeWhile_append_ended bare.inside ended
  have left : (key.toList ++ rest).dropWhile isBareKeyChar = rest := by
    have cut := List.takeWhile_append_dropWhile (p := isBareKeyChar) (l := key.toList ++ rest)
    rw [taken] at cut
    exact List.append_cancel_left cut
  unfold simpleKey
  split
  · next quoted =>
    rw [same] at quoted
    cases quoted
    exact absurd firstBare (by decide)
  · next quoted =>
    rw [same] at quoted
    cases quoted
    exact absurd firstBare (by decide)
  · rw [taken, left, if_neg (by simp [same]), String.ofList_toList]

theorem skipBlanks_of_bare (bare : IsBare key) : skipBlanks (key.toList ++ rest) = key.toList ++ rest := by
  obtain ⟨first, more, same, firstBare⟩ := bare.exists_cons
  rw [same]
  exact skipBlanks_of_solid (isSolid_of_bare firstBare)

theorem keyPath_dotted (filled : path ≠ []) (bare : ∀ key ∈ path, IsBare key) (ended : Ended isBareKeyChar rest)
    (undotted : (skipBlanks rest).head? ≠ some '.') (fuel : Nat) (enough : path.length ≤ fuel) :
    keyPath fuel (dotted path ++ rest) = some (path, skipBlanks rest) := by
  induction path generalizing fuel with
  | nil => exact absurd rfl filled
  | cons key path ih =>
    cases fuel with
    | zero => cases enough
    | succ fuel =>
      have keyBare := bare key List.mem_cons_self
      cases path with
      | nil =>
        simp only [dotted, keyPath, skipBlanks_of_bare keyBare, simpleKey_of_bare keyBare ended, Option.bind_eq_bind,
          Option.bind_some]
        split
        · next same => exact absurd (by rw [same]; rfl) undotted
        · rfl
      | cons next path =>
        have dotEnds : Ended isBareKeyChar ('.' :: (dotted (next :: path) ++ rest)) := by
          intro c first
          cases first
          decide
        have below := ih (List.cons_ne_nil next path) (fun other member => bare other (List.mem_cons_of_mem key member))
          fuel (Nat.le_of_succ_le_succ enough)
        have source : dotted (key :: next :: path) ++ rest = key.toList ++ '.' :: (dotted (next :: path) ++ rest) := by
          simp only [dotted, List.append_assoc, List.cons_append]
        have dot : skipBlanks ('.' :: (dotted (next :: path) ++ rest)) = '.' :: (dotted (next :: path) ++ rest) := rfl
        rw [source]
        simp only [keyPath, skipBlanks_of_bare keyBare, simpleKey_of_bare keyBare dotEnds, dot, below,
          Option.bind_eq_bind, Option.bind_some, Option.pure_def]

end Keys

/-! ### Texts -/

/-- A text that means itself between quotation marks. -/
def IsInert (text : List Char) : Prop :=
  ∀ c ∈ text, isPlainChar c = true ∧ c ≠ '"' ∧ c ≠ '\\'

instance (text : List Char) : Decidable (IsInert text) :=
  decidable_of_iff (text.all (fun c => isPlainChar c && c != '"' && c != '\\') = true) (by
    simp only [IsInert, List.all_eq_true, Bool.and_eq_true, bne_iff_ne, and_assoc])

section Texts

variable {text rest : List Char}

theorem basicString_of_inert (inert : IsInert text) (done : List Char) (fuel : Nat) (enough : text.length < fuel) :
    basicString done fuel (text ++ '"' :: rest) = some (String.ofList (done.reverse ++ text), rest) := by
  induction text generalizing done fuel with
  | nil =>
    cases fuel with
    | zero => cases enough
    | succ fuel => simp [basicString]
  | cons c text ih =>
    cases fuel with
    | zero => cases enough
    | succ fuel =>
      obtain ⟨plain, notQuote, notBackslash⟩ := inert c List.mem_cons_self
      have later := ih (fun d member => inert d (List.mem_cons_of_mem c member)) (c :: done) fuel
        (Nat.lt_of_succ_lt_succ enough)
      rw [List.cons_append, basicString]
      · rw [if_pos plain, later, List.reverse_cons, List.append_assoc, List.singleton_append]
      · exact notQuote
      · exact notBackslash

/-- An inert text is never taken for the opening of a string over several lines, unless more marks follow it. -/
theorem stringValue_of_inert (inert : IsInert text) (unquoted : rest.head? ≠ some '"') (fuel : Nat)
    (enough : text.length < fuel) :
    stringValue fuel ('"' :: (text ++ '"' :: rest)) = some (String.ofList text, rest) := by
  have single : basicString [] fuel (text ++ '"' :: rest) = some (String.ofList text, rest) :=
    basicString_of_inert inert [] fuel enough
  have notOpened (more : List Char) : text ++ '"' :: rest ≠ '"' :: '"' :: more := by
    intro same
    cases text with
    | nil =>
      rw [(List.cons.inj same).2] at unquoted
      exact absurd rfl unquoted
    | cons c text => exact absurd (List.cons.inj same).1 (inert c List.mem_cons_self).2.1
  unfold stringValue
  split
  · next same => exact absurd (List.cons.inj same).2 (notOpened _)
  · next same => cases same
  · next same =>
    rw [← (List.cons.inj same).2]
    exact single
  · next same => cases same
  · next notBasic notLiteral => exact absurd rfl (notBasic _)

end Texts

/-! ### Lines -/

/-- A line of a document: the header of a table, with an empty line before it, or an entry of the table. -/
inductive Line where
  | header (path : List String)
  | entry (key : String) (text : List Char)

namespace Line

def source : Line → List Char
  | header path => '\n' :: '[' :: (dotted path ++ [']', '\n'])
  | entry key text => key.toList ++ ' ' :: '=' :: ' ' :: '"' :: (text ++ ['"', '\n'])

def IsPlain : Line → Prop
  | header path => path ≠ [] ∧ ∀ key ∈ path, IsBare key
  | entry key text => IsBare key ∧ IsInert text

instance : DecidablePred IsPlain
  | header path => inferInstanceAs (Decidable (path ≠ [] ∧ ∀ key ∈ path, IsBare key))
  | entry key text => inferInstanceAs (Decidable (IsBare key ∧ IsInert text))

def read : List String × Entries → Line → Option (List String × Entries)
  | (_, root), header path => (openTable path root).map (path, ·)
  | (current, root), entry key text =>
    (changeAt false (addEntry [key] (.string (String.ofList text))) current .header root).map fun (_, root) =>
      (current, root)

end Line

section Lines

variable {current path : List String} {root : Entries} {key : String} {rest : List Char}

theorem length_le_length_dotted (bare : ∀ key ∈ path, IsBare key) : path.length ≤ (dotted path).length := by
  induction path with
  | nil => exact Nat.zero_le _
  | cons key path ih =>
    have some := List.length_pos_iff.mpr (bare key List.mem_cons_self).filled
    cases path with
    | nil => exact some
    | cons next path =>
      have below := ih fun other member => bare other (List.mem_cons_of_mem key member)
      simp only [dotted, List.length_append, List.length_cons] at below ⊢
      omega

theorem exists_cons_dotted (filled : path ≠ []) (bare : ∀ key ∈ path, IsBare key) :
    ∃ first more, dotted path = first :: more ∧ isBareKeyChar first = true := by
  obtain ⟨key, path, rfl⟩ := List.exists_cons_of_ne_nil filled
  obtain ⟨first, more, same, firstBare⟩ := (bare key List.mem_cons_self).exists_cons
  cases path with
  | nil => exact ⟨first, more, same, firstBare⟩
  | cons next path => exact ⟨first, more ++ '.' :: dotted (next :: path), by rw [dotted, same]; rfl; simp, firstBare⟩

theorem statements_header (filled : path ≠ []) (bare : ∀ key ∈ path, IsBare key) (fuel : Nat)
    (enough : path.length < fuel) :
    statements current root (fuel + 1) ((Line.header path).source ++ rest) =
      (openTable path root).bind fun root => statements path root fuel rest := by
  cases fuel with
  | zero => cases enough
  | succ fuel =>
    obtain ⟨first, more, same, firstBare⟩ := exists_cons_dotted filled bare
    have bracket : keyPath (fuel + 1) (dotted path ++ ']' :: '\n' :: rest) = some (path, ']' :: '\n' :: rest) :=
      keyPath_dotted filled bare (by intro c first; cases first; decide) (by rw [skipBlanks_of_solid (by decide)]; simp)
        _ (Nat.le_of_lt enough)
    have source : (Line.header path).source ++ rest = '\n' :: '[' :: (dotted path ++ ']' :: '\n' :: rest) := by
      simp [Line.source]
    rw [source, statements, skipLines_newline (by decide)]
    split
    · next impossible => cases impossible
    · next doubled =>
      rw [same] at doubled
      cases doubled
      exact absurd firstBare (by decide)
    · next here =>
      rw [← (List.cons.inj here).2, bracket]
      rfl
    · next other => exact absurd rfl (other _)

theorem statements_entry (bare : IsBare key) (fuel : Nat) :
    statements current root (fuel + 2) (key.toList ++ ' ' :: '=' :: ' ' :: '"' :: rest) =
      (stringValue fuel ('"' :: rest)).bind fun (text, rest) => (afterLine? rest).bind fun rest =>
        (changeAt false (addEntry [key] (.string text)) current .header root).bind fun (_, root) =>
          statements current root (fuel + 1) rest := by
  obtain ⟨first, more, same, firstBare⟩ := bare.exists_cons
  have skipped : skipBlanks (' ' :: '=' :: ' ' :: '"' :: rest) = '=' :: ' ' :: '"' :: rest := rfl
  have named : keyPath (fuel + 1) (key.toList ++ ' ' :: '=' :: ' ' :: '"' :: rest) =
      some ([key], '=' :: ' ' :: '"' :: rest) :=
    @keyPath_dotted [key] _ (List.cons_ne_nil key []) (by simpa using bare) (by intro c first; cases first; decide)
      (by rw [skipped]; simp) _ (Nat.le_add_left 1 fuel)
  have start : skipLines (fuel + 1) (key.toList ++ ' ' :: '=' :: ' ' :: '"' :: rest) =
      key.toList ++ ' ' :: '=' :: ' ' :: '"' :: rest := by
    rw [same]
    exact skipLines_of_solid (isSolid_of_bare firstBare) _
  have quoted : value greatestDepth (fuel + 1) (skipBlanks (' ' :: '"' :: rest)) =
      (stringValue fuel ('"' :: rest)).map fun (text, rest) => (.string text, rest) := rfl
  rw [statements, start]
  split
  · next impossible =>
    rw [same] at impossible
    cases impossible
  · next bracket =>
    rw [same] at bracket
    rw [(List.cons.inj bracket).1] at firstBare
    exact absurd firstBare (by decide)
  · next bracket =>
    rw [same] at bracket
    rw [(List.cons.inj bracket).1] at firstBare
    exact absurd firstBare (by decide)
  · rw [named]
    simp only [Option.bind_eq_bind, Option.bind_some, quoted, Option.bind_map]
    rfl

/-- Reads a plain document line by line. -/
theorem statements_of_lines (lines : List Line) (plain : ∀ line ∈ lines, line.IsPlain) (current : List String)
    (root : Entries) (fuel : Nat) (enough : (lines.flatMap Line.source).length < fuel) :
    statements current root fuel (lines.flatMap Line.source) =
      (lines.foldlM Line.read (current, root)).map Prod.snd := by
  induction lines generalizing current root fuel with
  | nil =>
    cases fuel with
    | zero => cases enough
    | succ fuel => cases fuel <;> rfl
  | cons line lines ih =>
    have later := ih fun other member => plain other (List.mem_cons_of_mem line member)
    rw [List.flatMap_cons, List.length_append] at enough
    rw [List.flatMap_cons, List.foldlM_cons]
    cases fuel with
    | zero => cases enough
    | succ fuel =>
      have here := plain line List.mem_cons_self
      cases line with
      | header path =>
        obtain ⟨filled, bare⟩ := here
        have short := length_le_length_dotted bare
        simp only [Line.source, List.length_cons, List.length_append] at enough
        rw [statements_header filled bare fuel (by omega)]
        cases opened : openTable path root with
        | none => simp [Line.read, opened]
        | some root =>
          rw [Option.bind_some, later path root fuel (by omega)]
          simp [Line.read, opened]
      | entry key text =>
        obtain ⟨bare, inert⟩ := here
        simp only [Line.source, List.length_cons, List.length_append] at enough
        obtain ⟨fuel, rfl⟩ := Nat.exists_eq_succ_of_ne_zero (show fuel ≠ 0 by omega)
        have source : (Line.entry key text).source ++ lines.flatMap Line.source =
            key.toList ++ ' ' :: '=' :: ' ' :: '"' :: (text ++ '"' :: '\n' :: lines.flatMap Line.source) := by
          simp [Line.source]
        rw [source, statements_entry bare, stringValue_of_inert inert (by simp) fuel (by omega)]
        cases added : changeAt false (addEntry [key] (.string (String.ofList text))) current .header root with
        | none => simp [Line.read, added, afterLine?_newline]
        | some changed =>
          obtain ⟨origin, root⟩ := changed
          simp [Line.read, added, afterLine?_newline, later current root (fuel + 1) (by omega)]

end Lines

end LedgerCapture.Toml
