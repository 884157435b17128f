import LedgerCapture.Config.Reader
import LedgerCapture.Proofs.Result
import Mathlib.Data.List.TakeWhile

/-!
References to environment variables, replaced at once. A text is cut at its references in one way only; the
replacements, made one after the other from the last reference to the first, come to the same as replacing every
piece of the cut by itself.
-/
namespace LedgerCapture.Config

/-! ### How references are written -/

/-- Up to 128 capital letters, digits and underscores, of which the first is no digit. -/
inductive IsName : List Char → Prop where
  | mk {first : Char} {rest : List Char} (start : isNameStart first = true)
      (inside : ∀ c ∈ rest, isNameChar c = true) (short : rest.length ≤ 127) : IsName (first :: rest)

/-- Up to 256 characters other than a closing brace. -/
structure IsDefault (text : List Char) : Prop where
  inside : ∀ c ∈ text, c ≠ '\x7d'
  short : text.length ≤ 256

inductive Written : List Char → Reference → Prop where
  | bare {name : List Char} (isName : IsName name) :
      Written ('$' :: '\x7b' :: (name ++ ['\x7d'])) ⟨String.ofList name, none⟩
  | withDefault {name default : List Char} (isName : IsName name) (isDefault : IsDefault default) :
      Written ('$' :: '\x7b' :: (name ++ ':' :: '-' :: (default ++ ['\x7d'])))
        ⟨String.ofList name, some (String.ofList default)⟩

theorem Written.ne_nil {text : List Char} {reference : Reference} (written : Written text reference) : text ≠ [] := by
  cases written with
  | bare isName => nofun
  | withDefault isName isDefault => nofun

/-! ### Finding one reference -/

section Finding

variable {kind : Char → Bool} {greatest length : Nat} {text run rest name default : List Char} {reference : Reference}

/-- A run of characters of one kind that ends the text, or that another character ends. -/
def Ended (kind : Char → Bool) (rest : List Char) : Prop :=
  ∀ c, rest.head? = some c → kind c = false

theorem takeWhile_append_ended (inside : ∀ c ∈ run, kind c = true) (ended : Ended kind rest) :
    (run ++ rest).takeWhile kind = run := by
  rw [List.takeWhile_append_of_pos inside]
  cases rest with
  | nil => rw [List.takeWhile_nil, List.append_nil]
  | cons c rest => rw [List.takeWhile_cons_of_neg (by rw [ended c rfl]; decide), List.append_nil]

theorem ended_dropWhile (kind : Char → Bool) (text : List Char) : Ended kind (text.dropWhile kind) := by
  intro c first
  have here := List.head?_dropWhile_not kind text
  rw [first] at here
  simpa using here

/-- A run that is not too long is not cut off. -/
theorem takeWhile_take_of_short (short : ((text.take (greatest + 1)).takeWhile kind).length ≤ greatest) :
    (text.take (greatest + 1)).takeWhile kind = text.takeWhile kind := by
  induction text generalizing greatest with
  | nil => rw [List.take_nil]
  | cons c rest ih =>
    rw [List.take_succ_cons] at short ⊢
    by_cases inside : kind c = true
    · rw [List.takeWhile_cons_of_pos inside, List.length_cons] at short
      rw [List.takeWhile_cons_of_pos inside, List.takeWhile_cons_of_pos inside]
      cases greatest with
      | zero => omega
      | succ greatest => rw [ih (Nat.le_of_succ_le_succ short)]
    · rw [List.takeWhile_cons_of_neg inside, List.takeWhile_cons_of_neg inside]

theorem drop_length_takeWhile (kind : Char → Bool) (text : List Char) :
    text.drop (text.takeWhile kind).length = text.dropWhile kind := by
  calc text.drop (text.takeWhile kind).length
    _ = (text.takeWhile kind ++ text.dropWhile kind).drop (text.takeWhile kind).length := by
      rw [List.takeWhile_append_dropWhile]
    _ = text.dropWhile kind := List.drop_left

theorem Ended.take (ended : Ended kind rest) (count : Nat) : Ended kind (rest.take count) := by
  intro c first
  cases count with
  | zero => cases first
  | succ count =>
    cases rest with
    | nil => cases first
    | cons d rest => exact ended c first

theorem runAt?_eq_some_iff :
    runAt? kind greatest text = some (run, rest) ↔
      text = run ++ rest ∧ (∀ c ∈ run, kind c = true) ∧ run.length ≤ greatest ∧ Ended kind rest := by
  simp only [runAt?]
  constructor
  · intro found
    split at found
    · next short =>
      rw [takeWhile_take_of_short short] at found short
      cases found
      rw [drop_length_takeWhile]
      exact ⟨List.takeWhile_append_dropWhile.symm, fun c member => List.mem_takeWhile_imp member, short,
        ended_dropWhile kind text⟩
    · cases found
  · rintro ⟨rfl, inside, short, ended⟩
    have cut : ((run ++ rest).take (greatest + 1)).takeWhile kind = run := by
      rw [List.take_append, List.take_of_length_le (Nat.le_succ_of_le short)]
      exact takeWhile_append_ended inside (ended.take _)
    rw [cut, if_pos short, List.drop_left]

theorem nameAt?_eq_some_iff :
    nameAt? text = some (name, rest) ↔ text = name ++ rest ∧ IsName name ∧ Ended isNameChar rest := by
  unfold nameAt?
  constructor
  · intro found
    split at found
    · next start =>
      obtain ⟨rfl, inside, short, ended⟩ := runAt?_eq_some_iff.mp found
      cases name with
      | nil =>
        -- the first character of a name could have been a part of it
        cases rest with
        | nil => cases start
        | cons c rest =>
          have inName : isNameChar c = true := by simpa [isNameChar] using .inl start
          rw [ended c rfl] at inName
          cases inName
      | cons c name =>
        refine ⟨rfl, .mk (by simpa using start) (fun d member => inside d (List.mem_cons_of_mem c member)) ?_, ended⟩
        exact Nat.le_of_succ_le_succ short
    · cases found
  · rintro ⟨rfl, ⟨start, inside, short⟩, ended⟩
    rw [List.cons_append, if_pos (by simpa using start), ← List.cons_append, runAt?_eq_some_iff]
    refine ⟨rfl, fun d member => ?_, Nat.succ_le_succ short, ended⟩
    rcases List.mem_cons.mp member with rfl | member
    · simp [isNameChar, start]
    · exact inside d member

theorem defaultAt?_eq_some_iff :
    defaultAt? text = some (default, rest) ↔ text = default ++ rest ∧ IsDefault default ∧ Ended (· != '\x7d') rest := by
  rw [defaultAt?, runAt?_eq_some_iff]
  constructor
  · rintro ⟨rfl, inside, short, ended⟩
    exact ⟨rfl, ⟨fun c member => by simpa using inside c member, short⟩, ended⟩
  · rintro ⟨rfl, ⟨inside, short⟩, ended⟩
    exact ⟨rfl, fun c member => by simpa using inside c member, short, ended⟩

theorem referenceAt?_of_written (written : Written text reference) (rest : List Char) :
    referenceAt? (text ++ rest) = some (reference, text.length) := by
  cases written with
  | @bare name isName =>
    have found : nameAt? (name ++ '\x7d' :: rest) = some (name, '\x7d' :: rest) :=
      nameAt?_eq_some_iff.mpr ⟨rfl, isName, fun c first => by cases first; decide⟩
    simp [referenceAt?, found]
  | @withDefault name default isName isDefault =>
    have found : nameAt? (name ++ ':' :: '-' :: (default ++ '\x7d' :: rest)) =
        some (name, ':' :: '-' :: (default ++ '\x7d' :: rest)) :=
      nameAt?_eq_some_iff.mpr ⟨rfl, isName, fun c first => by cases first; decide⟩
    have foundDefault : defaultAt? (default ++ '\x7d' :: rest) = some (default, '\x7d' :: rest) :=
      defaultAt?_eq_some_iff.mpr ⟨rfl, isDefault, fun c first => by cases first; decide⟩
    simp [referenceAt?, found, foundDefault]
    omega

theorem exists_written_of_referenceAt? (found : referenceAt? text = some (reference, length)) :
    ∃ written rest, text = written ++ rest ∧ Written written reference ∧ length = written.length := by
  unfold referenceAt? at found
  split at found
  · next inner =>
    cases named : nameAt? inner with
    | none => simp [named] at found
    | some parts =>
      obtain ⟨name, behind⟩ := parts
      obtain ⟨rfl, isName, -⟩ := nameAt?_eq_some_iff.mp named
      simp only [named, Option.bind_eq_bind, Option.bind_some] at found
      split at found
      · next rest =>
        cases found
        exact ⟨_, rest, by simp, .bare isName, by simp⟩
      · next afterMark =>
        cases defaulted : defaultAt? afterMark with
        | none => simp [defaulted] at found
        | some parts =>
          obtain ⟨default, behind⟩ := parts
          obtain ⟨rfl, isDefault, -⟩ := defaultAt?_eq_some_iff.mp defaulted
          simp only [defaulted, Option.bind_some] at found
          split at found
          · next rest =>
            cases found
            exact ⟨_, rest, by simp, .withDefault isName isDefault, by simp; omega⟩
          · cases found
      · cases found
  · cases found

end Finding

/-! ### Cutting a text -/

/-- A part of a text: a character that stands for itself, or a reference as it is written. -/
inductive Piece where
  | plain (c : Char)
  | reference (written : List Char) (value : Reference)

namespace Piece

def source : Piece → List Char
  | plain c => [c]
  | reference written _ => written

end Piece

/-- A text cut at its references, the leftmost first, none overlapping another. -/
inductive Cut : List Char → List Piece → Prop where
  | done : Cut [] []
  | plain {c : Char} {rest : List Char} {pieces : List Piece}
      (unreferenced : ∀ written behind reference, c :: rest = written ++ behind → ¬ Written written reference)
      (cut : Cut rest pieces) : Cut (c :: rest) (.plain c :: pieces)
  | reference {written rest : List Char} {reference : Reference} {pieces : List Piece}
      (isWritten : Written written reference) (cut : Cut rest pieces) :
      Cut (written ++ rest) (.reference written reference :: pieces)

section Cutting

variable {text : List Char} {pieces : List Piece}

theorem Cut.flatMap_source (cut : Cut text pieces) : pieces.flatMap Piece.source = text := by
  induction cut with
  | done => rfl
  | plain unreferenced cut ih => rw [List.flatMap_cons, ih]; rfl
  | reference isWritten cut ih => rw [List.flatMap_cons, ih]; rfl

theorem referenceAt?_eq_none_iff :
    referenceAt? text = none ↔ ∀ written behind reference, text = written ++ behind → ¬ Written written reference := by
  constructor
  · rintro none written behind reference rfl isWritten
    rw [referenceAt?_of_written isWritten] at none
    cases none
  · intro unreferenced
    cases found : referenceAt? text with
    | none => rfl
    | some parts =>
      obtain ⟨written, behind, same, isWritten, -⟩ := exists_written_of_referenceAt? found
      exact absurd isWritten (unreferenced written behind _ same)

theorem exists_cut (text : List Char) : ∃ pieces, Cut text pieces := by
  -- on the length, since a reference takes several characters
  induction length : text.length using Nat.strongRecOn generalizing text with
  | ind length ih =>
    cases text with
    | nil => exact ⟨[], .done⟩
    | cons c rest =>
      subst length
      cases found : referenceAt? (c :: rest) with
      | none =>
        obtain ⟨pieces, cut⟩ := ih rest.length (Nat.lt_succ_self _) rest rfl
        exact ⟨_, .plain (referenceAt?_eq_none_iff.mp found) cut⟩
      | some parts =>
        obtain ⟨written, behind, same, isWritten, -⟩ := exists_written_of_referenceAt? found
        have shorter : behind.length < (c :: rest).length := by
          rw [same, List.length_append]
          have := List.length_pos_iff.mpr isWritten.ne_nil
          omega
        obtain ⟨pieces, cut⟩ := ih behind.length shorter behind rfl
        rw [same]
        exact ⟨_, .reference isWritten cut⟩

/-- What is written in one way is not written in another, nor does it start with another reference. -/
theorem Written.unique {written other behind behindOther : List Char} {reference referenceOther : Reference}
    (isWritten : Written written reference) (isWrittenOther : Written other referenceOther)
    (same : written ++ behind = other ++ behindOther) :
    written = other ∧ reference = referenceOther ∧ behind = behindOther := by
  have found := referenceAt?_of_written isWritten behind
  rw [same, referenceAt?_of_written isWrittenOther] at found
  obtain ⟨sameReference, sameLength⟩ := Prod.mk.inj (Option.some.inj found)
  obtain ⟨sameWritten, sameBehind⟩ := List.append_inj same sameLength.symm
  exact ⟨sameWritten, sameReference.symm, sameBehind⟩

theorem Cut.unique {others : List Piece} (cut : Cut text pieces) (cutOther : Cut text others) : others = pieces := by
  induction cut generalizing others with
  | done =>
    generalize same : ([] : List Char) = text at cutOther
    cases cutOther with
    | done => rfl
    | plain unreferenced cut => cases same
    | reference isWritten cut => exact absurd (List.append_eq_nil_iff.mp same.symm).1 isWritten.ne_nil
  | @plain c rest pieces unreferenced cut ih =>
    generalize same : c :: rest = text at cutOther
    cases cutOther with
    | done => cases same
    | plain unreferencedOther cutOther =>
      cases same
      rw [ih cutOther]
    | reference isWritten cutOther => exact absurd isWritten (unreferenced _ _ _ same)
  | @reference written rest reference pieces isWritten cut ih =>
    generalize same : written ++ rest = text at cutOther
    cases cutOther with
    | done => exact absurd (List.append_eq_nil_iff.mp same).1 isWritten.ne_nil
    | plain unreferenced cutOther => exact absurd isWritten (unreferenced _ _ _ same.symm)
    | reference isWrittenOther cutOther =>
      obtain ⟨rfl, rfl, rfl⟩ := isWritten.unique isWrittenOther same
      rw [ih cutOther]

/-! ### Finding all references -/

def located (place : Nat) : List Piece → List Occurrence
  | [] => []
  | .plain _ :: rest => located (place + 1) rest
  | .reference written reference :: rest =>
    ⟨place, place + written.length, reference⟩ :: located (place + written.length) rest

theorem occurrencesFrom_covered (place : Nat) (covered rest : List Char) :
    occurrencesFrom place covered.length (covered ++ rest) = occurrencesFrom (place + covered.length) 0 rest := by
  induction covered generalizing place with
  | nil => rfl
  | cons c covered ih =>
    rw [List.length_cons, List.cons_append, occurrencesFrom, ih]
    congr 1
    omega

/-- The search finds the references of the cut, each where it stands. -/
theorem Cut.occurrencesFrom_eq (cut : Cut text pieces) (place : Nat) :
    occurrencesFrom place 0 text = located place pieces := by
  induction cut generalizing place with
  | done => rfl
  | plain unreferenced cut ih =>
    rw [occurrencesFrom, referenceAt?_eq_none_iff.mpr unreferenced]
    exact ih (place + 1)
  | @reference written rest reference pieces isWritten cut ih =>
    obtain ⟨c, inner, rfl⟩ := List.exists_cons_of_ne_nil isWritten.ne_nil
    have found := referenceAt?_of_written isWritten rest
    rw [List.cons_append] at found
    rw [List.cons_append, occurrencesFrom, found]
    show _ :: occurrencesFrom (place + 1) inner.length (inner ++ rest) = _
    rw [occurrencesFrom_covered, ih, located, List.length_cons]
    congr 2
    omega

end Cutting

/-! ### Replacing -/

/-- The variable's value if it is set, else the default. -/
def Reference.filled? (environment : Environment) (reference : Reference) : Option String :=
  (environment reference.name).or reference.default

/-- What takes the place of a piece. A reference that has no value leaves nothing. -/
def Piece.filled (environment : Environment) : Piece → List Char
  | .plain c => [c]
  | .reference _ value => ((value.filled? environment).getD "").toList

def Piece.IsMissing (environment : Environment) : Piece → Prop
  | .plain _ => False
  | .reference _ value => value.filled? environment = none

section Replacing

variable {environment : Environment} {pieces front back : List Piece} {written : List Char} {reference : Reference}
  {place : Nat}

def replacements (environment : Environment) (place : Nat) (pieces : List Piece) : List Replacement :=
  (located place pieces).map fun occurrence =>
    ⟨occurrence.start, occurrence.stop, (occurrence.reference.filled? environment).getD ""⟩

theorem replacements_reference (environment : Environment) (place : Nat) (written : List Char)
    (reference : Reference) (rest : List Piece) :
    replacements environment place (.reference written reference :: rest) =
      ⟨place, place + written.length, (reference.filled? environment).getD ""⟩ ::
        replacements environment (place + written.length) rest :=
  rfl

/-- Replacing a part leaves what is in front of it. -/
theorem apply_replacement (before written after : List Char) (value : String) :
    Replacement.apply ⟨before.length, before.length + written.length, value⟩ (before ++ (written ++ after)) =
      before ++ (value.toList ++ after) := by
  have behind : (before ++ (written ++ after)).drop (before.length + written.length) = after := by
    rw [← List.append_assoc, ← List.length_append, List.drop_left]
  rw [Replacement.apply, List.take_left, behind]

/-- The last replacement comes first, so each of them finds its own part where it was in the text. -/
theorem foldr_replacements (environment : Environment) (pieces : List Piece) (before : List Char) :
    (replacements environment before.length pieces).foldr Replacement.apply (before ++ pieces.flatMap Piece.source) =
      before ++ pieces.flatMap (Piece.filled environment) := by
  induction pieces generalizing before with
  | nil => rfl
  | cons piece rest ih =>
    rw [List.flatMap_cons, List.flatMap_cons]
    cases piece with
    | plain c =>
      have onward := ih (before ++ [c])
      rw [List.length_append, List.append_assoc, List.append_assoc] at onward
      exact onward
    | reference written reference =>
      have onward := ih (before ++ written)
      rw [List.length_append, List.append_assoc, List.append_assoc] at onward
      rw [replacements_reference, List.foldr_cons, Piece.source, onward, apply_replacement]
      rfl

theorem replacement_of_filled {value : String} (filled : reference.filled? environment = some value) (stop : Nat) :
    Occurrence.replacement environment ⟨place, stop, reference⟩ = .ok ⟨place, stop, value⟩ := by
  unfold Reference.filled? at filled
  simp only [Occurrence.replacement, Reference.value, filled]
  rfl

theorem replacement_of_missing (missing : reference.filled? environment = none) (stop : Nat) :
    Occurrence.replacement environment ⟨place, stop, reference⟩ = .error reference.name := by
  unfold Reference.filled? at missing
  simp only [Occurrence.replacement, Reference.value, missing]
  rfl

/-- Up to the first reference that has no value all references are given theirs. -/
theorem mapM_replacement_append (place : Nat) (back : List Piece)
    (filled : ∀ piece ∈ front, ¬ piece.IsMissing environment) :
    (located place (front ++ back)).mapM (Occurrence.replacement environment) =
      ((located (place + (front.flatMap Piece.source).length) back).mapM (Occurrence.replacement environment)).map
        (replacements environment place front ++ ·) := by
  induction front generalizing place with
  | nil =>
    show _ = Except.map id _
    rw [Except.map_id]
    rfl
  | cons piece rest ih =>
    have onward := fun place => ih place fun piece member => filled piece (List.mem_cons_of_mem _ member)
    rw [List.flatMap_cons, List.length_append, ← Nat.add_assoc]
    cases piece with
    | plain c => exact onward (place + 1)
    | reference written reference =>
      have set : reference.filled? environment ≠ none := filled _ (List.mem_cons_self ..)
      obtain ⟨value, set⟩ := Option.ne_none_iff_exists'.mp set
      rw [List.cons_append, located, List.mapM_cons, replacement_of_filled set, ok_bind, onward, replacements_reference,
        set, Piece.source]
      cases (located (place + written.length + (rest.flatMap Piece.source).length) back).mapM
          (Occurrence.replacement environment) <;> rfl

theorem Cut.substitute_of_filled {text : String} (cut : Cut text.toList pieces)
    (filled : ∀ piece ∈ pieces, ¬ piece.IsMissing environment) :
    substitute environment text = .ok (String.ofList (pieces.flatMap (Piece.filled environment))) := by
  have all := mapM_replacement_append 0 [] filled
  rw [List.append_nil] at all
  have replaced := foldr_replacements environment pieces []
  rw [cut.flatMap_source] at replaced
  rw [substitute, occurrences, cut.occurrencesFrom_eq, all]
  show Except.ok (String.ofList ((replacements environment 0 pieces ++ []).foldr _ _)) = _
  rw [List.append_nil]
  exact congrArg (fun chars => Except.ok (String.ofList chars)) replaced

theorem Cut.substitute_of_missing {text : String}
    (cut : Cut text.toList (front ++ .reference written reference :: back))
    (filled : ∀ piece ∈ front, ¬ piece.IsMissing environment) (missing : reference.filled? environment = none) :
    substitute environment text = .error reference.name := by
  rw [substitute, occurrences, cut.occurrencesFrom_eq, mapM_replacement_append _ _ filled, located, List.mapM_cons,
    replacement_of_missing missing]
  rfl

/-- Either all references have values, or there is a first one that has none. -/
theorem filled_or_first_missing (environment : Environment) (pieces : List Piece) :
    (∀ piece ∈ pieces, ¬ piece.IsMissing environment) ∨
    ∃ front written reference back, pieces = front ++ .reference written reference :: back ∧
      (∀ piece ∈ front, ¬ piece.IsMissing environment) ∧ reference.filled? environment = none := by
  induction pieces with
  | nil => exact .inl nofun
  | cons piece rest ih =>
    by_cases missing : piece.IsMissing environment
    · cases piece with
      | plain c => cases missing
      | reference written reference => exact .inr ⟨[], written, reference, rest, rfl, nofun, missing⟩
    · rcases ih with filled | ⟨front, written, reference, back, rfl, filled, first⟩
      · exact .inl (List.forall_mem_cons.mpr ⟨missing, filled⟩)
      · exact .inr ⟨piece :: front, written, reference, back, rfl, List.forall_mem_cons.mpr ⟨missing, filled⟩, first⟩

end Replacing

/-- The result is that of replacing each piece by itself: it has all values, or names the first reference
without one. -/
structure Substituted (environment : Environment) (pieces : List Piece) (result : Except ConfigError String) :
    Prop where
  filled : (∀ piece ∈ pieces, ¬ piece.IsMissing environment) →
    result = .ok (String.ofList (pieces.flatMap (Piece.filled environment)))
  first : ∀ front written reference back, pieces = front ++ .reference written reference :: back →
    (∀ piece ∈ front, ¬ piece.IsMissing environment) → reference.filled? environment = none →
    result = .error (.invalid ("Environment variable '" ++ reference.name ++ "' not found"))
  fails_iff : (∃ fault, result = .error fault) ↔ ∃ piece ∈ pieces, piece.IsMissing environment

/-- A text of up to a mebibyte is cut at its references in one way only, and each piece is replaced by itself,
whatever the values are; a longer text is refused. -/
theorem resolveVariables_substitutes (environment : Environment) (text : String) :
    ∃ pieces, Cut text.toList pieces ∧ (∀ others, Cut text.toList others → others = pieces) ∧
      (text.utf8ByteSize ≤ 1048576 → Substituted environment pieces (resolveVariables environment text)) ∧
      (1048576 < text.utf8ByteSize → ∃ fault, resolveVariables environment text = .error fault) := by
  obtain ⟨pieces, cut⟩ := exists_cut text.toList
  refine ⟨pieces, cut, fun others => cut.unique, fun fits => ?_, fun long => ?_⟩
  · have resolved : resolveVariables environment text = (substitute environment text).mapError fun name =>
        .invalid ("Environment variable '" ++ name ++ "' not found") :=
      if_neg (Nat.not_lt.mpr fits)
    have whole : (∀ piece ∈ pieces, ¬ piece.IsMissing environment) → resolveVariables environment text =
        .ok (String.ofList (pieces.flatMap (Piece.filled environment))) := by
      intro filled
      rw [resolved, cut.substitute_of_filled filled]
      rfl
    have refused : ∀ front written reference back, pieces = front ++ .reference written reference :: back →
        (∀ piece ∈ front, ¬ piece.IsMissing environment) → reference.filled? environment = none →
        resolveVariables environment text =
          .error (.invalid ("Environment variable '" ++ reference.name ++ "' not found")) := by
      rintro front written reference back rfl filled missing
      rw [resolved, cut.substitute_of_missing filled missing]
      rfl
    refine ⟨whole, refused, ?_⟩
    rcases filled_or_first_missing environment pieces with
      filled | ⟨front, written, reference, back, rfl, filled, missing⟩
    · rw [whole filled]
      exact ⟨nofun, fun ⟨piece, member, missing⟩ => absurd missing (filled piece member)⟩
    · rw [refused front written reference back rfl filled missing]
      exact ⟨fun _ => ⟨.reference written reference, by simp, missing⟩, fun _ => ⟨_, rfl⟩⟩
  · exact ⟨_, if_pos long⟩

/-- A value that looks like a reference stays as it is, and a shorter or longer one moves nothing else. -/
example : substitute (fun name => if name = "A" then some "$\x7bB\x7d" else none)
    "é$\x7bA\x7d$\x7bB:-ü\x7d\x7d$\x7bA" = .ok "é$\x7bB\x7dü\x7d$\x7bA" := by
  decide +kernel

end LedgerCapture.Config
