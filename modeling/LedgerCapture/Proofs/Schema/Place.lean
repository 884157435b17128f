import LedgerCapture.Proofs.Config.Environment
import LedgerCapture.Proofs.Decimal.Integer
import LedgerCapture.Schema
import Mathlib.Data.List.DropRight

/-!
Places in a document and the texts that name them in reports. As long as the names themselves hold no dots and no
brackets, no two places have the same text, so that a report can be followed back into the document.
-/
namespace LedgerCapture

namespace Json

inductive Step where
  | member (name : String)
  | item (index : Nat)
  deriving DecidableEq, Repr

def Step.go : Step → Json → Option Json
  | member name, document => document.member? name
  | item index, document => document.items?.bind (·[index]?)

def follow : List Step → Json → Option Json
  | [], document => some document
  | step :: rest, document => (step.go document).bind (follow rest)

theorem follow_append (path more : List Step) (document : Json) :
    follow (path ++ more) document = (follow path document).bind (follow more) := by
  induction path generalizing document with
  | nil => rfl
  | cons step rest ih =>
    rw [List.cons_append, follow, follow, Option.bind_assoc]
    exact congrArg _ (funext ih)

/-- Only an object has members. -/
theorem typeName_of_follow_member {name : String} {rest : List Step} {document value : Json}
    (there : follow (.member name :: rest) document = some value) : document.typeName = "object" := by
  cases document with
  | object members => rfl
  | _ => cases there

end Json

namespace Schema

open Json (Step)

/-! ### Texts -/

def stepText : Step → String
  | .member name => "." ++ name
  | .item index => "[" ++ toString index ++ "]"

def textFrom (start : String) (path : List Step) : String :=
  path.foldl (fun text step => text ++ stepText step) start

/-- The text of a place. The document itself has one too, although it has no name. -/
def placeText : List Step → String
  | [] => ValidationError.root
  | .member name :: rest => textFrom name rest
  | .item index :: rest => textFrom "" (.item index :: rest)

theorem append_textFrom (front start : String) (path : List Step) :
    front ++ textFrom start path = textFrom (front ++ start) path := by
  induction path generalizing start with
  | nil => rfl
  | cons step rest ih =>
    rw [textFrom, textFrom, List.foldl_cons, List.foldl_cons, String.append_assoc]
    exact ih _

/-- Going down from a member is the same as going down by that member. -/
theorem member_textFrom (outer name : String) (path : List Step) :
    outer ++ "." ++ textFrom name path = textFrom outer (.member name :: path) := by
  rw [append_textFrom, String.append_assoc]
  rfl

def stepChars (path : List Step) : List Char :=
  path.flatMap fun step => (stepText step).toList

theorem toList_textFrom (start : String) (path : List Step) :
    (textFrom start path).toList = start.toList ++ stepChars path := by
  induction path generalizing start with
  | nil => exact (List.append_nil _).symm
  | cons step rest ih =>
    rw [textFrom, List.foldl_cons, stepChars, List.flatMap_cons, ← List.append_assoc, ← String.toList_append]
    exact ih _

theorem stepChars_member (name : String) (rest : List Step) :
    stepChars (.member name :: rest) = '.' :: (name.toList ++ stepChars rest) := by
  rw [stepChars, List.flatMap_cons, stepText, String.toList_append]
  rfl

theorem stepChars_item (index : Nat) (rest : List Step) :
    stepChars (.item index :: rest) = '[' :: (Nat.toDigits 10 index ++ ']' :: stepChars rest) := by
  have digits : (toString index).toList = Nat.toDigits 10 index := by
    rw [Nat.toString_eq_ofList_toDigits, String.toList_ofList]
  rw [stepChars, List.flatMap_cons, stepText, String.toList_append, String.toList_append, digits,
    List.append_assoc, List.append_assoc]
  rfl

/-! ### Reading a text back -/

/-- The characters that part the steps of a place. -/
def isMark (c : Char) : Bool :=
  c == '.' || c == '[' || c == ']'

def IsPlain (name : String) : Prop :=
  name.toList.any isMark = false

instance (name : String) : Decidable (IsPlain name) :=
  inferInstanceAs (Decidable (_ = false))

theorem IsPlain.not_isMark {name : String} {c : Char} (plain : IsPlain name) (member : c ∈ name.toList) :
    isMark c = false := by
  simpa using List.any_eq_false.mp plain c member

def PlainPath (path : List Step) : Prop :=
  ∀ name, .member name ∈ path → IsPlain name

theorem PlainPath.tail {step : Step} {rest : List Step} (plain : PlainPath (step :: rest)) : PlainPath rest :=
  fun name member => plain name (List.mem_cons_of_mem _ member)

/-- Where one name or number ends, so does the text, or the next step starts with a mark. -/
theorem ended_stepChars (path : List Step) : Config.Ended (!isMark ·) (stepChars path) := by
  intro c first
  cases path with
  | nil => cases first
  | cons step rest =>
    cases step with
    | member name =>
      rw [stepChars_member] at first
      cases first
      rfl
    | item index =>
      rw [stepChars_item] at first
      cases first
      rfl

theorem append_inj_of_ended {kind : Char → Bool} {left right rest more : List Char}
    (insideLeft : ∀ c ∈ left, kind c = true) (insideRight : ∀ c ∈ right, kind c = true)
    (ended : Config.Ended kind rest) (endedToo : Config.Ended kind more) (same : left ++ rest = right ++ more) :
    left = right ∧ rest = more := by
  have runs := congrArg (List.takeWhile kind) same
  rw [Config.takeWhile_append_ended insideLeft ended, Config.takeWhile_append_ended insideRight endedToo] at runs
  subst runs
  exact ⟨rfl, List.append_cancel_left same⟩

theorem name_append_inj {name other : String} {path more : List Step} (plain : IsPlain name)
    (plainToo : IsPlain other) (same : name.toList ++ stepChars path = other.toList ++ stepChars more) :
    name = other ∧ stepChars path = stepChars more := by
  have inside : ∀ {name : String}, IsPlain name → ∀ c ∈ name.toList, (!isMark c) = true :=
    fun plain c member => by rw [plain.not_isMark member]; rfl
  obtain ⟨names, rests⟩ := append_inj_of_ended (inside plain) (inside plainToo)
    (ended_stepChars path) (ended_stepChars more) same
  exact ⟨String.toList_inj.mp names, rests⟩

theorem index_append_inj {index other : Nat} {rest more : List Char}
    (same : Nat.toDigits 10 index ++ ']' :: rest = Nat.toDigits 10 other ++ ']' :: more) :
    index = other ∧ rest = more := by
  have digits : ∀ number, ∀ c ∈ Nat.toDigits 10 number, decide ('0' ≤ c ∧ c ≤ '9') = true :=
    fun number c member => decide_eq_true (Decimal.digit_of_mem_toDigits member)
  have ended : ∀ rest, Config.Ended (fun c => decide ('0' ≤ c ∧ c ≤ '9')) (']' :: rest) := by
    rintro rest c ⟨⟩
    decide
  obtain ⟨numbers, rests⟩ := append_inj_of_ended (digits index) (digits other) (ended rest) (ended more) same
  have value := congrArg (Nat.ofDigitChars 10 · 0) numbers
  simp only [Nat.ofDigitChars_ten_toDigits] at value
  exact ⟨value, (List.cons.inj rests).2⟩

theorem stepChars_injective {path other : List Step} (plain : PlainPath path) (plainToo : PlainPath other)
    (same : stepChars path = stepChars other) : path = other := by
  induction path generalizing other with
  | nil =>
    rcases other with _ | ⟨⟨name⟩ | ⟨index⟩, rest⟩
    · rfl
    · rw [stepChars_member] at same; cases same
    · rw [stepChars_item] at same; cases same
  | cons step rest ih =>
    -- the mark in front tells the two kinds of steps apart
    cases step with
    | member name =>
      rw [stepChars_member] at same
      rcases other with _ | ⟨⟨name'⟩ | ⟨index⟩, rest'⟩
      · cases same
      · rw [stepChars_member] at same
        obtain ⟨rfl, rests⟩ := name_append_inj (plain name (List.mem_cons_self ..))
          (plainToo name' (List.mem_cons_self ..)) (List.cons.inj same).2
        rw [ih plain.tail plainToo.tail rests]
      · rw [stepChars_item] at same
        exact absurd (List.cons.inj same).1 (by decide)
    | item index =>
      rw [stepChars_item] at same
      rcases other with _ | ⟨⟨name⟩ | ⟨index'⟩, rest'⟩
      · cases same
      · rw [stepChars_member] at same
        exact absurd (List.cons.inj same).1 (by decide)
      · rw [stepChars_item] at same
        obtain ⟨rfl, rests⟩ := index_append_inj (List.cons.inj same).2
        rw [ih plain.tail plainToo.tail rests]

/-- Two places below a document have different texts. -/
theorem placeText_injective {name other : String} {rest more : List Step} (plain : PlainPath (.member name :: rest))
    (plainToo : PlainPath (.member other :: more))
    (same : placeText (.member name :: rest) = placeText (.member other :: more)) :
    (.member name :: rest : List Step) = .member other :: more := by
  have chars := congrArg String.toList same
  rw [placeText, placeText, toList_textFrom, toList_textFrom] at chars
  obtain ⟨rfl, rests⟩ := name_append_inj (plain name (List.mem_cons_self ..))
    (plainToo other (List.mem_cons_self ..)) chars
  rw [stepChars_injective plain.tail plainToo.tail rests]

/-! ### Members with the name of the document -/

/-- The step to a member that is called as the document itself is called in reports. -/
abbrev rootMember : Step :=
  .member ValidationError.root

/-- The only place with the text of the document is its member of that name. -/
theorem textFrom_eq_root_iff {name : String} {path : List Step} :
    textFrom name path = ValidationError.root ↔ name = ValidationError.root ∧ path = [] := by
  constructor
  · intro same
    have chars := congrArg String.toList same
    rw [toList_textFrom] at chars
    have plain : ∀ c ∈ stepChars path, isMark c = false := by
      intro c member
      have inRoot : c ∈ ValidationError.root.toList := chars ▸ List.mem_append_right _ member
      exact (by decide : IsPlain ValidationError.root).not_isMark inRoot
    rcases path with _ | ⟨⟨name'⟩ | ⟨index⟩, rest⟩
    · exact ⟨same, rfl⟩
    · rw [stepChars_member] at plain
      exact nomatch plain '.' (List.mem_cons_self ..)
    · rw [stepChars_item] at plain
      exact nomatch plain '[' (List.mem_cons_self ..)
  · rintro ⟨rfl, rfl⟩
    rfl

/-- The steps without the last ones, as far as they go to members with the name of the document. -/
def withoutRoots (path : List Step) : List Step :=
  path.rdropWhile (· = rootMember)

theorem withoutRoots_cons {step : Step} {rest : List Step} :
    withoutRoots (step :: rest) =
      if step = rootMember ∧ withoutRoots rest = [] then [] else step :: withoutRoots rest := by
  unfold withoutRoots List.rdropWhile
  rw [List.reverse_cons, List.dropWhile_append]
  by_cases gone : List.dropWhile (· = rootMember) rest.reverse = []
  · by_cases same : step = rootMember <;> simp [gone, same]
  · simp [gone]

/-- What is left out starts with such a member. -/
theorem withoutRoots_cases (path : List Step) :
    withoutRoots path = path ∨ ∃ more, path = withoutRoots path ++ rootMember :: more := by
  induction path with
  | nil => exact .inl rfl
  | cons step rest ih =>
    rw [withoutRoots_cons]
    split
    · next gone => exact .inr ⟨rest, by rw [gone.1, List.nil_append]⟩
    · rcases ih with same | ⟨more, same⟩
      · exact .inl (congrArg _ same)
      · exact .inr ⟨more, congrArg _ same⟩

end Schema

end LedgerCapture
