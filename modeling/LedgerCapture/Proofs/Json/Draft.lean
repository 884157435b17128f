import LedgerCapture.Json.Draft
import LedgerCapture.Proofs.Json.Scalar

/-!
Texts and their drafts. A text that spells a draft gives just this draft to whatever it stands in, be it an array,
an object or nothing, so the draft of a whole is put together from the drafts of its parts.
-/
namespace LedgerCapture.Json

open Draft Grammar

namespace Draft

theorem foldl_complete (found : List Token) (value : Draft) (more : Bool) :
    found.foldl step (.complete value more) = .complete value (more || !found.isEmpty) := by
  induction found generalizing more with
  | nil => simp
  | cons token rest ih => simp [step, ih]

/-- Tokens that make up one value, wherever they stand. -/
def Builds (found : List Token) (value : Draft) : Prop :=
  ∀ frames, found.foldl step (.reading frames .value) = place value frames

def BuildsItems (found : List Token) (items : List Draft) : Prop :=
  ∀ frames done, found.foldl step (.reading frames (.nextItem done)) =
    .reading frames (.afterItem (items.reverse ++ done))

def BuildsMembers (found : List Token) (members : List (Scalar String × Draft)) : Prop :=
  ∀ frames done, found.foldl step (.reading frames (.nextKey done)) =
    .reading frames (.afterMember (members.reverse ++ done))

/-! ### Values -/

theorem builds_literal (value : Literal) : Builds [.literal (.ok value)] (.literal value) :=
  fun _ => rfl

theorem builds_number {value : Scalar Number} (passes : value.skip = .ok ()) :
    Builds [.number value] (.number value) := by
  intro frames
  simp only [List.foldl_cons, List.foldl_nil, step, start, placeScalar, passes]

theorem builds_string {value : Scalar String} (passes : value.skip = .ok ()) :
    Builds [.string value] (.string value) := by
  intro frames
  simp only [List.foldl_cons, List.foldl_nil, step, start, placeScalar, passes]

/-! ### Arrays -/

/-- A value starts with no closing bracket: with one the reading would have ended. -/
theorem Builds.foldl_nextItem {found : List Token} {value : Draft} (builds : Builds found value)
    (frames : List Frame) (done : List Draft) :
    found.foldl step (.reading frames (.nextItem done)) = .reading frames (.afterItem (value :: done)) := by
  have whole := builds (.list done :: frames)
  cases found with
  | nil => cases whole
  | cons token rest =>
    cases token with
    | closeList =>
      rw [List.foldl_cons, step, start, stop, foldl_complete] at whole
      cases whole
    | _ => exact whole

theorem Builds.single {found : List Token} {value : Draft} (builds : Builds found value) :
    BuildsItems found [value] :=
  fun frames done => builds.foldl_nextItem frames done

theorem BuildsItems.append {found more : List Token} {items others : List Draft} (builds : BuildsItems found items)
    (buildsMore : BuildsItems more others) : BuildsItems (found ++ .comma :: more) (items ++ others) := by
  intro frames done
  rw [List.foldl_append, builds, List.foldl_cons, step, buildsMore, List.reverse_append, List.append_assoc]

theorem BuildsItems.foldl_firstItem {found : List Token} {items : List Draft} (builds : BuildsItems found items)
    (frames : List Frame) :
    found.foldl step (.reading frames .firstItem) = .reading frames (.afterItem items.reverse) := by
  have whole := builds frames []
  rw [List.append_nil] at whole
  cases found with
  | nil => cases whole
  | cons token rest =>
    cases token with
    | closeList =>
      rw [List.foldl_cons, step, stop, foldl_complete] at whole
      cases whole
    | _ => exact whole

theorem builds_emptyList : Builds [.openList, .closeList] (.list [] .closed) :=
  fun _ => rfl

theorem BuildsItems.list {found : List Token} {items : List Draft} (builds : BuildsItems found items) :
    Builds (.openList :: (found ++ [.closeList])) (.list items .closed) := by
  intro frames
  rw [List.foldl_cons, step, start, List.foldl_append, builds.foldl_firstItem, List.foldl_cons, step,
    List.reverse_reverse, List.foldl_nil]

/-! ### Objects -/

theorem Builds.member {found : List Token} {key : Scalar String} {value : Draft} (passes : key.skip = .ok ())
    (builds : Builds found value) : BuildsMembers (.string key :: .colon :: found) [(key, value)] := by
  intro frames done
  have named : step (.reading frames (.nextKey done)) (.string key) = .reading frames (.afterKey done key) := by
    simp only [step, startKey, passes]
  rw [List.foldl_cons, named, List.foldl_cons, step, builds]
  rfl

theorem BuildsMembers.append {found more : List Token} {members others : List (Scalar String × Draft)}
    (builds : BuildsMembers found members) (buildsMore : BuildsMembers more others) :
    BuildsMembers (found ++ .comma :: more) (members ++ others) := by
  intro frames done
  rw [List.foldl_append, builds, List.foldl_cons, step, buildsMore, List.reverse_append, List.append_assoc]

theorem BuildsMembers.foldl_firstKey {found : List Token} {members : List (Scalar String × Draft)}
    (builds : BuildsMembers found members) (frames : List Frame) :
    found.foldl step (.reading frames .firstKey) = .reading frames (.afterMember members.reverse) := by
  have whole := builds frames []
  rw [List.append_nil] at whole
  cases found with
  | nil => cases whole
  | cons token rest =>
    cases token with
    | closeObject =>
      rw [List.foldl_cons, step, stop, foldl_complete] at whole
      cases whole
    | _ => exact whole

theorem builds_emptyObject : Builds [.openObject, .closeObject] (.object [] .closed) :=
  fun _ => rfl

theorem BuildsMembers.object {found : List Token} {members : List (Scalar String × Draft)}
    (builds : BuildsMembers found members) :
    Builds (.openObject :: (found ++ [.closeObject])) (.object members .closed) := by
  intro frames
  rw [List.foldl_cons, step, start, List.foldl_append, builds.foldl_firstKey, List.foldl_cons, step,
    List.reverse_reverse, List.foldl_nil]

end Draft

/-! ### Texts -/

/-- A text that is cut into the tokens of a value, whatever follows of the given kind. -/
def Spells (follow : List Char → Prop) (text : List Char) (value : Draft) : Prop :=
  ∃ found, Cuts follow text found ∧ Builds found value

def SpellsItems (text : List Char) (items : List Draft) : Prop :=
  ∃ found, Cuts Stops text found ∧ BuildsItems found items

def SpellsMembers (text : List Char) (members : List (Scalar String × Draft)) : Prop :=
  ∃ found, Cuts Stops text found ∧ BuildsMembers found members

section

variable {follow : List Char → Prop} {text gap rest : List Char} {value : Draft} {items others : List Draft}
  {members entries : List (Scalar String × Draft)}

theorem Spells.weaken (spells : Spells Anything text value) : Spells follow text value := by
  obtain ⟨found, cuts, builds⟩ := spells
  exact ⟨found, cuts.weaken, builds⟩

theorem Spells.number {scalar : Scalar Number} (passes : scalar.skip = .ok ())
    (cuts : Cuts Stops text [.number scalar]) : Spells Stops text (.number scalar) :=
  ⟨_, cuts, builds_number passes⟩

theorem Spells.string {scalar : Scalar String} (passes : scalar.skip = .ok ())
    (cuts : Cuts Anything text [.string scalar]) : Spells Anything text (.string scalar) :=
  ⟨_, cuts, builds_string passes⟩

theorem Spells.gap_append (isGap : IsGap gap) (spells : Spells follow text value) :
    Spells follow (gap ++ text) value := by
  obtain ⟨found, cuts, builds⟩ := spells
  refine ⟨found, fun more follows => ?_, builds⟩
  rw [List.append_assoc, Cuts.gap isGap _ trivial, List.nil_append, cuts more follows]

theorem Spells.append_gap (isGap : IsGap gap) (spells : Spells Stops text value) :
    Spells Stops (text ++ gap) value := by
  obtain ⟨found, cuts, builds⟩ := spells
  have cutsGap := cuts.append (Cuts.gap isGap).weaken fun _ stops => .gap isGap stops
  exact ⟨found, by rwa [List.append_nil] at cutsGap, builds⟩

/-! ### Arrays -/

theorem Spells.single (spells : Spells Stops text value) : SpellsItems text [value] := by
  obtain ⟨found, cuts, builds⟩ := spells
  exact ⟨found, cuts, builds.single⟩

theorem SpellsItems.append (spells : SpellsItems text items) (spellsMore : SpellsItems rest others) :
    SpellsItems (text ++ ',' :: rest) (items ++ others) := by
  obtain ⟨found, cuts, builds⟩ := spells
  obtain ⟨more, cutsMore, buildsMore⟩ := spellsMore
  have comma := cutsMore.mark (c := ',') rfl fun _ => rfl
  exact ⟨found ++ .comma :: more, cuts.append comma fun _ _ => .mark (by simp) _, builds.append buildsMore⟩

theorem Spells.emptyList (isGap : IsGap gap) : Spells Anything ('[' :: (gap ++ [']'])) (.list [] .closed) := by
  have closed : Cuts Anything [']'] [.closeList] := .of_tokenAt rfl fun _ _ => rfl
  have inner := (Cuts.gap isGap).weaken.append closed fun _ _ => .mark (by simp) _
  exact ⟨_, inner.mark (c := '[') rfl fun _ => rfl, builds_emptyList⟩

theorem SpellsItems.list (spells : SpellsItems text items) :
    Spells Anything ('[' :: (text ++ [']'])) (.list items .closed) := by
  obtain ⟨found, cuts, builds⟩ := spells
  have closed : Cuts Anything [']'] [.closeList] := .of_tokenAt rfl fun _ _ => rfl
  have inner := cuts.append closed fun _ _ => .mark (by simp) _
  exact ⟨_, inner.mark (c := '[') rfl fun _ => rfl, builds.list⟩

/-! ### Objects -/

theorem Spells.member {name before after : List Char} {key : Scalar String} (isGap : IsGap before)
    (isGapAfter : IsGap after) (passes : key.skip = .ok ()) (cutsName : Cuts Anything name [.string key])
    (spells : Spells Stops text value) :
    SpellsMembers (before ++ (name ++ (after ++ ':' :: text))) [(key, value)] := by
  obtain ⟨found, cuts, builds⟩ := spells
  have colon : Cuts Stops (':' :: text) (.colon :: found) := cuts.mark rfl fun _ => rfl
  have behind := (Cuts.gap isGapAfter).weaken.append colon fun _ _ => .mark (by simp) _
  have named : Cuts Stops (name ++ (after ++ ':' :: text)) (.string key :: .colon :: found) := by
    intro more stops
    rw [List.append_assoc, cutsName _ trivial, behind more stops]
    rfl
  refine ⟨_, fun more stops => ?_, builds.member passes⟩
  rw [List.append_assoc, Cuts.gap isGap _ trivial, named more stops]
  rfl

theorem SpellsMembers.append (spells : SpellsMembers text members) (spellsMore : SpellsMembers rest entries) :
    SpellsMembers (text ++ ',' :: rest) (members ++ entries) := by
  obtain ⟨found, cuts, builds⟩ := spells
  obtain ⟨more, cutsMore, buildsMore⟩ := spellsMore
  have comma := cutsMore.mark (c := ',') rfl fun _ => rfl
  exact ⟨found ++ .comma :: more, cuts.append comma fun _ _ => .mark (by simp) _, builds.append buildsMore⟩

theorem Spells.emptyObject (isGap : IsGap gap) :
    Spells Anything ('\x7b' :: (gap ++ ['\x7d'])) (.object [] .closed) := by
  have closed : Cuts Anything ['\x7d'] [.closeObject] := .of_tokenAt rfl fun _ _ => rfl
  have inner := (Cuts.gap isGap).weaken.append closed fun _ _ => .mark (by simp) _
  exact ⟨_, inner.mark (c := '\x7b') rfl fun _ => rfl, builds_emptyObject⟩

theorem SpellsMembers.object (spells : SpellsMembers text members) :
    Spells Anything ('\x7b' :: (text ++ ['\x7d'])) (.object members .closed) := by
  obtain ⟨found, cuts, builds⟩ := spells
  have closed : Cuts Anything ['\x7d'] [.closeObject] := .of_tokenAt rfl fun _ _ => rfl
  have inner := cuts.append closed fun _ _ => .mark (by simp) _
  exact ⟨_, inner.mark (c := '\x7b') rfl fun _ => rfl, builds.object⟩

/-! ### Whole texts -/

theorem Draft.ofText_of_spells (spells : Spells Stops text value) :
    Draft.ofText (String.ofList text) = (value, false) := by
  obtain ⟨found, cuts, builds⟩ := spells
  have whole := cuts [] .nil
  rw [List.append_nil] at whole
  rw [Draft.ofText, String.toList_ofList, whole, tokens_nil, List.append_nil, builds]
  rfl

/-- Of a longer text the draft is the same. -/
theorem Draft.ofText_append (spells : Spells follow text value) {more : List Char} (follows : follow more) :
    (Draft.ofText (String.ofList (text ++ more))).1 = value := by
  obtain ⟨found, cuts, builds⟩ := spells
  rw [Draft.ofText, String.toList_ofList, cuts more follows, List.foldl_append, builds, place, foldl_complete]
  rfl

end

/-! ### Texts of the grammar -/

theorem exists_cuts_of_isString {name : List Char} (isString : IsString name) :
    ∃ key : Scalar String, key.skip = .ok () ∧ Cuts Anything name [.string key] := by
  obtain ⟨isBody⟩ := isString
  obtain ⟨key, passes, scanned⟩ := scanString_eq isBody (.ok [])
  exact ⟨key, passes, .string scanned⟩

mutual

/-- Each text of the grammar spells a draft. -/
theorem exists_spells_of_isValue {text : List Char} (isValue : IsValue text) :
    ∃ value, Spells Stops text value := by
  match text, isValue with
  | _, .null => exact ⟨_, _, Cuts.literalNull.weaken, builds_literal _⟩
  | _, .true => exact ⟨_, _, Cuts.literalTrue.weaken, builds_literal _⟩
  | _, .false => exact ⟨_, _, Cuts.literalFalse.weaken, builds_literal _⟩
  | _, .number isNumber =>
    obtain ⟨value, passes, scanned⟩ := scanNumber_eq isNumber
    exact ⟨_, .number passes (.number (exists_start_of_isNumber isNumber) scanned)⟩
  | _, .string isString =>
    obtain ⟨value, passes, cuts⟩ := exists_cuts_of_isString isString
    exact ⟨_, (Spells.string passes cuts).weaken⟩
  | _, .emptyList isGap => exact ⟨_, (Spells.emptyList isGap).weaken⟩
  | _, .list areItems =>
    obtain ⟨items, spells⟩ := exists_spellsItems areItems
    exact ⟨_, spells.list.weaken⟩
  | _, .emptyObject isGap => exact ⟨_, (Spells.emptyObject isGap).weaken⟩
  | _, .object areMembers =>
    obtain ⟨members, spells⟩ := exists_spellsMembers areMembers
    exact ⟨_, spells.object.weaken⟩

theorem exists_spells_of_isElement {text : List Char} (isElement : IsElement text) :
    ∃ value, Spells Stops text value := by
  match text, isElement with
  | _, .mk isGap isValue isGapAfter =>
    obtain ⟨value, spells⟩ := exists_spells_of_isValue isValue
    exact ⟨value, (spells.append_gap isGapAfter).gap_append isGap⟩

theorem exists_spellsItems {text : List Char} (areItems : AreItems text) :
    ∃ items, SpellsItems text items := by
  match text, areItems with
  | _, .last isElement =>
    obtain ⟨value, spells⟩ := exists_spells_of_isElement isElement
    exact ⟨_, spells.single⟩
  | _, .more isElement areItems =>
    obtain ⟨value, spells⟩ := exists_spells_of_isElement isElement
    obtain ⟨items, spellsMore⟩ := exists_spellsItems areItems
    exact ⟨_, spells.single.append spellsMore⟩

theorem exists_spellsMember {text : List Char} (isMember : IsMember text) :
    ∃ members, SpellsMembers text members := by
  match text, isMember with
  | _, .mk isGap isString isGapAfter isElement =>
    obtain ⟨key, passes, cuts⟩ := exists_cuts_of_isString isString
    obtain ⟨value, spells⟩ := exists_spells_of_isElement isElement
    exact ⟨_, spells.member isGap isGapAfter passes cuts⟩

theorem exists_spellsMembers {text : List Char} (areMembers : AreMembers text) :
    ∃ members, SpellsMembers text members := by
  match text, areMembers with
  | _, .last isMember => exact exists_spellsMember isMember
  | _, .more isMember areMembers =>
    obtain ⟨member, spells⟩ := exists_spellsMember isMember
    obtain ⟨members, spellsMore⟩ := exists_spellsMembers areMembers
    exact ⟨_, spells.append spellsMore⟩

end

end LedgerCapture.Json
