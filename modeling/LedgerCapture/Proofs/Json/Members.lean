import LedgerCapture.Proofs.Json.Record

/-!
Objects by their members. Whatever a text spells can be passed over, so of an object only the members that are
fields decide how a record is read from it, in whatever order they stand.
-/
namespace LedgerCapture.Json

namespace Draft

def Passes (value : Draft) : Prop :=
  value.skip = .ok ()

def PassesMember (member : Scalar String × Draft) : Prop :=
  member.1.skip = .ok () ∧ member.2.Passes

theorem skipItems_eq_ok_iff {items : List Draft} : skipItems items = .ok () ↔ ∀ item ∈ items, item.Passes := by
  induction items with
  | nil => exact ⟨fun _ => nofun, fun _ => rfl⟩
  | cons item rest ih => rw [skipItems, unit_bind_eq_ok_iff, ih, List.forall_mem_cons, Passes]

theorem skipMembers_eq_ok_iff {members : List (Scalar String × Draft)} :
    skipMembers members = .ok () ↔ ∀ member ∈ members, PassesMember member := by
  induction members with
  | nil => exact ⟨fun _ => nofun, fun _ => rfl⟩
  | cons member rest ih =>
    obtain ⟨key, value⟩ := member
    rw [skipMembers, unit_bind_eq_ok_iff, unit_bind_eq_ok_iff, ih, List.forall_mem_cons, PassesMember, Passes,
      wellFormed, mapError_eq_ok_iff, and_assoc]

theorem passes_list_iff {items : List Draft} : (list items .closed).Passes ↔ ∀ item ∈ items, item.Passes := by
  rw [Passes, skip, unit_bind_eq_ok_iff, skipItems_eq_ok_iff]
  exact and_iff_left rfl

theorem passes_object_iff {members : List (Scalar String × Draft)} :
    (object members .closed).Passes ↔ ∀ member ∈ members, PassesMember member := by
  rw [Passes, skip, unit_bind_eq_ok_iff, skipMembers_eq_ok_iff]
  exact and_iff_left rfl

/-! ### What is built passes -/

def Frame.Sound : Frame → Prop
  | .list items => ∀ item ∈ items, item.Passes
  | .object members key => (∀ member ∈ members, PassesMember member) ∧ key.skip = .ok ()

def Phase.Sound : Phase → Prop
  | .value | .firstItem | .firstKey => True
  | .nextItem items | .afterItem items => ∀ item ∈ items, item.Passes
  | .nextKey members | .afterMember members => ∀ member ∈ members, PassesMember member
  | .afterKey members key => (∀ member ∈ members, PassesMember member) ∧ key.skip = .ok ()

/-- As long as a text is being read, all that has been read of it can be passed over. -/
def Progress.Sound : Progress → Prop
  | .reading frames phase => (∀ frame ∈ frames, frame.Sound) ∧ phase.Sound
  | .complete _ _ => True

variable {frames : List Frame} {progress : Progress} {value : Draft} {members : List (Scalar String × Draft)}

theorem place_sound (passes : value.Passes) (sound : ∀ frame ∈ frames, frame.Sound) :
    (place value frames).Sound := by
  cases frames with
  | nil => trivial
  | cons frame frames =>
    obtain ⟨first, rest⟩ := List.forall_mem_cons.mp sound
    cases frame with
    | list items => exact ⟨rest, List.forall_mem_cons.mpr ⟨passes, first⟩⟩
    | object members key => exact ⟨rest, List.forall_mem_cons.mpr ⟨⟨first.2, passes⟩, first.1⟩⟩

theorem placeScalar_sound {verdict : Except SyntaxError Unit} (passes : verdict = .ok () → value.Passes)
    (sound : ∀ frame ∈ frames, frame.Sound) : (placeScalar value verdict frames).Sound := by
  cases verdict with
  | ok done => exact place_sound (passes rfl) sound
  | error fault => trivial

theorem start_sound (sound : ∀ frame ∈ frames, frame.Sound) (token : Token) : (start frames token).Sound := by
  cases token with
  | openList => exact ⟨sound, trivial⟩
  | openObject => exact ⟨sound, trivial⟩
  | literal value =>
    cases value with
    | ok value => exact place_sound rfl sound
    | error fault => trivial
  | number value =>
    exact placeScalar_sound (fun passes => by rw [Passes, skip, wellFormed, passes]; rfl) sound
  | string value =>
    exact placeScalar_sound (fun passes => by rw [Passes, skip, wellFormed, passes]; rfl) sound
  | closeList | closeObject | colon | comma | stray => trivial

theorem startKey_sound (sound : ∀ frame ∈ frames, frame.Sound) (passes : ∀ member ∈ members, PassesMember member)
    (token : Token) : (startKey frames members token).Sound := by
  unfold startKey
  split
  · next key =>
    split
    · next passesKey => exact ⟨sound, passes, passesKey⟩
    · trivial
  · trivial

theorem step_sound (sound : progress.Sound) (token : Token) : (step progress token).Sound := by
  cases progress with
  | complete value more => trivial
  | reading frames phase =>
    obtain ⟨framesSound, phaseSound⟩ := sound
    cases phase with
    | value => exact start_sound framesSound token
    | firstItem =>
      have empty : Frame.Sound (.list []) := fun _ listed => absurd listed List.not_mem_nil
      have started : (start (.list [] :: frames) token).Sound :=
        start_sound (List.forall_mem_cons.mpr ⟨empty, framesSound⟩) token
      cases token with
      | closeList => exact place_sound rfl framesSound
      | _ => exact started
    | nextItem items =>
      have inner : Frame.Sound (.list items) := phaseSound
      have started : (start (.list items :: frames) token).Sound :=
        start_sound (List.forall_mem_cons.mpr ⟨inner, framesSound⟩) token
      cases token with
      | closeList => trivial
      | _ => exact started
    | afterItem items =>
      cases token with
      | comma => exact ⟨framesSound, phaseSound⟩
      | closeList =>
        refine place_sound (passes_list_iff.mpr fun item member => ?_) framesSound
        exact phaseSound item (List.mem_reverse.mp member)
      | _ => trivial
    | firstKey =>
      have empty : ∀ member ∈ ([] : List (Scalar String × Draft)), PassesMember member := nofun
      have started : (startKey frames [] token).Sound := startKey_sound framesSound empty token
      cases token with
      | closeObject => exact place_sound rfl framesSound
      | _ => exact started
    | nextKey members =>
      have started : (startKey frames members token).Sound := startKey_sound framesSound phaseSound token
      cases token with
      | closeObject => trivial
      | _ => exact started
    | afterKey members key =>
      cases token with
      | colon =>
        have inner : Frame.Sound (.object members key) := phaseSound
        exact ⟨List.forall_mem_cons.mpr ⟨inner, framesSound⟩, trivial⟩
      | _ => trivial
    | afterMember members =>
      cases token with
      | comma => exact ⟨framesSound, phaseSound⟩
      | closeObject =>
        refine place_sound (passes_object_iff.mpr fun member listed => ?_) framesSound
        exact phaseSound member (List.mem_reverse.mp listed)
      | _ => trivial

theorem foldl_sound (sound : progress.Sound) (found : List Token) : (found.foldl step progress).Sound := by
  induction found generalizing progress with
  | nil => exact sound
  | cons token rest ih => exact ih (step_sound sound token)

/-- What is given to a frame that is still being read was not broken off. -/
theorem Builds.passes {found : List Token} (builds : Builds found value) : value.Passes := by
  have empty : Frame.Sound (.list []) := fun _ listed => absurd listed List.not_mem_nil
  have sound : Progress.Sound (.reading [.list []] .value) := ⟨List.forall_mem_cons.mpr ⟨empty, nofun⟩, trivial⟩
  have placed := foldl_sound sound found
  rw [builds] at placed
  exact placed.2 value (List.mem_cons_self ..)

end Draft

/-- What stands as a whole in a text can be passed over. -/
theorem Spells.passes {follow : List Char → Prop} {text : List Char} {value : Draft}
    (spells : Spells follow text value) : value.Passes := by
  obtain ⟨found, cuts, builds⟩ := spells
  exact builds.passes

/-! ### Members by their names -/

namespace Draft

/-- The draft is an object with these members, each name once. -/
inductive IsObject : Draft → List (String × Draft) → Prop where
  | intro {members : List (Scalar String × Draft)} {entries : List (String × Draft)}
      (named : List.Forall₂ (fun member entry => member.1.read = .ok entry.1 ∧ member.2 = entry.2) members entries)
      (distinct : (entries.map Prod.fst).Nodup) : IsObject (.object members .closed) entries

/-- A member of an object that can be passed over can be passed over. -/
theorem IsObject.passes {draft value : Draft} {entries : List (String × Draft)} {name : String}
    (isObject : draft.IsObject entries) (passes : draft.Passes) (stands : entries.lookup name = some value) :
    value.Passes := by
  obtain ⟨named, -⟩ := isObject
  have each := passes_object_iff.mp passes
  clear passes
  induction named with
  | nil => cases stands
  | @cons member entry members entries same _ ih =>
    obtain ⟨first, rest⟩ := List.forall_mem_cons.mp each
    obtain ⟨other, draft⟩ := entry
    rw [List.lookup_cons] at stands
    split at stands
    · cases stands
      have passes : member.2.Passes := first.2
      rwa [same.2] at passes
    · exact ih stands rest

end Draft

theorem lookup_of_absent {entries : List (String × Draft)} {name : String}
    (absent : name ∉ entries.map Prod.fst) : entries.lookup name = none := by
  rw [List.lookup_eq_none_iff]
  intro entry listed
  simp only [bne_iff_ne]
  rintro rfl
  exact absent (List.mem_map_of_mem listed)

namespace Record

section

variable {σ : Type} {record : Record σ} {reading : Reading} {state : σ} {key : Scalar String} {name : String}
  {value : Draft} {rest : List (Scalar String × Draft)}

/-- A member that is a field is read as the field. -/
theorem readMembers_cons_of_field {field : Field σ} (readKey : key.read = .ok name)
    (known : record.fields.find? (·.name == name) = some field) (new : field.filled state = false) :
    record.readMembers reading state ((key, value) :: rest) =
      field.read reading value state >>= fun after => record.readMembers reading after rest := by
  rw [Record.readMembers, readKey, wellFormed, Except.mapError, ok_bind, known]
  simp only [new, Bool.false_eq_true, if_false]

/-- A member that is no field is passed over. -/
theorem readMembers_cons_of_other (readKey : key.read = .ok name)
    (unknown : record.fields.find? (·.name == name) = none) (passes : value.Passes) :
    record.readMembers reading state ((key, value) :: rest) = record.readMembers reading state rest := by
  rw [Record.readMembers, readKey, wellFormed, Except.mapError, ok_bind, unknown]
  dsimp only
  rw [passes, ok_bind]

end

def fill {α : Type} (read : Draft → Except DecodeError α) (before : Option α) :
    Option Draft → Except DecodeError (Option α)
  | none => .ok before
  | some draft => (read draft).map some

inductive IsPair {σ α β : Type} (reading : Reading) (make : Option α → Option β → σ)
    (readLeft : Draft → Except DecodeError α) (readRight : Draft → Except DecodeError β) :
    Record σ → String → String → Prop where
  | intro {name : String} {left right : Field σ} (differ : left.name ≠ right.name)
      (leftFilled : ∀ a b, left.filled (make a b) = a.isSome)
      (rightFilled : ∀ a b, right.filled (make a b) = b.isSome)
      (leftRead : ∀ draft a b,
        left.read reading draft (make a b) = (readLeft draft).map fun value => make (some value) b)
      (rightRead : ∀ draft a b,
        right.read reading draft (make a b) = (readRight draft).map fun value => make a (some value)) :
    IsPair reading make readLeft readRight ⟨name, [left, right]⟩ left.name right.name

section

variable {σ α β : Type} {record : Record σ} {reading inner : Reading} {make : Option α → Option β → σ}
  {left right : String} {readLeft : Draft → Except DecodeError α} {readRight : Draft → Except DecodeError β}
  {members : List (Scalar String × Draft)} {entries : List (String × Draft)}

/-- If the right field can be read wherever it stands, reading the members comes down to reading the left one. -/
theorem IsPair.readMembers (isPair : IsPair reading make readLeft readRight record left right)
    (named : List.Forall₂ (fun member entry => member.1.read = .ok entry.1 ∧ member.2 = entry.2) members entries)
    (distinct : (entries.map Prod.fst).Nodup) (passes : ∀ member ∈ members, Draft.PassesMember member)
    {a : Option α} {b b' : Option β} (freshLeft : a.isSome = true → left ∉ entries.map Prod.fst)
    (freshRight : b.isSome = true → right ∉ entries.map Prod.fst)
    (readsRight : fill readRight b (entries.lookup right) = .ok b') :
    record.readMembers reading (make a b) members =
      (fill readLeft a (entries.lookup left)).map fun a' => make a' b' := by
  obtain @⟨title, left, right, differ, leftFilled, rightFilled, leftRead, rightRead⟩ := isPair
  induction named generalizing a b with
  | nil =>
    cases readsRight
    rfl
  | @cons member entry members entries same _ ih =>
    obtain ⟨key, value⟩ := member
    obtain ⟨name, draft⟩ := entry
    obtain ⟨readKey, rfl⟩ := same
    obtain ⟨first, rest⟩ := List.forall_mem_cons.mp passes
    obtain ⟨new, distinctRest⟩ := List.nodup_cons.mp distinct
    have stillLeft : a.isSome = true → left.name ∉ entries.map Prod.fst :=
      fun filled listed => freshLeft filled (List.mem_cons_of_mem _ listed)
    have stillRight : b.isSome = true → right.name ∉ entries.map Prod.fst :=
      fun filled listed => freshRight filled (List.mem_cons_of_mem _ listed)
    rw [List.lookup_cons] at readsRight ⊢
    by_cases isLeft : left.name = name
    · subst isLeft
      have unread : a = none := Option.not_isSome_iff_eq_none.mp fun filled => freshLeft filled (List.mem_cons_self ..)
      have other : (right.name == left.name) = false := beq_eq_false_iff_ne.mpr differ.symm
      have known : [left, right].find? (·.name == left.name) = some left := List.find?_cons_of_pos (by simp)
      subst unread
      rw [other] at readsRight
      rw [readMembers_cons_of_field readKey known (leftFilled none b), leftRead, beq_self_eq_true, fill]
      cases readLeft value with
      | error fault => rfl
      | ok value =>
        refine (ih distinctRest rest (fun _ => new) stillRight readsRight).trans ?_
        rw [lookup_of_absent new]
        rfl
    by_cases isRight : right.name = name
    · subst isRight
      have unread : b = none :=
        Option.not_isSome_iff_eq_none.mp fun filled => freshRight filled (List.mem_cons_self ..)
      have other : (left.name == right.name) = false := beq_eq_false_iff_ne.mpr differ
      have known : [left, right].find? (·.name == right.name) = some right := by
        rw [List.find?_cons_of_neg (by simp [differ]), List.find?_cons_of_pos (by simp)]
      subst unread
      simp only [beq_self_eq_true, fill] at readsRight
      rw [readMembers_cons_of_field readKey known (rightFilled a none), rightRead, other]
      cases found : readRight value with
      | error fault =>
        rw [found] at readsRight
        cases readsRight
      | ok value =>
        rw [found] at readsRight
        cases readsRight
        refine ih distinctRest rest stillLeft (fun _ => new) ?_
        rw [lookup_of_absent new, fill]
    · have unknown : [left, right].find? (·.name == name) = none := by simp [isLeft, isRight]
      rw [beq_eq_false_iff_ne.mpr isRight] at readsRight
      rw [readMembers_cons_of_other readKey unknown first.2, beq_eq_false_iff_ne.mpr isLeft]
      exact ih distinctRest rest stillLeft stillRight readsRight

/-- Of an object the members that are fields count, and no order among them. -/
theorem IsPair.read {draft : Draft} {b : Option β}
    (isPair : IsPair inner make readLeft readRight record left right) (entered : reading.enter = .ok inner)
    (isObject : draft.IsObject entries) (passes : draft.Passes)
    (readsRight : fill readRight none (entries.lookup right) = .ok b) :
    record.read (make none none) reading draft =
      fill readLeft none (entries.lookup left) >>= fun a => checkComplete record.fields (make a b) := by
  obtain ⟨named, distinct⟩ := isObject
  have readMembers : record.readMembers inner (make none none) _ = _ :=
    isPair.readMembers named distinct (Draft.passes_object_iff.mp passes) nofun nofun readsRight
  rw [Record.read, entered, ok_bind, readMembers]
  cases fill readLeft none (entries.lookup left) <;> rfl

end

end Record

end LedgerCapture.Json
