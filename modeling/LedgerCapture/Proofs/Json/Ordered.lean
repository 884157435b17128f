import LedgerCapture.Proofs.Json.Record
import Mathlib.Data.String.Basic

/-!
Documents with their members in the order of the names. What is read as a document is one of them, however its
text is written, so of such a document only the values of its members are left to tell.
-/
namespace LedgerCapture.Json

inductive Ordered : Json → Prop where
  | null : Ordered .null
  | boolean (value : Bool) : Ordered (.boolean value)
  | number (value : Number) : Ordered (.number value)
  | string (value : String) : Ordered (.string value)
  | list {items : List Json} (every : ∀ item ∈ items, Ordered item) : Ordered (.list items)
  | object {members : List (String × Json)} (sorted : members.Pairwise fun first second => first.1 < second.1)
      (every : ∀ member ∈ members, Ordered member.2) : Ordered (.object members)

theorem Ordered.of_listed {members : List (String × Json)} {name : String} {items : List Json} {item : Json}
    (ordered : Ordered (.object members)) (present : (name, .list items) ∈ members) (listed : item ∈ items) :
    item.Ordered := by
  cases ordered with
  | object sorted every =>
    cases every _ present with
    | list every => exact every item listed

section

variable {name : String} {value : Json} {members : List (String × Json)}

theorem mem_insertMember {member : String × Json} (present : member ∈ insertMember name value members) :
    member = (name, value) ∨ member ∈ members := by
  induction members with
  | nil => exact .inl (List.mem_singleton.mp present)
  | cons first rest ih =>
    obtain ⟨other, found⟩ := first
    unfold insertMember at present
    split at present
    · exact List.mem_cons.mp present
    · split at present
      · exact (List.mem_cons.mp present).imp_right (List.mem_cons_of_mem _)
      · rcases List.mem_cons.mp present with rfl | later
        · exact .inr (List.mem_cons_self ..)
        · exact (ih later).imp_right (List.mem_cons_of_mem _)

theorem insertMember_sorted (sorted : members.Pairwise fun first second => first.1 < second.1) :
    (insertMember name value members).Pairwise fun first second => first.1 < second.1 := by
  induction members with
  | nil => exact List.pairwise_singleton ..
  | cons first rest ih =>
    obtain ⟨other, found⟩ := first
    obtain ⟨behind, sortedRest⟩ := List.pairwise_cons.mp sorted
    unfold insertMember
    split
    · next before =>
      refine List.pairwise_cons.mpr ⟨fun member present => ?_, sorted⟩
      rcases List.mem_cons.mp present with rfl | later
      · exact before
      · exact before.trans (behind member later)
    · next notBefore =>
      split
      · next same =>
        obtain rfl := eq_of_beq same
        exact List.pairwise_cons.mpr ⟨behind, sortedRest⟩
      · next different =>
        refine List.pairwise_cons.mpr ⟨fun member present => ?_, ih sortedRest⟩
        rcases mem_insertMember present with rfl | later
        · exact lt_of_le_of_ne (not_lt.mp notBefore) fun same => different (beq_iff_eq.mpr same.symm)
        · exact behind member later

theorem ofMembers_ordered (every : ∀ member ∈ members, Ordered member.2) : (ofMembers members).Ordered := by
  have folded : ∀ (members sorted : List (String × Json)),
      (∀ member ∈ members, Ordered member.2) → Ordered (.object sorted) →
      Ordered (.object (members.foldl (fun sorted member => insertMember member.1 member.2 sorted) sorted)) := by
    intro members
    induction members with
    | nil => exact fun sorted _ ordered => ordered
    | cons member rest ih =>
      rintro sorted every (_ | _ | _ | _ | _ | ⟨inOrder, before⟩)
      refine ih _ (fun other later => every other (List.mem_cons_of_mem _ later)) ?_
      refine .object (insertMember_sorted inOrder) fun other present => ?_
      rcases mem_insertMember present with rfl | old
      · exact every member (List.mem_cons_self ..)
      · exact before other old
  exact folded members [] every (.object .nil nofun)

end

/-! ### What is read -/

mutual

theorem readJson_ordered {reading : Reading} {draft : Draft} {document : Json}
    (read : Draft.readJson reading draft = .ok document) : document.Ordered := by
  match draft with
  | .missing fault => cases read
  | .literal .null => cases read; exact .null
  | .literal (.boolean value) => cases read; exact .boolean value
  | .number value =>
    rw [Draft.readJson] at read
    cases found : wellFormed value.read <;> rw [found] at read <;> cases read
    exact .number _
  | .string value =>
    rw [Draft.readJson] at read
    cases found : wellFormed value.read <;> rw [found] at read <;> cases read
    exact .string _
  | .list items ending =>
    rw [Draft.readJson] at read
    obtain ⟨inner, -, read⟩ := bind_eq_ok_iff.mp read
    obtain ⟨values, readItems, read⟩ := bind_eq_ok_iff.mp read
    obtain ⟨-, read⟩ := unit_bind_eq_ok_iff.mp read
    cases read
    exact .list (readJsonItems_ordered readItems)
  | .object members ending =>
    rw [Draft.readJson] at read
    obtain ⟨inner, -, read⟩ := bind_eq_ok_iff.mp read
    obtain ⟨values, readMembers, read⟩ := bind_eq_ok_iff.mp read
    obtain ⟨-, read⟩ := unit_bind_eq_ok_iff.mp read
    cases read
    exact ofMembers_ordered (readJsonMembers_ordered readMembers)

theorem readJsonItems_ordered {reading : Reading} {drafts : List Draft} {items : List Json}
    (read : Draft.readJsonItems reading drafts = .ok items) : ∀ item ∈ items, item.Ordered := by
  match drafts with
  | [] => cases read; exact nofun
  | draft :: rest =>
    rw [Draft.readJsonItems] at read
    obtain ⟨item, readItem, read⟩ := bind_eq_ok_iff.mp read
    obtain ⟨later, readLater, read⟩ := bind_eq_ok_iff.mp read
    cases read
    exact List.forall_mem_cons.mpr ⟨readJson_ordered readItem, readJsonItems_ordered readLater⟩

theorem readJsonMembers_ordered {reading : Reading} {drafts : List (Scalar String × Draft)}
    {members : List (String × Json)} (read : Draft.readJsonMembers reading drafts = .ok members) :
    ∀ member ∈ members, member.2.Ordered := by
  match drafts with
  | [] => cases read; exact nofun
  | (key, draft) :: rest =>
    rw [Draft.readJsonMembers] at read
    obtain ⟨name, -, read⟩ := bind_eq_ok_iff.mp read
    obtain ⟨value, readValue, read⟩ := bind_eq_ok_iff.mp read
    obtain ⟨later, readLater, read⟩ := bind_eq_ok_iff.mp read
    cases read
    exact List.forall_mem_cons.mpr ⟨readJson_ordered readValue, readJsonMembers_ordered readLater⟩

end

theorem parse_ordered {reading : Reading} {text : String} {document : Json}
    (parsed : parse reading text = .ok document) : document.Ordered := by
  obtain ⟨draft, read⟩ := exists_read_of_decode parsed
  exact readJson_ordered read

/-! ### What is left to tell -/

theorem lookup_eq_none {name : String} {members : List (String × Json)}
    (absent : ∀ member ∈ members, member.1 ≠ name) : lookup name members = none := by
  induction members with
  | nil => rfl
  | cons member rest ih =>
    obtain ⟨different, absentLater⟩ := List.forall_mem_cons.mp absent
    rw [lookup, if_neg (by simpa using different), ih absentLater]

/-- An object in order is told by the values of the names it may have. -/
theorem members_eq_filterMap_lookup {members : List (String × Json)} {names : List String}
    (sorted : members.Pairwise fun first second => first.1 < second.1) (sortedNames : names.Pairwise (· < ·))
    (known : ∀ member ∈ members, member.1 ∈ names) :
    members = names.filterMap fun name => (lookup name members).map (name, ·) := by
  induction names generalizing members with
  | nil =>
    cases members with
    | nil => rfl
    | cons member rest => cases known member (List.mem_cons_self ..)
  | cons name names ih =>
    obtain ⟨least, sortedNames⟩ := List.pairwise_cons.mp sortedNames
    -- Members behind the name are told by the other names.
    have told : ∀ {rest : List (String × Json)}, (rest.Pairwise fun first second => first.1 < second.1) →
        (∀ member ∈ rest, member.1 ∈ name :: names) → (∀ member ∈ rest, name < member.1) →
        rest = names.filterMap fun name => (lookup name rest).map (name, ·) := by
      intro rest sorted known behind
      refine ih sorted sortedNames fun member present => ?_
      exact (List.mem_cons.mp (known member present)).resolve_left (behind member present).ne'
    cases members with
    | nil => simp [lookup]
    | cons member rest =>
      obtain ⟨first, value⟩ := member
      obtain ⟨behind, sortedRest⟩ := List.pairwise_cons.mp sorted
      obtain ⟨knownFirst, knownRest⟩ := List.forall_mem_cons.mp known
      rcases List.mem_cons.mp knownFirst with rfl | later
      · have others : ∀ other ∈ names, lookup other ((first, value) :: rest) = lookup other rest := by
          intro other present
          rw [lookup, if_neg (by simpa using (least other present).ne)]
        rw [List.filterMap_cons_some (b := (first, value)) (by simp [lookup]),
          List.filterMap_congr fun other present => by rw [others other present],
          ← told sortedRest knownRest behind]
      · have absent : lookup name ((first, value) :: rest) = none := by
          refine lookup_eq_none (List.forall_mem_cons.mpr ⟨(least first later).ne', fun member present => ?_⟩)
          exact ((least first later).trans (behind member present)).ne'
        rw [List.filterMap_cons_none (by rw [absent]; rfl)]
        refine told sorted known (List.forall_mem_cons.mpr ⟨least first later, fun member present => ?_⟩)
        exact (least first later).trans (behind member present)

end LedgerCapture.Json
