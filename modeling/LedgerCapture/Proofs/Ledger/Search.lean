import LedgerCapture.Proofs.Ledger.Receipt

/-!
The search for an execution as a loop over a stack that grows at its end. Every pass makes the stacked trees
smaller, so the loop ends; what it ends with is the first receipt in preorder, and all of its tree is still there.
-/
namespace LedgerCapture.Ledger.Receipt

variable {target : Address} {root execution receipt : Receipt} {stack next : List Receipt} {result : Option Receipt}
  {passes : Nat}

/-! ### The loop -/

/-- One pass: the receipt at the end is taken off, and those below it are put there, the first of them last. -/
inductive Pass (target : Address) : List Receipt → List Receipt → Prop where
  | mk {rest : List Receipt} {receipt : Receipt} (other : receipt.contract ≠ target) :
      Pass target (rest ++ [receipt]) (rest ++ receipt.sent.reverse)

inductive Ends (target : Address) : List Receipt → Option Receipt → Prop where
  | exhausted : Ends target [] none
  | found {rest : List Receipt} {receipt : Receipt} (wanted : receipt.contract = target) :
      Ends target (rest ++ [receipt]) (some receipt)

inductive Searches (target : Address) : Nat → List Receipt → Option Receipt → Prop where
  | ends {stack : List Receipt} {result : Option Receipt} (ends : Ends target stack result) :
      Searches target 0 stack result
  | passes {passes : Nat} {stack next : List Receipt} {result : Option Receipt} (pass : Pass target stack next)
      (onward : Searches target passes next result) : Searches target (passes + 1) stack result

theorem sizeAll_reverse (receipts : List Receipt) : sizeAll receipts.reverse = sizeAll receipts := by
  induction receipts with
  | nil => rfl
  | cons receipt rest ih =>
    rw [List.reverse_cons, sizeAll_append, ih, sizeAll, sizeAll, sizeAll]
    omega

theorem size_eq (receipt : Receipt) : receipt.size = sizeAll receipt.sent + 1 := by
  cases receipt
  rfl

/-- The number of stacked receipts may grow in a pass, but never the number of those in their trees. -/
theorem Pass.sizeAll_lt (pass : Pass target stack next) : sizeAll next < sizeAll stack := by
  cases pass with
  | mk other =>
    rw [sizeAll_append, sizeAll_append, sizeAll_reverse, sizeAll, size_eq, sizeAll]
    omega

theorem Searches.passes_le (searches : Searches target passes stack result) : passes ≤ sizeAll stack := by
  induction searches with
  | ends ends => exact Nat.zero_le _
  | passes pass onward ih => exact Nat.lt_of_le_of_lt ih pass.sizeAll_lt

/-- The loop and the search agree: the end of the one stack is the front of the other. -/
theorem exists_searches (target : Address) (stack : List Receipt) :
    ∃ passes, Searches target passes stack.reverse (searchStack target stack) := by
  induction stack using searchStack.induct target with
  | case1 =>
    rw [searchStack]
    exact ⟨0, .ends .exhausted⟩
  | case2 receipt rest wanted =>
    rw [searchStack, if_pos wanted, List.reverse_cons]
    exact ⟨0, .ends (.found wanted)⟩
  | case3 receipt rest other ih =>
    obtain ⟨passes, onward⟩ := ih
    rw [searchStack, if_neg other, List.reverse_cons]
    rw [List.reverse_append] at onward
    exact ⟨passes + 1, .passes (.mk other) onward⟩

theorem Ends.eq_searchStack (ends : Ends target stack result) : result = searchStack target stack.reverse := by
  cases ends with
  | exhausted => rw [List.reverse_nil, searchStack]
  | found wanted => rw [List.reverse_concat, searchStack, if_pos wanted]

theorem Pass.searchStack_eq (pass : Pass target stack next) :
    searchStack target stack.reverse = searchStack target next.reverse := by
  cases pass with
  | mk other =>
    rw [List.reverse_concat, searchStack, if_neg other, List.reverse_append, List.reverse_reverse]

theorem Searches.eq_searchStack (searches : Searches target passes stack result) :
    result = searchStack target stack.reverse := by
  induction searches with
  | ends ends => exact ends.eq_searchStack
  | passes pass onward ih => rw [pass.searchStack_eq, ih]

/-! ### What is found -/

/-- The receipt is the first of the target in the tree, and all that is listed below it stands below it. -/
structure First (target : Address) (root execution : Receipt) : Prop where
  wanted : execution.contract = target
  listed : ∃ before after, root.preorder = before ++ (execution.preorder ++ after) ∧
    ∀ earlier ∈ before, earlier.contract ≠ target

/-- What the search takes from the stack is listed with its whole tree. -/
theorem exists_listed_of_searchStack (found : searchStack target stack = some execution) :
    ∃ before after, stack.flatMap preorder = before ++ (execution.preorder ++ after) ∧
      ∀ earlier ∈ before, earlier.contract ≠ target := by
  induction stack using searchStack.induct target with
  | case1 => rw [searchStack] at found; cases found
  | case2 receipt rest wanted =>
    rw [searchStack, if_pos wanted] at found
    cases found
    exact ⟨[], rest.flatMap preorder, List.flatMap_cons, fun _ member => absurd member List.not_mem_nil⟩
  | case3 receipt rest other ih =>
    rw [searchStack, if_neg other] at found
    obtain ⟨before, after, listed, foreign⟩ := ih found
    refine ⟨receipt :: before, after, ?_, ?_⟩
    · rw [List.flatMap_cons, preorder_eq_cons, List.cons_append, ← List.flatMap_append, listed, List.cons_append]
    · intro earlier member
      rcases List.mem_cons.mp member with rfl | member
      · exact other
      · exact foreign earlier member

theorem find?_eq_some_iff_first : root.find? target = some execution ↔ First target root execution := by
  constructor
  · intro found
    have wanted := List.find?_some (find?_eq_preorder_find? target root ▸ found)
    have listed := exists_listed_of_searchStack found
    rw [List.flatMap_singleton] at listed
    exact ⟨of_decide_eq_true wanted, listed⟩
  · rintro ⟨wanted, before, after, listed, foreign⟩
    have skipped : before.find? (fun receipt => receipt.contract = target) = none :=
      List.find?_eq_none.mpr fun earlier member => by simpa using foreign earlier member
    rw [find?_eq_preorder_find?, listed, List.find?_append, skipped, Option.none_or, preorder_eq_cons,
      List.cons_append, List.find?_cons_of_pos (by simpa using wanted)]

theorem find?_eq_none_iff : root.find? target = none ↔ ∀ receipt ∈ root.preorder, receipt.contract ≠ target := by
  rw [find?_eq_preorder_find?, List.find?_eq_none]
  simp

/-- Whatever the tree, the loop ends after no more passes than the tree has receipts, with the first receipt of
the target in the order of the recursive listing and its whole tree, or with none if the target has none. -/
theorem loop_ends_with_first (target : Address) (root : Receipt) :
    (∃ passes ≤ root.size, Searches target passes [root] (root.find? target)) ∧
    (∀ passes result, Searches target passes [root] result → result = root.find? target) ∧
    (∀ receipt : Receipt, receipt.preorder = receipt :: receipt.sent.flatMap preorder) ∧
    root.find? target = (root.preorder.find? fun receipt => receipt.contract = target) ∧
    (∀ execution, root.find? target = some execution ↔ First target root execution) ∧
    (root.find? target = none ↔ ∀ receipt ∈ root.preorder, receipt.contract ≠ target) := by
  refine ⟨?_, fun passes result searches => searches.eq_searchStack, preorder_eq_cons,
    find?_eq_preorder_find? target root, fun _ => find?_eq_some_iff_first, find?_eq_none_iff⟩
  obtain ⟨passes, searches⟩ := exists_searches target [root]
  have bounded : passes ≤ sizeAll [root] := searches.passes_le
  rw [sizeAll, sizeAll] at bounded
  exact ⟨passes, by omega, searches⟩

end LedgerCapture.Ledger.Receipt
