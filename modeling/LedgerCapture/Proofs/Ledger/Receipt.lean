import LedgerCapture.Ledger.Receipt

/-!
The search for an execution. The stack holds what the recursive listing of the tree still has to list, so
both meet the receipts in the same order.
-/
namespace LedgerCapture.Ledger.Receipt

mutual

/-- The depths make no difference to the order. -/
theorem flatten_map_snd (depth other : Nat) : (receipt : Receipt) →
    (flatten depth receipt).map Prod.snd = (flatten other receipt).map Prod.snd
  | mk contract shard block sent => by
    simp only [flatten, List.map_cons]
    rw [flattenAll_map_snd (depth + 1) (other + 1) sent]

theorem flattenAll_map_snd (depth other : Nat) : (receipts : List Receipt) →
    (flattenAll depth receipts).map Prod.snd = (flattenAll other receipts).map Prod.snd
  | [] => rfl
  | receipt :: rest => by
    simp only [flattenAll, List.map_append]
    rw [flatten_map_snd depth other receipt, flattenAll_map_snd depth other rest]

end

theorem flattenAll_eq_flatMap (depth : Nat) (receipts : List Receipt) :
    (flattenAll depth receipts).map Prod.snd = receipts.flatMap preorder := by
  induction receipts with
  | nil => rfl
  | cons receipt rest ih =>
    rw [flattenAll, List.map_append, ih, List.flatMap_cons, preorder, flatten_map_snd depth 0]

theorem preorder_eq_cons (receipt : Receipt) :
    receipt.preorder = receipt :: receipt.sent.flatMap preorder := by
  obtain ⟨contract, shard, block, sent⟩ := receipt
  rw [preorder, flatten, List.map_cons, flattenAll_eq_flatMap]
  rfl

theorem searchStack_eq_find? (target : Address) (stack : List Receipt) :
    searchStack target stack = (stack.flatMap preorder).find? fun receipt => receipt.contract = target := by
  induction stack using searchStack.induct target with
  | case1 => rw [searchStack, List.flatMap_nil, List.find?_nil]
  | case2 rest receipt wanted =>
    rw [searchStack, if_pos wanted, List.flatMap_cons, preorder_eq_cons, List.cons_append,
      List.find?_cons_of_pos (by simpa using wanted)]
  | case3 rest receipt other ih =>
    rw [searchStack, if_neg other, ih, List.flatMap_cons, preorder_eq_cons, List.cons_append,
      List.find?_cons_of_neg (by simpa using other), List.flatMap_append]

theorem find?_eq_preorder_find? (target : Address) (receipt : Receipt) :
    receipt.find? target = receipt.preorder.find? fun receipt => receipt.contract = target := by
  rw [find?, searchStack_eq_find?, List.flatMap_singleton]

end LedgerCapture.Ledger.Receipt
