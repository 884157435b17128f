/-!
When a result that may fail is a value: what its parts must have been.
-/
namespace LedgerCapture

theorem bind_eq_ok_iff {ε α β : Type} {first : Except ε α} {next : α → Except ε β} {value : β} :
    first >>= next = .ok value ↔ ∃ between, first = .ok between ∧ next between = .ok value := by
  cases first with
  | error fault => exact ⟨nofun, nofun⟩
  | ok between => exact ⟨fun same => ⟨between, rfl, same⟩, fun ⟨_, rfl, same⟩ => same⟩

theorem ok_bind {ε α β : Type} {value : α} {next : α → Except ε β} : (Except.ok value >>= next) = next value :=
  rfl

theorem bind_pure_eq_map {ε α β : Type} {result : Except ε α} {change : α → β} :
    (result >>= fun value => pure (change value)) = result.map change := by
  cases result <;> rfl

theorem bind_eq_error_iff {ε α β : Type} {first : Except ε α} {next : α → Except ε β} {fault : ε} :
    first >>= next = .error fault ↔ first = .error fault ∨ ∃ value, first = .ok value ∧ next value = .error fault := by
  cases first with
  | error other =>
    constructor
    · intro same
      exact .inl (congrArg _ (Except.error.inj same))
    · rintro (same | ⟨_, impossible, -⟩)
      · exact congrArg _ (Except.error.inj same)
      · cases impossible
  | ok value =>
    constructor
    · exact fun same => .inr ⟨value, rfl, same⟩
    · rintro (impossible | ⟨_, ⟨⟩, same⟩)
      · cases impossible
      · exact same

theorem bind_pure_eq_error_iff {ε α β : Type} {first : Except ε α} {change : α → β} {fault : ε} :
    (first >>= fun value => pure (change value)) = .error fault ↔ first = .error fault := by
  cases first with
  | error other => exact ⟨fun same => congrArg _ (Except.error.inj same), fun same => congrArg _ (Except.error.inj same)⟩
  | ok value => exact ⟨nofun, nofun⟩

theorem mapError_eq_ok_iff {ε ε' α : Type} {change : ε → ε'} {result : Except ε α} {value : α} :
    result.mapError change = .ok value ↔ result = .ok value := by
  cases result with
  | error fault => exact ⟨nofun, nofun⟩
  | ok other => exact ⟨fun same => by cases same; rfl, fun same => by cases same; rfl⟩

theorem mapError_eq_error_iff {ε ε' α : Type} {change : ε → ε'} {result : Except ε α} {fault : ε'} :
    result.mapError change = .error fault ↔ ∃ cause, result = .error cause ∧ change cause = fault := by
  cases result with
  | error cause =>
    constructor
    · exact fun same => ⟨cause, rfl, Except.error.inj same⟩
    · rintro ⟨_, ⟨⟩, same⟩
      exact congrArg _ same
  | ok value => exact ⟨nofun, nofun⟩

theorem map_eq_ok_iff {ε α β : Type} {change : α → β} {result : Except ε α} {value : β} :
    result.map change = .ok value ↔ ∃ before, result = .ok before ∧ change before = value := by
  cases result with
  | error fault => simp [Except.map]
  | ok before => simp [Except.map]

theorem unit_bind_eq_ok_iff {ε α : Type} {first : Except ε Unit} {next : Unit → Except ε α} {value : α} :
    first >>= next = .ok value ↔ first = .ok () ∧ next () = .ok value :=
  bind_eq_ok_iff.trans ⟨fun ⟨_, same⟩ => same, fun same => ⟨(), same⟩⟩

theorem throw_bind {ε α β : Type} {fault : ε} {next : α → Except ε β} :
    (throw fault : Except ε α) >>= next = throw fault :=
  rfl

theorem pure_eq_ok_iff {ε α : Type} {value other : α} : (pure value : Except ε α) = .ok other ↔ value = other :=
  Except.ok.injEq value other ▸ Iff.rfl

theorem pure_ne_error {ε α : Type} {value : α} {fault : ε} : (pure value : Except ε α) ≠ .error fault :=
  nofun

theorem ite_throw_eq_ok_iff {ε α : Type} {condition : Prop} [Decidable condition] {fault : ε}
    {rest : Except ε α} {value : α} :
    (if condition then throw fault else rest) = .ok value ↔ ¬condition ∧ rest = .ok value := by
  by_cases holds : condition
  · rw [if_pos holds]
    exact ⟨nofun, fun ⟨fails, _⟩ => absurd holds fails⟩
  · rw [if_neg holds]
    exact ⟨fun same => ⟨holds, same⟩, fun ⟨_, same⟩ => same⟩

theorem ite_throw_eq_error_iff {ε α : Type} {condition : Prop} [Decidable condition] {fault other : ε}
    {rest : Except ε α} :
    (if condition then throw fault else rest) = .error other ↔
      condition ∧ fault = other ∨ ¬condition ∧ rest = .error other := by
  by_cases holds : condition
  · rw [if_pos holds]
    exact ⟨fun same => .inl ⟨holds, Except.error.inj same⟩, fun same => congrArg _ (same.resolve_right fun ⟨fails, _⟩ => fails holds).2⟩
  · rw [if_neg holds]
    exact ⟨fun same => .inr ⟨holds, same⟩, fun same => (same.resolve_left fun ⟨held, _⟩ => holds held).2⟩

/-- Results with the same values are either the same value or failures both. -/
theorem toOption_eq_of_eq_ok_iff {ε ε' α : Type} {result : Except ε α} {other : Except ε' α}
    (same : ∀ value, result = .ok value ↔ other = .ok value) : result.toOption = other.toOption := by
  cases result with
  | ok value =>
    rw [(same value).mp rfl]
    rfl
  | error fault =>
    cases other with
    | ok value => cases (same value).mpr rfl
    | error other => rfl

theorem exists_error_of_not_isOk {ε α : Type} {result : Except ε α} (failed : (!result.isOk) = true) :
    ∃ fault, result = .error fault := by
  cases result with
  | error fault => exact ⟨fault, rfl⟩
  | ok value => cases failed

end LedgerCapture
