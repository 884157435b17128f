import LedgerCapture.Proofs.Registry.History

/-!
What marking a contract changes in the registry: how far this one contract is, and nothing besides. An artifact that
has been noted of a contract stays, whatever is done to the registry afterwards.
-/
namespace LedgerCapture

namespace Progress.Consistent

variable {progress : Progress}

theorem artifact_eq_none (consistent : progress.Consistent) (first : progress.phase = .registered) :
    progress.artifact? = none := by
  rw [← Option.not_isSome_iff_eq_none, consistent.artifact, first]
  decide

theorem eq_registered (consistent : progress.Consistent) (missing : progress.artifact? = none) :
    progress = ⟨.registered, none, none⟩ := by
  obtain ⟨phase, artifact?, address?⟩ := progress
  have noArtifact := consistent.artifact
  have noAddress := consistent.address
  cases phase <;> simp_all

theorem eq_compiled {artifact : Artifact} (consistent : progress.Consistent)
    (noted : progress.artifact? = some artifact) (undeployed : progress.phase ≠ .deployed) :
    progress = ⟨.compiled, some artifact, none⟩ := by
  obtain ⟨phase, artifact?, address?⟩ := progress
  have hasArtifact := consistent.artifact
  have noAddress := consistent.address
  cases phase <;> simp_all

end Progress.Consistent

namespace Registry

variable {registry after : Registry} {id : ContractId}

/-! ### One contract goes on -/

def withProgress (registry : Registry) (id : ContractId) (progress : Progress) : Registry :=
  { registry with entries :=
    registry.entries.map fun entry => if entry.id = id then { entry with progress } else entry }

theorem withProgress_withProgress (registry : Registry) (id : ContractId) (first second : Progress) :
    (registry.withProgress id first).withProgress id second = registry.withProgress id second := by
  unfold withProgress
  rw [List.map_map]
  congr 1
  refine List.map_congr_left fun entry _ => ?_
  by_cases same : entry.id = id
  · rw [Function.comp_apply, if_pos same, if_pos same]
    exact if_pos same
  · rw [Function.comp_apply, if_neg same, if_neg same]

/-- No other entry has the id, so that the one at its place is the only one to change. -/
theorem set_eq_withProgress {place : Nat} {entry : Entry} (sound : registry.Sound)
    (located : registry.locate? id = some (place, entry)) (progress : Progress) :
    { registry with entries := registry.entries.set place { entry with progress } } =
      registry.withProgress id progress := by
  obtain ⟨present, named⟩ := (locate_eq_some_iff sound).mp located
  unfold withProgress
  congr 1
  refine List.ext_getElem? fun other => ?_
  by_cases here : place = other
  · subst here
    rw [List.getElem?_set_self', List.getElem?_map, present]
    exact congrArg some (if_pos named).symm
  · rw [List.getElem?_set_ne here, List.getElem?_map]
    cases there : registry.entries[other]? with
    | none => rfl
    | some found =>
      have different : found.id ≠ id := by
        intro same
        have placed := (sound.indexed id place).mpr (by rw [ids, List.getElem?_map, present, ← named]; rfl)
        have again := (sound.indexed id other).mpr (by rw [ids, List.getElem?_map, there, ← same]; rfl)
        exact here (Option.some.inj (placed.symm.trans again))
      exact congrArg some (if_neg different).symm

theorem markCompiled_eq {artifact : Artifact} (sound : registry.Sound)
    (done : registry.markCompiled id artifact = .ok after) :
    ∃ entry, registry.get id = .ok entry ∧ entry.progress = ⟨.registered, none, none⟩ ∧
      after = registry.withProgress id ⟨.compiled, some artifact, none⟩ := by
  obtain ⟨place, entry, changed, located, made, rfl⟩ := amend_eq_ok done
  obtain ⟨phase, rfl⟩ := Entry.compiled_eq_ok_iff.mp made
  have found := get_eq_ok_iff_locate.mpr ⟨place, located⟩
  have consistent := sound.consistent entry ((get_eq_ok_iff sound).mp found).1
  have progress := consistent.eq_registered (consistent.artifact_eq_none phase)
  rw [progress]
  exact ⟨entry, found, progress, set_eq_withProgress sound located _⟩

theorem markDeployed_eq {address : Ledger.Address} (sound : registry.Sound)
    (done : registry.markDeployed id address = .ok after) :
    ∃ entry artifact, registry.get id = .ok entry ∧ entry.progress = ⟨.compiled, some artifact, none⟩ ∧
      after = registry.withProgress id ⟨.deployed, some artifact, some address⟩ := by
  obtain ⟨place, entry, changed, located, made, rfl⟩ := amend_eq_ok done
  obtain ⟨phase, rfl⟩ := Entry.deployed_eq_ok_iff.mp made
  have found := get_eq_ok_iff_locate.mpr ⟨place, located⟩
  have consistent := sound.consistent entry ((get_eq_ok_iff sound).mp found).1
  obtain ⟨artifact, noted⟩ := Option.isSome_iff_exists.mp (consistent.artifact.mpr (.inl phase))
  have progress := consistent.eq_compiled noted (by simp [phase])
  rw [progress]
  exact ⟨entry, artifact, found, progress, set_eq_withProgress sound located _⟩

theorem not_waiting_of_deployed {entry : Entry} (found : registry.get id = .ok entry)
    (deployed : entry.progress.phase = .deployed) : ¬registry.Waiting id := by
  rintro ⟨again, foundAgain, undeployed⟩
  cases found.symm.trans foundAgain
  exact undeployed deployed

/-! ### What has been noted -/

def Notes (registry : Registry) (id : ContractId) (artifact : Artifact) : Prop :=
  ∃ entry, registry.get id = .ok entry ∧ entry.progress.artifact? = some artifact

variable {artifact : Artifact}

theorem Notes.of_get_eq (notes : registry.Notes id artifact) (same : after.get id = registry.get id) :
    after.Notes id artifact := by
  unfold Notes
  rwa [same]

/-- A change of one entry keeps the artifacts that have been noted, if it keeps that of the entry. -/
theorem Notes.amend {other : ContractId} {change : Entry → Except RegistryError Entry} (sound : registry.Sound)
    (advances : Advances change) (notes : registry.Notes id artifact)
    (keeps : ∀ entry changed, change entry = .ok changed → entry.progress.Consistent →
      entry.progress.artifact? = some artifact → changed.progress.artifact? = some artifact)
    (done : registry.amend other change = .ok after) : after.Notes id artifact := by
  obtain ⟨entry, changed, found, made, foundAfter, others⟩ := get_of_amend sound advances done
  by_cases same : id = other
  · subst same
    obtain ⟨again, foundAgain, noted⟩ := notes
    cases found.symm.trans foundAgain
    have consistent := sound.consistent entry ((get_eq_ok_iff sound).mp found).1
    exact ⟨changed, foundAfter, keeps entry changed made consistent noted⟩
  · exact notes.of_get_eq (others id same)

theorem Notes.perform {operation : Operation} (sound : registry.Sound) (notes : registry.Notes id artifact)
    (done : operation.perform registry = .ok after) : after.Notes id artifact := by
  cases operation with
  | register contract =>
    obtain ⟨entry, found, noted⟩ := notes
    obtain ⟨member, named⟩ := (get_eq_ok_iff sound).mp found
    have soundAfter := register_sound sound done
    obtain ⟨-, rfl⟩ := (register_eq_ok_iff sound).mp done
    exact ⟨entry, (get_eq_ok_iff soundAfter).mpr ⟨List.mem_append_left _ member, named⟩, noted⟩
  | markCompiled other made =>
    refine notes.amend sound (compiled_advances made) (fun entry changed compiled consistent noted => ?_) done
    -- a contract that has an artifact is not compiled again
    have first := (Entry.compiled_eq_ok_iff.mp compiled).1
    cases noted.symm.trans (consistent.artifact_eq_none first)
  | markDeployed other address =>
    refine notes.amend sound (deployed_advances address) (fun entry changed deployed _ noted => ?_) done
    rw [(Entry.deployed_eq_ok_iff.mp deployed).2]
    exact noted

theorem Notes.apply (sound : registry.Sound) (notes : registry.Notes id artifact) (operation : Operation) :
    (registry.apply operation).Notes id artifact := by
  unfold Registry.apply
  split
  · next done => exact notes.perform sound done
  · exact notes

/-- Whatever is done to a registry, it stays sound and keeps the artifacts that it has. -/
theorem Notes.foldl (operations : List Operation) (sound : registry.Sound) (notes : registry.Notes id artifact) :
    (operations.foldl Registry.apply registry).Sound ∧
      (operations.foldl Registry.apply registry).Notes id artifact := by
  induction operations generalizing registry with
  | nil => exact ⟨sound, notes⟩
  | cons operation rest ih => exact ih (apply_sound sound operation) (notes.apply sound operation)

end Registry

end LedgerCapture
