import LedgerCapture.Registry
import Mathlib.Data.List.Nodup

/-!
What holds of every registry that is built up by its own operations: no id occurs twice, the index tells
the place of each id and of no other, and of each contract just that is noted which its phase says. Every
question to such a registry is answered from the list of its entries.
-/
namespace LedgerCapture

/-- What has been noted of a contract is what its phase says. -/
structure Progress.Consistent (progress : Progress) : Prop where
  artifact : progress.artifact?.isSome ↔ progress.phase = .compiled ∨ progress.phase = .deployed
  address : progress.address?.isSome ↔ progress.phase = .deployed

namespace Registry

def ids (registry : Registry) : List ContractId :=
  registry.entries.map Entry.id

structure Sound (registry : Registry) : Prop where
  distinct : registry.ids.Nodup
  indexed : ∀ id place, registry.index.lookup id = some place ↔ registry.ids[place]? = some id
  consistent : ∀ entry ∈ registry.entries, entry.progress.Consistent

theorem empty_sound : empty.Sound where
  distinct := List.nodup_nil
  indexed id place := by simp [empty, ids]
  consistent entry member := by simp [empty] at member

/-! ### Questions -/

section Questions

variable {registry : Registry} {id : ContractId} {entry : Entry} {place : Nat}

theorem locate_eq_some_iff (sound : registry.Sound) :
    registry.locate? id = some (place, entry) ↔ registry.entries[place]? = some entry ∧ entry.id = id := by
  have located : registry.locate? id = some (place, entry) ↔
      registry.index.lookup id = some place ∧ registry.entries[place]? = some entry := by
    simp [locate?, Option.bind_eq_some_iff]
  rw [located, sound.indexed, ids, List.getElem?_map]
  constructor
  · rintro ⟨named, present⟩
    rw [present] at named
    exact ⟨present, Option.some.inj named⟩
  · rintro ⟨present, named⟩
    rw [present, ← named]
    exact ⟨rfl, rfl⟩

theorem get_eq_ok_iff_locate :
    registry.get id = .ok entry ↔ ∃ place, registry.locate? id = some (place, entry) := by
  unfold get
  cases located : registry.locate? id with
  | none => simp
  | some found => simp [Prod.ext_iff]

/-- An id finds the entry that has it. -/
theorem get_eq_ok_iff (sound : registry.Sound) :
    registry.get id = .ok entry ↔ entry ∈ registry.entries ∧ entry.id = id := by
  simp only [get_eq_ok_iff_locate, locate_eq_some_iff sound, exists_and_right, List.mem_iff_getElem?]

theorem get_eq_error {fault : RegistryError} (failed : registry.get id = .error fault) :
    fault = .unknownContract id := by
  unfold get at failed
  split at failed
  · cases failed
  · exact (Except.error.inj failed).symm

theorem exists_get_iff (sound : registry.Sound) :
    (∃ entry, registry.get id = .ok entry) ↔ id ∈ registry.ids := by
  simp only [get_eq_ok_iff sound, ids, List.mem_map]

theorem get_eq_unknown_iff (sound : registry.Sound) :
    registry.get id = .error (.unknownContract id) ↔ id ∉ registry.ids := by
  rw [← exists_get_iff sound]
  cases found : registry.get id with
  | ok entry => simp
  | error fault => simp [get_eq_error found]

theorem contains_iff (sound : registry.Sound) : registry.contains id ↔ id ∈ registry.ids := by
  rw [contains, Option.isSome_iff_exists, List.mem_iff_getElem?]
  exact exists_congr fun place => sound.indexed id place

theorem deployed_eq_ok_iff {address : Ledger.Address} {artifact : Artifact} :
    registry.deployed id = .ok (address, artifact) ↔
      ∃ entry, registry.get id = .ok entry ∧
        entry.progress = ⟨.deployed, some artifact, some address⟩ := by
  unfold deployed
  cases found : registry.get id with
  | error fault => simp [bind, Except.bind]
  | ok entry =>
    obtain ⟨contract, phase, artifact?, address?⟩ := entry
    simp only [bind, Except.bind, Except.ok.injEq, exists_eq_left']
    split
    · next same => simp_all [pure, Except.pure, and_comm]
    · next other =>
      simp only [throw, throwThe, MonadExceptOf.throw, reduceCtorEq, false_iff]
      intro same
      exact other _ _ same

/-- Consistency is what makes the answer depend on the phase alone. -/
theorem exists_deployed_iff (sound : registry.Sound) :
    (∃ found, registry.deployed id = .ok found) ↔
      ∃ entry, registry.get id = .ok entry ∧ entry.progress.phase = .deployed := by
  constructor
  · rintro ⟨⟨address, artifact⟩, deployed⟩
    obtain ⟨entry, found, progress⟩ := deployed_eq_ok_iff.mp deployed
    exact ⟨entry, found, by rw [progress]⟩
  · rintro ⟨entry, found, phase⟩
    have consistent := sound.consistent entry ((get_eq_ok_iff sound).mp found).1
    obtain ⟨artifact, noted⟩ := Option.isSome_iff_exists.mp (consistent.artifact.mpr (.inr phase))
    obtain ⟨address, told⟩ := Option.isSome_iff_exists.mp (consistent.address.mpr phase)
    refine ⟨(address, artifact), deployed_eq_ok_iff.mpr ⟨entry, found, ?_⟩⟩
    rw [← phase, ← noted, ← told]

theorem isDeployed_iff : entry.isDeployed ↔ entry.progress.phase = .deployed := by
  simp [Entry.isDeployed]

theorem pending_sublist : registry.pending.Sublist registry.ids :=
  List.filter_sublist.map Entry.id

/-- The contract is there and not deployed. -/
def Waiting (registry : Registry) (id : ContractId) : Prop :=
  ∃ entry, registry.get id = .ok entry ∧ entry.progress.phase ≠ .deployed

theorem mem_pending_iff (sound : registry.Sound) : id ∈ registry.pending ↔ registry.Waiting id := by
  simp only [pending, Waiting, List.mem_map, List.mem_filter, get_eq_ok_iff sound, Bool.not_eq_eq_eq_not,
    Bool.not_true, ← Bool.not_eq_true, isDeployed_iff, ne_eq]
  exact exists_congr fun entry => and_right_comm

theorem Waiting.not_deployed {found : Ledger.Address × Artifact} (waiting : registry.Waiting id) :
    registry.deployed id ≠ .ok found := by
  intro deployed
  obtain ⟨entry, present, undeployed⟩ := waiting
  obtain ⟨again, presentAgain, progress⟩ := deployed_eq_ok_iff.mp deployed
  rw [present] at presentAgain
  cases presentAgain
  exact undeployed (by rw [progress])

theorem Waiting.congr {after : Registry} (same : after.get id = registry.get id)
    (waiting : registry.Waiting id) : after.Waiting id := by
  unfold Waiting
  rwa [same]

end Questions

/-! ### Registering -/

section Registering

variable {registry after : Registry} {contract : Contract}

theorem register_eq_ok_iff (sound : registry.Sound) :
    registry.register contract = .ok after ↔ contract.id ∉ registry.ids ∧
      after = ⟨registry.entries ++ [.ofContract contract],
        (contract.id, registry.entries.length) :: registry.index⟩ := by
  unfold register
  split
  · next present =>
    have known := (contains_iff sound).mp present
    simp [known]
  · next absent =>
    have fresh : contract.id ∉ registry.ids := fun member => absent ((contains_iff sound).mpr member)
    simp [fresh, eq_comm]

theorem ids_of_register (sound : registry.Sound) (done : registry.register contract = .ok after) :
    after.ids = registry.ids ++ [contract.id] := by
  rw [((register_eq_ok_iff sound).mp done).2]
  simp [ids, Entry.ofContract, Entry.id]

theorem register_sound (sound : registry.Sound) (done : registry.register contract = .ok after) :
    after.Sound := by
  have order := ids_of_register sound done
  obtain ⟨fresh, rfl⟩ := (register_eq_ok_iff sound).mp done
  have length : registry.ids.length = registry.entries.length := List.length_map ..
  refine ⟨?_, ?_, ?_⟩
  · rw [order]
    exact List.nodup_append.mpr ⟨sound.distinct, List.nodup_singleton _, by grind⟩
  · intro id place
    rw [order, List.lookup_cons]
    by_cases same : id = contract.id
    · -- The new id is at the new place only, since no earlier place has it.
      subst same
      have elsewhere : registry.ids[place]? ≠ some contract.id :=
        fun named => fresh (List.mem_of_getElem? named)
      simp only [beq_self_eq_true, Option.some.injEq, List.getElem?_append]
      split
      · exact ⟨fun last => by omega, fun named => absurd named elsewhere⟩
      · rw [List.getElem?_singleton]
        split <;> simp <;> omega
    · have others : (id == contract.id) = false := beq_false_of_ne same
      simp only [others, sound.indexed, List.getElem?_append]
      split
      · exact Iff.rfl
      · rw [List.getElem?_eq_none (by omega), List.getElem?_singleton]
        split <;> simp [Ne.symm same]
  · intro entry member
    rcases List.mem_append.mp member with earlier | new
    · exact sound.consistent entry earlier
    · rw [List.mem_singleton.mp new]
      exact ⟨by simp [Entry.ofContract], by simp [Entry.ofContract]⟩

end Registering

/-! ### Going on to the next phase -/

namespace Entry

variable {entry changed : Entry}

theorem enter_eq_ok_iff {target : Phase} :
    entry.enter target = .ok changed ↔
      target ∈ entry.progress.phase.next ∧ changed = { entry with progress.phase := target } := by
  unfold enter
  split
  · next allowed => simp [allowed, eq_comm]
  · next refused => split <;> simp [refused]

theorem compiled_eq_ok_iff {artifact : Artifact} :
    entry.compiled artifact = .ok changed ↔ entry.progress.phase = .registered ∧
      changed = { entry with progress := ⟨.compiled, some artifact, entry.progress.address?⟩ } := by
  have first : Phase.compiled ∈ entry.progress.phase.next ↔ entry.progress.phase = .registered := by
    cases entry.progress.phase <;> simp [Phase.next]
  unfold compiled
  cases entered : entry.enter .compiled with
  | ok next =>
    obtain ⟨allowed, rfl⟩ := enter_eq_ok_iff.mp entered
    simp [bind, Except.bind, pure, Except.pure, first.mp allowed, eq_comm]
  | error fault =>
    have refused : entry.progress.phase ≠ .registered := by
      intro phase
      rw [enter_eq_ok_iff.mpr ⟨first.mpr phase, rfl⟩] at entered
      cases entered
    simp [bind, Except.bind, refused]

theorem deployed_eq_ok_iff {address : Ledger.Address} :
    entry.deployed address = .ok changed ↔ entry.progress.phase = .compiled ∧
      changed = { entry with progress := ⟨.deployed, entry.progress.artifact?, some address⟩ } := by
  have second : Phase.deployed ∈ entry.progress.phase.next ↔ entry.progress.phase = .compiled := by
    cases entry.progress.phase <;> simp [Phase.next]
  unfold deployed
  cases entered : entry.enter .deployed with
  | ok next =>
    obtain ⟨allowed, rfl⟩ := enter_eq_ok_iff.mp entered
    simp [bind, Except.bind, pure, Except.pure, second.mp allowed, eq_comm]
  | error fault =>
    have refused : entry.progress.phase ≠ .compiled := by
      intro phase
      rw [enter_eq_ok_iff.mpr ⟨second.mpr phase, rfl⟩] at entered
      cases entered
    simp [bind, Except.bind, refused]

end Entry

/-- A change that goes one phase on and notes what belongs to the new phase. -/
structure Advances (change : Entry → Except RegistryError Entry) : Prop where
  contract : ∀ entry changed, change entry = .ok changed → changed.contract = entry.contract
  consistent : ∀ entry changed, change entry = .ok changed → entry.progress.Consistent →
    changed.progress.Consistent
  undeployed : ∀ entry changed, change entry = .ok changed → entry.progress.phase ≠ .deployed

theorem compiled_advances (artifact : Artifact) : Advances (Entry.compiled artifact) where
  contract entry changed done := by rw [(Entry.compiled_eq_ok_iff.mp done).2]
  consistent entry changed done before := by
    obtain ⟨phase, rfl⟩ := Entry.compiled_eq_ok_iff.mp done
    have address := before.address
    rw [phase] at address
    exact ⟨by simp, by simpa using address⟩
  undeployed entry changed done := by simp [(Entry.compiled_eq_ok_iff.mp done).1]

theorem deployed_advances (address : Ledger.Address) : Advances (Entry.deployed address) where
  contract entry changed done := by rw [(Entry.deployed_eq_ok_iff.mp done).2]
  consistent entry changed done before := by
    obtain ⟨phase, rfl⟩ := Entry.deployed_eq_ok_iff.mp done
    have artifact := before.artifact.mpr (.inl phase)
    exact ⟨by simpa using artifact, by simp⟩
  undeployed entry changed done := by simp [(Entry.deployed_eq_ok_iff.mp done).1]

section Amending

variable {registry after : Registry} {id : ContractId} {change : Entry → Except RegistryError Entry}

theorem amend_eq_ok (done : registry.amend id change = .ok after) :
    ∃ place entry changed, registry.locate? id = some (place, entry) ∧ change entry = .ok changed ∧
      after = { registry with entries := registry.entries.set place changed } := by
  unfold amend at done
  split at done
  · cases done
  · next place entry located =>
    cases made : change entry with
    | error fault => simp [made, bind, Except.bind] at done
    | ok changed =>
      simp only [made, bind, Except.bind, pure, Except.pure, Except.ok.injEq] at done
      exact ⟨place, entry, changed, located, made, done.symm⟩

theorem amend_of_get {entry changed : Entry} (found : registry.get id = .ok entry)
    (made : change entry = .ok changed) : ∃ after, registry.amend id change = .ok after := by
  obtain ⟨place, located⟩ := get_eq_ok_iff_locate.mp found
  exact ⟨{ registry with entries := registry.entries.set place changed }, by
    simp [amend, located, made, bind, Except.bind, pure, Except.pure]⟩

theorem ids_of_amend (sound : registry.Sound) (advances : Advances change)
    (done : registry.amend id change = .ok after) : after.ids = registry.ids := by
  obtain ⟨place, entry, changed, located, made, rfl⟩ := amend_eq_ok done
  have present := ((locate_eq_some_iff sound).mp located).1
  have same : changed.id = entry.id := congrArg Contract.id (advances.contract _ _ made)
  rw [ids, List.map_set, same]
  apply List.ext_getElem?
  intro other
  by_cases there : place = other
  · subst there
    rw [List.getElem?_set_self', ids, List.getElem?_map, present]
    rfl
  · rw [List.getElem?_set_ne there, ids]

theorem amend_sound (sound : registry.Sound) (advances : Advances change)
    (done : registry.amend id change = .ok after) : after.Sound := by
  have order := ids_of_amend sound advances done
  obtain ⟨place, entry, changed, located, made, rfl⟩ := amend_eq_ok done
  have present := ((locate_eq_some_iff sound).mp located).1
  refine ⟨by rw [order]; exact sound.distinct, ?_, ?_⟩
  · intro other there
    rw [order]
    exact sound.indexed other there
  · intro other member
    rcases List.mem_or_eq_of_mem_set member with earlier | rfl
    · exact sound.consistent other earlier
    · exact advances.consistent _ _ made (sound.consistent entry (List.mem_of_getElem? present))

/-- Only the entry that is amended changes. -/
theorem get_of_amend (sound : registry.Sound) (advances : Advances change)
    (done : registry.amend id change = .ok after) :
    ∃ entry changed, registry.get id = .ok entry ∧ change entry = .ok changed ∧
      after.get id = .ok changed ∧ ∀ other, other ≠ id → after.get other = registry.get other := by
  have afterSound := amend_sound sound advances done
  obtain ⟨place, entry, changed, located, made, rfl⟩ := amend_eq_ok done
  obtain ⟨present, named⟩ := (locate_eq_some_iff sound).mp located
  have same : changed.id = entry.id := congrArg Contract.id (advances.contract _ _ made)
  have inside : place < registry.entries.length := (List.getElem?_eq_some_iff.mp present).1
  refine ⟨entry, changed, get_eq_ok_iff_locate.mpr ⟨place, located⟩, made, ?_, ?_⟩
  · exact (get_eq_ok_iff afterSound).mpr ⟨List.mem_set inside changed, same.trans named⟩
  · intro other different
    have elsewhere : registry.index.lookup other ≠ some place := by
      rw [Ne, sound.indexed, ids, List.getElem?_map, present]
      intro equal
      exact different ((Option.some.inj equal).symm.trans named)
    unfold get locate?
    cases found : registry.index.lookup other with
    | none => rfl
    | some there =>
      have apart : place ≠ there := fun equal => elsewhere (equal ▸ found)
      simp [List.getElem?_set_ne apart]

end Amending

/-! ### What lasts -/

/-- The second registry has the same contracts as the first, and those that were deployed still are. -/
structure Extends (registry after : Registry) : Prop where
  sound : registry.Sound → after.Sound
  ids : after.ids = registry.ids
  deployed : ∀ id found, registry.deployed id = .ok found → after.deployed id = .ok found

theorem Extends.refl (registry : Registry) : registry.Extends registry :=
  ⟨id, rfl, fun _ _ deployed => deployed⟩

theorem Extends.trans {first second third : Registry} (left : first.Extends second)
    (right : second.Extends third) : first.Extends third :=
  ⟨fun sound => right.sound (left.sound sound), right.ids.trans left.ids,
    fun id found deployed => right.deployed id found (left.deployed id found deployed)⟩

section Marking

variable {registry after : Registry} {id : ContractId}

/-- Whether a contract is deployed depends on its entry only. -/
theorem deployed_congr (same : after.get id = registry.get id) :
    after.deployed id = registry.deployed id := by
  unfold deployed
  rw [same]

theorem Extends.unknown_iff (lasts : registry.Extends after) (sound : registry.Sound) :
    after.get id = .error (.unknownContract id) ↔ registry.get id = .error (.unknownContract id) := by
  rw [get_eq_unknown_iff sound, get_eq_unknown_iff (lasts.sound sound), lasts.ids]

/-- What waits later has waited before. -/
theorem Extends.waiting (lasts : registry.Extends after) (sound : registry.Sound)
    (waiting : after.Waiting id) : registry.Waiting id := by
  obtain ⟨later, foundLater, undeployed⟩ := waiting
  have member : id ∈ registry.ids := by
    rw [← lasts.ids]
    exact (exists_get_iff (lasts.sound sound)).mp ⟨later, foundLater⟩
  obtain ⟨entry, found⟩ := (exists_get_iff sound).mpr member
  refine ⟨entry, found, fun phase => ?_⟩
  obtain ⟨known, deployed⟩ := (exists_deployed_iff sound).mpr ⟨entry, found, phase⟩
  exact Waiting.not_deployed ⟨later, foundLater, undeployed⟩ (lasts.deployed _ _ deployed)

theorem amend_extends {change : Entry → Except RegistryError Entry} (sound : registry.Sound)
    (advances : Advances change) (done : registry.amend id change = .ok after) :
    registry.Extends after := by
  obtain ⟨entry, changed, found, made, -, others⟩ := get_of_amend sound advances done
  refine ⟨fun _ => amend_sound sound advances done, ids_of_amend sound advances done, ?_⟩
  intro other known deployed
  by_cases same : other = id
  · subst same
    obtain ⟨present, presentFound, phase⟩ := (exists_deployed_iff sound).mp ⟨known, deployed⟩
    rw [found] at presentFound
    cases presentFound
    exact absurd phase (advances.undeployed _ _ made)
  · rw [deployed_congr (others other same)]
    exact deployed

theorem markCompiled_of_get {entry : Entry} (artifact : Artifact) (found : registry.get id = .ok entry)
    (phase : entry.progress.phase = .registered) :
    ∃ after, registry.markCompiled id artifact = .ok after :=
  amend_of_get found (Entry.compiled_eq_ok_iff.mpr ⟨phase, rfl⟩)

theorem markDeployed_of_get {entry : Entry} (address : Ledger.Address) (found : registry.get id = .ok entry)
    (phase : entry.progress.phase = .compiled) :
    ∃ after, registry.markDeployed id address = .ok after :=
  amend_of_get found (Entry.deployed_eq_ok_iff.mpr ⟨phase, rfl⟩)

theorem get_of_markCompiled {artifact : Artifact} (sound : registry.Sound)
    (done : registry.markCompiled id artifact = .ok after) :
    ∃ entry, registry.get id = .ok entry ∧ after.get id =
      .ok { entry with progress := ⟨.compiled, some artifact, entry.progress.address?⟩ } := by
  obtain ⟨entry, changed, found, made, foundAfter, -⟩ :=
    get_of_amend sound (compiled_advances artifact) done
  rw [(Entry.compiled_eq_ok_iff.mp made).2] at foundAfter
  exact ⟨entry, found, foundAfter⟩

theorem get_of_markDeployed {address : Ledger.Address} (sound : registry.Sound)
    (done : registry.markDeployed id address = .ok after) :
    ∃ entry, registry.get id = .ok entry ∧ after.get id =
      .ok { entry with progress := ⟨.deployed, entry.progress.artifact?, some address⟩ } := by
  obtain ⟨entry, changed, found, made, foundAfter, -⟩ :=
    get_of_amend sound (deployed_advances address) done
  rw [(Entry.deployed_eq_ok_iff.mp made).2] at foundAfter
  exact ⟨entry, found, foundAfter⟩

end Marking

end Registry

end LedgerCapture
