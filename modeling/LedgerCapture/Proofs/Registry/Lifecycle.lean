import LedgerCapture.Proofs.Registry.InPlace
import LedgerCapture.Proofs.Registry.Progress

/-!
What operations leave alone, and the way of a contract through its phases. An operation turns at most the entry that
it names, and from one phase to the next; so over any operations in any order each contract is compiled once at most,
deployed once at most and only after that, and from then on it stays as it is.
-/
namespace LedgerCapture.Registry

def Operation.subject : Operation → ContractId
  | register contract => contract.id
  | markCompiled id _ => id
  | markDeployed id _ => id

def Operation.target : Operation → Phase
  | register _ => .registered
  | markCompiled _ _ => .compiled
  | markDeployed _ _ => .deployed

inductive Turns (id : ContractId) : Operation → Except RegistryError Entry → Except RegistryError Entry → Prop where
  | kept {operation : Operation} (apart : id ≠ operation.subject) (found : Except RegistryError Entry) :
      Turns id operation found found
  | registered {contract : Contract} (named : contract.id = id) :
      Turns id (.register contract) (.error (.unknownContract id)) (.ok (.ofContract contract))
  | compiled (contract : Contract) (artifact : Artifact) : Turns id (.markCompiled id artifact)
      (.ok ⟨contract, ⟨.registered, none, none⟩⟩) (.ok ⟨contract, ⟨.compiled, some artifact, none⟩⟩)
  | deployed (contract : Contract) (artifact : Artifact) (address : Ledger.Address) :
      Turns id (.markDeployed id address) (.ok ⟨contract, ⟨.compiled, some artifact, none⟩⟩)
        (.ok ⟨contract, ⟨.deployed, some artifact, some address⟩⟩)

/-! ### One operation -/

section

variable {registry after : Registry} {operation : Operation} {id : ContractId}

/-- Every entry but that of the contract stands where it stood, and no other entry has come. -/
def Frames (id : ContractId) (registry after : Registry) : Prop :=
  ∀ (place : Nat) (entry : Entry), entry.id ≠ id →
    (after.entries[place]? = some entry ↔ registry.entries[place]? = some entry)

theorem frames_withProgress (registry : Registry) (id : ContractId) (progress : Progress) :
    Frames id registry (registry.withProgress id progress) := by
  intro place entry other
  rw [withProgress, List.getElem?_map]
  cases there : registry.entries[place]? with
  | none => simp
  | some present =>
    by_cases same : present.id = id
    · -- the entry of the contract is none of the others, neither before nor after
      have before : present ≠ entry := fun equal => other (equal ▸ same)
      have later : { present with progress } ≠ entry := fun equal => other (equal ▸ same)
      simp [same, before, later]
    · simp [same]

theorem frames_register {contract : Contract} (sound : registry.Sound)
    (done : registry.register contract = .ok after) : Frames contract.id registry after := by
  obtain ⟨-, rfl⟩ := (register_eq_ok_iff sound).mp done
  intro place entry other
  have new : Entry.ofContract contract ≠ entry := fun equal => other (equal ▸ rfl)
  rw [List.getElem?_append]
  split
  · rfl
  · next outside =>
    rw [List.getElem?_eq_none (Nat.not_lt.mp outside), List.getElem?_singleton]
    split <;> simp [new]

theorem perform_frames (sound : registry.Sound) (done : operation.perform registry = .ok after) :
    Frames operation.subject registry after := by
  cases operation with
  | register contract => exact frames_register sound done
  | markCompiled id artifact =>
    obtain ⟨entry, -, -, rfl⟩ := markCompiled_eq sound done
    exact frames_withProgress registry id _
  | markDeployed id address =>
    obtain ⟨entry, artifact, -, -, rfl⟩ := markDeployed_eq sound done
    exact frames_withProgress registry id _

theorem get_eq_of_frames (sound : registry.Sound) (soundAfter : after.Sound) {other : ContractId} (apart : other ≠ id)
    (frames : Frames id registry after) : after.get other = registry.get other := by
  have same (entry : Entry) : after.get other = .ok entry ↔ registry.get other = .ok entry := by
    rw [get_eq_ok_iff sound, get_eq_ok_iff soundAfter]
    refine and_congr_left fun named => ?_
    have different : entry.id ≠ id := fun equal => apart (named.symm.trans equal)
    simp only [List.mem_iff_getElem?, frames _ _ different]
  cases found : registry.get other with
  | ok entry => exact (same entry).mpr found
  | error fault =>
    cases foundAfter : after.get other with
    | ok entry => cases found.symm.trans ((same entry).mp foundAfter)
    | error faultAfter => rw [get_eq_error found, get_eq_error foundAfter]

theorem get_withProgress {entry : Entry} {progress : Progress} (sound : registry.Sound)
    (soundAfter : (registry.withProgress id progress).Sound) (found : registry.get id = .ok entry) :
    (registry.withProgress id progress).get id = .ok { entry with progress } := by
  obtain ⟨member, named⟩ := (get_eq_ok_iff sound).mp found
  refine (get_eq_ok_iff soundAfter).mpr ⟨?_, named⟩
  have listed := List.mem_map_of_mem (f := fun entry => if entry.id = id then { entry with progress } else entry) member
  rwa [if_pos named] at listed

/-- An operation that is carried out turns what is answered about each contract. -/
theorem perform_turns (sound : registry.Sound) (done : operation.perform registry = .ok after) (id : ContractId) :
    Turns id operation (registry.get id) (after.get id) := by
  have soundAfter := operation.perform_sound sound done
  by_cases about : id = operation.subject
  · cases operation with
    | register contract =>
      obtain ⟨fresh, rfl⟩ := (register_eq_ok_iff sound).mp done
      have unknown := (get_eq_unknown_iff sound).mpr fresh
      have known : Registry.get _ contract.id = .ok (.ofContract contract) :=
        (get_eq_ok_iff soundAfter).mpr ⟨List.mem_append_right _ (List.mem_singleton_self _), rfl⟩
      rw [about, Operation.subject, unknown, known]
      exact .registered rfl
    | markCompiled other artifact =>
      obtain ⟨⟨contract, progress⟩, found, rfl, rfl⟩ := markCompiled_eq sound done
      rw [about, Operation.subject, get_withProgress sound soundAfter found, found]
      exact .compiled contract artifact
    | markDeployed other address =>
      obtain ⟨⟨contract, progress⟩, artifact, found, rfl, rfl⟩ := markDeployed_eq sound done
      rw [about, Operation.subject, get_withProgress sound soundAfter found, found]
      exact .deployed contract artifact address
  · rw [get_eq_of_frames sound soundAfter about (perform_frames sound done)]
    exact .kept about _

/-- What is deployed cannot go on. -/
theorem mark_of_deployed {entry : Entry} (sound : registry.Sound) (found : registry.get id = .ok entry)
    (deployed : entry.progress.phase = .deployed) (target : Phase) (note : Entry → Entry) :
    (Method.mark id target note).on registry = (.error (.alreadyDeployed id), registry) := by
  obtain ⟨place, located⟩ := get_eq_ok_iff_locate.mp found
  have named := ((locate_eq_some_iff sound).mp located).2
  have refused : entry.enter target = .error (.alreadyDeployed id) := by
    rw [Entry.enter, deployed, if_neg (by simp [Phase.next]), if_pos rfl, named]
  rw [Method.mark_on, amend, located]
  simp only [refused]
  rfl

def phaseOf : Except RegistryError Entry → Option Phase
  | .ok entry => some entry.progress.phase
  | .error _ => none

def phase? (registry : Registry) (id : ContractId) : Option Phase :=
  phaseOf (registry.get id)

end

/-! ### Many operations -/

/-- The way of a contract, from not being there to being deployed. -/
def height : Option Phase → Nat
  | none => 0
  | some .registered => 1
  | some .compiled => 2
  | some .deployed => 3

theorem height_injective {left right : Option Phase} (same : height left = height right) : left = right := by
  have all : ∀ left right, height left = height right → left = right := by
    rintro (_ | _ | _ | _) (_ | _ | _ | _) <;> simp [height]
  exact all left right same

/-- With the operation at this place a contract gets into the phase. -/
def Becomes (operations : List Operation) (id : ContractId) (phase : Phase) (place : Nat) : Prop :=
  (left (operations.take place)).phase? id ≠ some phase ∧ (left (operations.take (place + 1))).phase? id = some phase

section

variable {operations : List Operation} {id : ContractId} {phase : Phase} {place later : Nat}

theorem left_sound (operations : List Operation) : (left operations).Sound := by
  rw [left_eq_after]
  exact after_sound operations

theorem left_take_succ {operation : Operation} (there : operations[place]? = some operation) :
    left (operations.take (place + 1)) = (operation.method.on (left (operations.take place))).2 := by
  rw [List.take_add_one, there, Option.toList_some, left, List.foldl_append]
  rfl

/-- An operation that fails turns nothing. -/
theorem left_turns (operations : List Operation) (place : Nat) (id : ContractId) :
    left (operations.take (place + 1)) = left (operations.take place) ∨
      ∃ operation, operations[place]? = some operation ∧
        (operation.method.on (left (operations.take place))).1 = .ok () ∧
        Turns id operation ((left (operations.take place)).get id) ((left (operations.take (place + 1))).get id) := by
  cases there : operations[place]? with
  | none => rw [List.take_add_one, there]; simp
  | some operation =>
    have carriedOut : operation.method.on (left (operations.take place)) = _ := operation.method_on
    rw [left_take_succ there, carriedOut]
    cases done : operation.perform (left (operations.take place)) with
    | error fault => exact .inl rfl
    | ok after => exact .inr ⟨operation, rfl, by rw [carriedOut, done]; rfl, perform_turns (left_sound _) done id⟩

theorem Turns.height_succ {operation : Operation} {before later : Except RegistryError Entry}
    (turns : Turns id operation before later) :
    height (phaseOf later) = height (phaseOf before) ∨ height (phaseOf later) = height (phaseOf before) + 1 := by
  cases turns with
  | kept => exact .inl rfl
  | registered | compiled | deployed => exact .inr rfl

/-- A contract goes on by one phase at most. -/
theorem height_succ (operations : List Operation) (place : Nat) (id : ContractId) :
    height ((left (operations.take (place + 1))).phase? id) = height ((left (operations.take place)).phase? id) ∨
      height ((left (operations.take (place + 1))).phase? id) =
        height ((left (operations.take place)).phase? id) + 1 := by
  rcases left_turns operations place id with same | ⟨operation, -, -, turns⟩
  · rw [same]
    exact .inl rfl
  · exact turns.height_succ

theorem height_le_succ (operations : List Operation) (place : Nat) (id : ContractId) :
    height ((left (operations.take place)).phase? id) ≤ height ((left (operations.take (place + 1))).phase? id) := by
  rcases height_succ operations place id with same | next <;> omega

/-- No contract goes back. -/
theorem height_mono (operations : List Operation) (id : ContractId) (before : place ≤ later) :
    height ((left (operations.take place)).phase? id) ≤ height ((left (operations.take later)).phase? id) := by
  induction before with
  | refl => exact Nat.le_refl _
  | step _ ih => exact Nat.le_trans ih (height_le_succ operations _ id)

/-- It is in a phase because it has got there. -/
theorem exists_becomes (reached : (left (operations.take place)).phase? id = some phase) :
    ∃ earlier < place, Becomes operations id phase earlier := by
  induction place with
  | zero => cases reached
  | succ place ih =>
    by_cases before : (left (operations.take place)).phase? id = some phase
    · obtain ⟨earlier, first, becomes⟩ := ih before
      exact ⟨earlier, Nat.lt_succ_of_lt first, becomes⟩
    · exact ⟨place, Nat.lt_succ_self place, before, reached⟩

theorem Becomes.unique {second : Nat} (becomes : Becomes operations id phase place)
    (again : Becomes operations id phase second) : place = second := by
  have earliest : ∀ {first second : Nat}, Becomes operations id phase first → Becomes operations id phase second →
      ¬first < second := by
    intro first second becomes again before
    have low := height_mono operations id (Nat.succ_le_of_lt before)
    have high := height_mono operations id (Nat.le_succ second)
    rw [Nat.succ_eq_add_one, becomes.2] at low
    rw [Nat.succ_eq_add_one, again.2] at high
    exact again.1 (height_injective (Nat.le_antisymm high low))
  exact Nat.le_antisymm (Nat.not_lt.mp (earliest again becomes)) (Nat.not_lt.mp (earliest becomes again))

/-- The phase before. -/
theorem Becomes.height_eq (becomes : Becomes operations id phase place) :
    height ((left (operations.take place)).phase? id) + 1 = height (some phase) := by
  obtain ⟨before, reached⟩ := becomes
  have step := height_succ operations place id
  rw [reached] at step
  rcases step with same | next
  · exact absurd (height_injective same.symm) before
  · exact next.symm

theorem Turns.of_subject {operation : Operation} {before later : Except RegistryError Entry}
    (turns : Turns id operation before later) (about : operation.subject = id) :
    phaseOf before ≠ some operation.target ∧ phaseOf later = some operation.target := by
  cases turns with
  | kept apart => exact absurd about.symm apart
  | registered | compiled | deployed => exact ⟨nofun, rfl⟩

theorem Turns.of_changed {operation : Operation} {before later : Except RegistryError Entry}
    (turns : Turns id operation before later) (started : phaseOf before ≠ some phase)
    (reached : phaseOf later = some phase) : operation.subject = id ∧ operation.target = phase := by
  cases turns with
  | kept => exact absurd reached started
  | registered named => exact ⟨named, Option.some.inj reached⟩
  | compiled | deployed => exact ⟨rfl, Option.some.inj reached⟩

/-- A contract gets into a phase by an operation that is carried out for it, and by each of them. -/
theorem becomes_iff : Becomes operations id phase place ↔ ∃ operation, operations[place]? = some operation ∧
    operation.subject = id ∧ operation.target = phase ∧
    (operation.method.on (left (operations.take place))).1 = .ok () := by
  constructor
  · rintro ⟨before, reached⟩
    rcases left_turns operations place id with same | ⟨operation, there, done, turns⟩
    · rw [same] at reached
      exact absurd reached before
    · obtain ⟨about, target⟩ := turns.of_changed before reached
      exact ⟨operation, there, about, target, done⟩
  · rintro ⟨operation, there, about, rfl, done⟩
    have carriedOut : operation.method.on (left (operations.take place)) = _ := operation.method_on
    rw [carriedOut] at done
    cases performed : operation.perform (left (operations.take place)) with
    | error fault =>
      rw [performed] at done
      cases done
    | ok after =>
      have turns := perform_turns (left_sound _) performed id
      rw [Becomes, left_take_succ there, carriedOut, performed]
      exact turns.of_subject about

theorem Turns.of_deployed {operation : Operation} {entry : Entry} {later : Except RegistryError Entry}
    (turns : Turns id operation (.ok entry) later) (deployed : entry.progress.phase = .deployed) :
    later = .ok entry := by
  cases turns with
  | kept => rfl
  | compiled | deployed => cases deployed

/-- A deployed contract stays as it is. -/
theorem get_of_deployed {entry : Entry} (found : (left (operations.take place)).get id = .ok entry)
    (deployed : entry.progress.phase = .deployed) (before : place ≤ later) :
    (left (operations.take later)).get id = .ok entry := by
  induction before with
  | refl => exact found
  | @step later _ ih =>
    rcases left_turns operations later id with same | ⟨operation, -, -, turns⟩
    · exact same ▸ ih
    · rw [ih] at turns
      exact turns.of_deployed deployed

end

/-! ### What lasts -/

structure Operation.Spares (operation : Operation) (registry : Registry) : Prop where
  /-- Where it fails, everything. -/
  failed : ∀ fault final, operation.method.on registry = (.error fault, final) → final = registry
  /-- Where it is carried out, all entries but the one that it names. -/
  frames : ∀ final, operation.method.on registry = (.ok (), final) → Frames operation.subject registry final
  others : ∀ final, operation.method.on registry = (.ok (), final) →
    ∀ id, id ≠ operation.subject → final.get id = registry.get id

structure Lifecycle (operations : List Operation) (id : ContractId) : Prop where
  /-- It gets into a phase by the operations that are carried out for it, and in no other way. -/
  becomes_iff : ∀ phase place, Becomes operations id phase place ↔ ∃ operation,
    operations[place]? = some operation ∧ operation.subject = id ∧ operation.target = phase ∧
    (operation.method.on (left (operations.take place))).1 = .ok ()
  once : ∀ phase first second, Becomes operations id phase first → Becomes operations id phase second → first = second
  ordered : ∀ place, Becomes operations id .deployed place → ∃ earlier < place, Becomes operations id .compiled earlier
  /-- Once it is deployed its entry stays the same, and it can be neither compiled nor deployed again. -/
  last : ∀ place entry, (left (operations.take place)).get id = .ok entry → entry.progress.phase = .deployed →
    ∀ later, place ≤ later → (left (operations.take later)).get id = .ok entry ∧
      ∀ operation : Operation, operation.subject = id → operation.target ≠ .registered →
        operation.method.on (left (operations.take later)) =
          (.error (.alreadyDeployed id), left (operations.take later))

theorem sound_spares {registry : Registry} (sound : registry.Sound) (operation : Operation) :
    operation.Spares registry where
  failed fault final ran := by
    rw [operation.method_on] at ran
    exact (settle_eq_error_iff.mp ran).2
  frames final ran := by
    rw [operation.method_on] at ran
    exact perform_frames sound (settle_eq_ok_iff.mp ran)
  others final ran id apart := by
    rw [operation.method_on] at ran
    have done := settle_eq_ok_iff.mp ran
    exact get_eq_of_frames sound (operation.perform_sound sound done) apart (perform_frames sound done)

/-- Whatever is done to a registry, and whatever of it fails: an operation touches no entry but that of its contract
and nothing if it fails, and each contract goes through its phases in order, once, and stays deployed as it is. -/
theorem left_lifecycle (operations : List Operation) :
    (∀ operation : Operation, operation.Spares (left operations)) ∧ ∀ id, Lifecycle operations id := by
  refine ⟨sound_spares (left_sound operations), fun id => ?_⟩
  exact {
    becomes_iff := fun phase place => becomes_iff
    once := fun phase first second becomes again => becomes.unique again
    ordered := fun place becomes => by
      have compiled : (left (operations.take place)).phase? id = some .compiled :=
        height_injective (Nat.succ.inj becomes.height_eq)
      exact exists_becomes compiled
    last := fun place entry found deployed later before => by
      have stays := get_of_deployed found deployed before
      refine ⟨stays, fun operation about further => ?_⟩
      have refused := mark_of_deployed (left_sound (operations.take later)) stays deployed
      subst about
      cases operation with
      | register contract => exact absurd rfl further
      | markCompiled id artifact => exact refused _ _
      | markDeployed id address => exact refused _ _ }

end LedgerCapture.Registry
