import LedgerCapture.Proofs.Registry.History

/-!
The operations on a registry as they are carried out in place, one write after the other. An operation that fails
leaves what it has written so far, so it has to be proved that this is nothing: every check comes before the first
write, and no check is made between two of them.
-/
namespace LedgerCapture.Registry

/-- Steps that change a registry in place. They leave a registry also where they fail. -/
abbrev Method := ExceptT RegistryError (StateM Registry)

namespace Method

def on {α : Type} (method : Method α) (registry : Registry) : Except RegistryError α × Registry :=
  (StateT.run (ExceptT.run method) registry).run

def locate (id : ContractId) : Method (Nat × Entry) := do
  match (← getThe Registry).locate? id with
  | some found => return found
  | none => throw (.unknownContract id)

def write (place : Nat) (change : Entry → Entry) : Method Unit :=
  modify fun registry => { registry with entries := registry.entries.modify place change }

def enter (place : Nat) (entry : Entry) (target : Phase) : Method Unit :=
  if target ∈ entry.progress.phase.next then write place fun entry => { entry with progress.phase := target }
  else if entry.progress.phase = .deployed then throw (.alreadyDeployed entry.id)
  else throw (.invalidTransition entry.id entry.progress.phase target)

/-- Adds a contract: first to the index, then to the entries. -/
def register (contract : Contract) : Method Unit := do
  if (← getThe Registry).contains contract.id then throw (.duplicateContract contract.id)
  else
    modify fun registry => { registry with index := (contract.id, registry.entries.length) :: registry.index }
    modify fun registry => { registry with entries := registry.entries ++ [.ofContract contract] }

/-- Brings a contract into another phase: first this is written, then what is to be noted with it. -/
def mark (id : ContractId) (target : Phase) (note : Entry → Entry) : Method Unit := do
  let (place, entry) ← locate id
  enter place entry target
  write place note

end Method

def Operation.method : Operation → Method Unit
  | register contract => .register contract
  | markCompiled id artifact => .mark id .compiled fun entry => { entry with progress.artifact? := some artifact }
  | markDeployed id address => .mark id .deployed fun entry => { entry with progress.address? := some address }

def left (operations : List Operation) : Registry :=
  operations.foldl (fun registry operation => (operation.method.on registry).2) empty

/-! ### In place and all at once -/

/-- An outcome that is there as a whole: without a new registry the old one is left. -/
def settle (registry : Registry) : Except RegistryError Registry → Except RegistryError Unit × Registry
  | .ok after => (.ok (), after)
  | .error fault => (.error fault, registry)

section

variable {registry : Registry}

theorem settle_eq_ok_iff {outcome : Except RegistryError Registry} {final : Registry} :
    registry.settle outcome = (.ok (), final) ↔ outcome = .ok final := by
  cases outcome <;> simp [settle]

theorem settle_eq_error_iff {outcome : Except RegistryError Registry} {fault : RegistryError} {final : Registry} :
    registry.settle outcome = (.error fault, final) ↔ outcome = .error fault ∧ final = registry := by
  cases outcome <;> simp [settle, eq_comm]

theorem entry_of_locate {id : ContractId} {place : Nat} {entry : Entry}
    (located : registry.locate? id = some (place, entry)) : registry.entries[place]? = some entry := by
  simp only [locate?, Option.bind_eq_bind, Option.bind_eq_some_iff, Option.pure_def, Option.some.injEq,
    Prod.mk.injEq] at located
  obtain ⟨_, -, _, there, rfl, rfl⟩ := located
  exact there

namespace Method

section

variable {α β : Type} {method : Method α} {next : α → Method β} {between : Registry}

theorem on_bind_of_ok {value : α} (ran : method.on registry = (.ok value, between)) :
    (method >>= next).on registry = (next value).on between := by
  have ran' : (StateT.run (ExceptT.run method) registry).run = (.ok value, between) := ran
  unfold on
  rw [ExceptT.run_bind, StateT.run_bind, Id.run_bind, ran']

theorem on_bind_of_error {fault : RegistryError} (ran : method.on registry = (.error fault, between)) :
    (method >>= next).on registry = (.error fault, between) := by
  have ran' : (StateT.run (ExceptT.run method) registry).run = (.error fault, between) := ran
  unfold on
  rw [ExceptT.run_bind, StateT.run_bind, Id.run_bind, ran']
  rfl

end

theorem read_on : (getThe Registry : Method Registry).on registry = (.ok registry, registry) :=
  rfl

theorem register_on (contract : Contract) :
    (register contract).on registry = registry.settle (registry.register contract) := by
  rw [register, on_bind_of_ok read_on, Registry.register]
  by_cases present : registry.contains contract.id = true
  · rw [if_pos present, if_pos present]
    rfl
  · rw [if_neg present, if_neg present]
    rfl

theorem locate_on (id : ContractId) : (locate id).on registry =
    (match registry.locate? id with | some found => .ok found | none => .error (.unknownContract id), registry) := by
  rw [locate, on_bind_of_ok read_on]
  cases registry.locate? id <;> rfl

theorem write_on (place : Nat) (change : Entry → Entry) : (write place change).on registry =
    (.ok (), { registry with entries := registry.entries.modify place change }) :=
  rfl

theorem modify_modify_of_getElem? {entries : List Entry} {place : Nat} {entry : Entry}
    (there : entries[place]? = some entry) (first second : Entry → Entry) :
    (entries.modify place first).modify place second = entries.set place (second (first entry)) := by
  refine List.ext_getElem? fun other => ?_
  rw [List.getElem?_modify, List.getElem?_modify]
  by_cases here : place = other
  · subst here
    rw [List.getElem?_set_self', there]
    simp
  · rw [List.getElem?_set_ne here]
    simp [here]

/-- Both writes go to the entry that was found, so together they set it. -/
theorem mark_on (id : ContractId) (target : Phase) (note : Entry → Entry) :
    (mark id target note).on registry =
      registry.settle (registry.amend id fun entry => (entry.enter target).map note) := by
  rw [mark, amend]
  have found : (locate id).on registry = _ := locate_on id
  cases located : registry.locate? id with
  | none =>
    rw [located] at found
    exact on_bind_of_error found
  | some there =>
    obtain ⟨place, entry⟩ := there
    rw [located] at found
    rw [on_bind_of_ok found]
    dsimp only
    by_cases allowed : target ∈ entry.progress.phase.next
    · rw [enter, Entry.enter, if_pos allowed, if_pos allowed, on_bind_of_ok (write_on place _), write_on]
      dsimp only
      rw [modify_modify_of_getElem? (entry_of_locate located)]
      rfl
    · rw [enter, Entry.enter, if_neg allowed, if_neg allowed]
      by_cases last : entry.progress.phase = .deployed
      · rw [if_pos last, if_pos last]
        exact on_bind_of_error rfl
      · rw [if_neg last, if_neg last]
        exact on_bind_of_error rfl

end Method

/-- Done in place an operation leaves what it makes of the registry as a whole. -/
theorem Operation.method_on (operation : Operation) :
    operation.method.on registry = registry.settle (operation.perform registry) := by
  cases operation with
  | register contract => exact Method.register_on contract
  | markCompiled id artifact =>
    have same : (fun entry : Entry => (entry.enter .compiled).map
        fun entry => { entry with progress.artifact? := some artifact }) = Entry.compiled artifact := rfl
    rw [method, Method.mark_on, same]
    rfl
  | markDeployed id address =>
    have same : (fun entry : Entry => (entry.enter .deployed).map
        fun entry => { entry with progress.address? := some address }) = Entry.deployed address := rfl
    rw [method, Method.mark_on, same]
    rfl

end

theorem left_eq_after (operations : List Operation) : left operations = after operations := by
  have step : ∀ (registry : Registry) (operation : Operation),
      (operation.method.on registry).2 = registry.apply operation := by
    intro registry operation
    rw [operation.method_on, apply]
    cases operation.perform registry <;> rfl
  rw [left, after]
  congr 1
  funext registry operation
  exact step registry operation

end LedgerCapture.Registry
