import LedgerCapture.Proofs.Artifact.Store
import LedgerCapture.Proofs.Deployment
import LedgerCapture.Proofs.Registry.History
import LedgerCapture.Rehearsal.Compiler
import LedgerCapture.Rehearsal.Ledger
import LedgerCapture.Rehearsal.Outside

/-!
Deploying all contracts with one store. Contracts whose sources have one key share an artifact; each has a
deployment, a number and an address of its own. Where it stops, the contracts before are deployed and the
ones behind are as they were.
-/
namespace LedgerCapture.Deployment

open Journal

/-- A contract that was deployed: its entry before, the place of its source, what was sent, and what was
answered. -/
structure Dispatch where
  entry : Registry.Entry
  place : Place
  artifact : Artifact
  salt : UInt64
  address : Ledger.Address

namespace Dispatch

def id (dispatch : Dispatch) : ContractId :=
  dispatch.entry.id

def key (dispatch : Dispatch) : String :=
  dispatch.place.key

def deployed (dispatch : Dispatch) : Registry.Entry :=
  ⟨dispatch.entry.contract, ⟨.deployed, some dispatch.artifact, some dispatch.address⟩⟩

def request (dispatch : Dispatch) : DeployRequest :=
  ⟨dispatch.artifact.bytecode, dispatch.artifact.interface, dispatch.salt⟩

def exchange (dispatch : Dispatch) : Event.Deployment :=
  (dispatch.request, .ok dispatch.address)

end Dispatch

/-! ### The store on the way -/

/-- The artifact consists of two files of this directory, one of each kind. -/
def LeftIn (output : String) (artifact : Artifact) : Prop :=
  ∃ bytecode interface, Artifact.isBytecodeName bytecode ∧ Artifact.isInterfaceName interface ∧
    artifact = ⟨artifact.source, Path.join output bytecode, Path.join output interface⟩

/-- What an empty store has got after some deployments: one artifact for each key, in the order in which
the keys were met. -/
structure Stocked (store : ArtifactStore) (dispatched : List Dispatch) (after : ArtifactStore) : Prop where
  grows : store.Grows after
  keys : after.cached.reverse.map Prod.fst = (dispatched.map Dispatch.key).eraseDups
  held : ∀ dispatch ∈ dispatched, after.cached.lookup dispatch.key = some dispatch.artifact
  left : ∀ entry ∈ after.cached, Artifact.keyOfText entry.2.source = entry.1 ∧
    LeftIn (store.directory entry.1) entry.2

namespace Stocked

variable {store between after : ArtifactStore} {dispatched : List Dispatch} {dispatch : Dispatch} {key : String}

theorem refl (empty : store.cached = []) : Stocked store [] store where
  grows := .refl store
  keys := by rw [empty]; rfl
  held _ member := absurd member List.not_mem_nil
  left entry member := by
    rw [empty] at member
    cases member

theorem mem_keys_iff (stocked : Stocked store dispatched after) :
    key ∈ dispatched.map Dispatch.key ↔ after.cached.lookup key ≠ none := by
  rw [← List.mem_eraseDups, ← stocked.keys, List.map_reverse, List.mem_reverse, List.mem_map, ne_eq,
    List.lookup_eq_none_iff]
  constructor
  · rintro ⟨entry, member, rfl⟩ none
    simpa using none entry member
  · intro present
    by_contra absent
    refine present fun entry member => ?_
    have different : key ≠ entry.1 := fun same => absent ⟨entry, member, same.symm⟩
    simpa using different

/-- A contract whose key was met before gets the same artifact. -/
theorem concat_known (stocked : Stocked store dispatched after)
    (found : after.cached.lookup dispatch.key = some dispatch.artifact) :
    Stocked store (dispatched ++ [dispatch]) after where
  grows := stocked.grows
  keys := by
    have met : dispatch.key ∈ dispatched.map Dispatch.key := stocked.mem_keys_iff.mpr (by simp [found])
    rw [List.map_append, List.map_singleton, eraseDups_concat, if_pos met]
    exact stocked.keys
  held other member := by
    rcases List.mem_append.mp member with earlier | last
    · exact stocked.held other earlier
    · rw [List.mem_singleton.mp last]
      exact found
  left := stocked.left

theorem concat_compiled (stocked : Stocked store dispatched between)
    (missing : between.cached.lookup dispatch.key = none)
    (source : dispatch.artifact.source = dispatch.place.path)
    (left : LeftIn (store.directory dispatch.key) dispatch.artifact) :
    Stocked store (dispatched ++ [dispatch]) (between.add dispatch.key dispatch.artifact) where
  grows := stocked.grows.trans (ArtifactStore.add_grows missing)
  keys := by
    have new : dispatch.key ∉ dispatched.map Dispatch.key := fun met => stocked.mem_keys_iff.mp met missing
    rw [List.map_append, List.map_singleton, eraseDups_concat, if_neg new, ← stocked.keys]
    simp [ArtifactStore.add]
  held other member := by
    rcases List.mem_append.mp member with earlier | last
    · exact (ArtifactStore.add_grows missing).lookup _ _ (stocked.held other earlier)
    · rw [List.mem_singleton.mp last]
      exact ArtifactStore.lookup_add ..
  left entry member := by
    rcases List.mem_cons.mp member with rfl | earlier
    · exact ⟨by rw [source]; rfl, left⟩
    · exact stocked.left entry earlier

end Stocked

/-! ### Deployments that go well -/

def compilationOf (store : ArtifactStore) (entry : String × Artifact) : String × String × Except String Unit :=
  (entry.2.source, store.directory entry.1, .ok ())

/-- What deploying the contracts `order` has come to, if all went well. -/
structure Course (gateway : Gateway) (outside : Outside) (session : Session) (world : World)
    (order : List ContractId) (dispatched : List Dispatch) (after : Session) (final : World) : Prop where
  ids_eq : dispatched.map Dispatch.id = order
  ran : deployEach gateway order session outside world = (.ok (), after, final)
  lasts : session.registry.Extends after.registry
  found : ∀ dispatch ∈ dispatched, session.registry.get dispatch.id = .ok dispatch.entry
  deployed : ∀ dispatch ∈ dispatched, after.registry.get dispatch.id = .ok dispatch.deployed
  untouched : ∀ id ∉ order, after.registry.get id = session.registry.get id
  stocked : Stocked session.store dispatched after.store
  leads : ∃ steps, world.Leads steps final ∧ deployments steps = dispatched.map Dispatch.exchange ∧
    salts steps = dispatched.map Dispatch.salt ∧
    compilations steps = after.store.cached.reverse.map (compilationOf session.store)
  /-- Each source was looked for when the contracts before it had been deployed. -/
  resolved : ∀ past dispatch rest, dispatched = past ++ dispatch :: rest → ∃ before between,
    deployEach gateway (past.map Dispatch.id) session outside world = (.ok (), before, between) ∧
      between.files.canonical dispatch.entry.contract.path = .ok dispatch.place

theorem deployEach_concat (gateway : Gateway) (order : List ContractId) (id : ContractId) :
    deployEach gateway (order ++ [id]) = deployEach gateway order >>= fun _ => discard (deploy gateway id) := by
  induction order with
  | nil =>
    rw [List.nil_append, deployEach, deployEach, pure_bind]
    exact bind_pure_unit
  | cons first rest ih =>
    rw [List.cons_append, deployEach, deployEach, ih, bind_assoc]

structure Step (session : Session) (outside : Outside) (world : World) (dispatch : Dispatch) (after : Session)
    (final : World) : Prop where
  found : session.registry.get dispatch.id = .ok dispatch.entry
  resolved : world.files.canonical dispatch.entry.contract.path = .ok dispatch.place
  obtained : ∃ between, ArtifactStore.Outcome session.store dispatch.entry.contract.path outside world
    (.ok (dispatch.artifact, after.store)) between ∧
    between.Leads [.salt dispatch.salt, .wallet (.deploy dispatch.request) (.ok dispatch.address)] final
  lasts : session.registry.Extends after.registry
  deployed : after.registry.get dispatch.id = .ok dispatch.deployed
  untouched : ∀ other, other ≠ dispatch.id → after.registry.get other = session.registry.get other

variable {gateway : Gateway} {outside : Outside} {session between after : Session} {world middle final : World}
  {order : List ContractId} {dispatched : List Dispatch} {dispatch : Dispatch}

/-- A deployment compiles what the store does not have, and nothing else. -/
theorem Step.stocked {store : ArtifactStore} (step : Step session outside world dispatch after final)
    (stocked : Stocked store dispatched session.store) :
    Stocked store (dispatched ++ [dispatch]) after.store ∧ ∃ steps added, world.Leads steps final ∧
      after.store.cached = added ++ session.store.cached ∧ deployments steps = [dispatch.exchange] ∧
      salts steps = [dispatch.salt] ∧ compilations steps = added.reverse.map (compilationOf store) := by
  obtain ⟨between, outcome, sent⟩ := step.obtained
  have resolved := step.resolved
  generalize after.store = stock at outcome ⊢
  cases outcome with
  | known again found =>
    rw [resolved] at again
    cases again
    exact ⟨stocked.concat_known found, _, [], sent, rfl, rfl, rfl, rfl⟩
  | @compiled place names artifact between starts built listed collected =>
    have again := starts.resolved
    rw [resolved] at again
    cases again
    obtain ⟨bytecode, interface, -, isBytecode, isInterface, made⟩ := Artifact.collect_eq_ok_iff.mp collected
    have source : dispatch.artifact.source = dispatch.place.path := by rw [made]
    have directory := stocked.grows.directory dispatch.key
    have left : LeftIn (store.directory dispatch.key) dispatch.artifact := by
      refine ⟨bytecode, interface, isBytecode, isInterface, ?_⟩
      rw [source, ← directory]
      exact made
    refine ⟨stocked.concat_compiled starts.missing source left, _, [(dispatch.key, dispatch.artifact)],
      built.leads.trans sent, rfl, rfl, rfl, ?_⟩
    show [(dispatch.place.path, session.store.directory dispatch.key, _)] =
      [(dispatch.artifact.source, store.directory dispatch.key, _)]
    rw [source, directory]

namespace Course

theorem nil (gateway : Gateway) (outside : Outside) (session : Session) (world : World)
    (empty : session.store.cached = []) : Course gateway outside session world [] [] session world where
  ids_eq := rfl
  ran := rfl
  lasts := .refl _
  found _ member := absurd member List.not_mem_nil
  deployed _ member := absurd member List.not_mem_nil
  untouched _ _ := rfl
  stocked := .refl empty
  leads := ⟨[], .refl world, rfl, rfl, by rw [empty]; rfl⟩
  resolved past _ _ same := by cases past <;> cases same

theorem concat (course : Course gateway outside session world order dispatched between middle)
    (step : Step between outside middle dispatch after final) (fresh : dispatch.id ∉ order)
    (ran : deploy gateway dispatch.id between outside middle = (.ok dispatch.address, after, final)) :
    Course gateway outside session world (order ++ [dispatch.id]) (dispatched ++ [dispatch]) after final := by
  have elsewhere : ∀ other ∈ dispatched, other.id ≠ dispatch.id := by
    intro other member same
    rw [← course.ids_eq, ← same] at fresh
    exact fresh (List.mem_map_of_mem member)
  have ranWhole : deployEach gateway (order ++ [dispatch.id]) session outside world = (.ok (), after, final) := by
    rw [deployEach_concat, Stage.bind_of_ok course.ran]
    exact Stage.discard_of_ok ran
  obtain ⟨stocked, steps, added, leads, cached, made, drawn, compiled⟩ := step.stocked course.stocked
  refine ⟨?_, ranWhole, course.lasts.trans step.lasts, ?_, ?_, ?_, stocked, ?_, ?_⟩
  · rw [List.map_append, course.ids_eq]
    rfl
  · intro other member
    rcases List.mem_append.mp member with earlier | last
    · exact course.found other earlier
    · rw [List.mem_singleton.mp last, ← course.untouched _ fresh]
      exact step.found
  · intro other member
    rcases List.mem_append.mp member with earlier | last
    · rw [step.untouched _ (elsewhere other earlier)]
      exact course.deployed other earlier
    · rw [List.mem_singleton.mp last]
      exact step.deployed
  · intro other outsideOrder
    simp only [List.mem_append, List.mem_singleton, not_or] at outsideOrder
    rw [step.untouched other outsideOrder.2, course.untouched other outsideOrder.1]
  · obtain ⟨stepsBefore, leadsBefore, madeBefore, drawnBefore, compiledBefore⟩ := course.leads
    refine ⟨_, leadsBefore.trans leads, ?_, ?_, ?_⟩
    · rw [deployments_append, madeBefore, made, List.map_append]
      rfl
    · rw [salts_append, drawnBefore, drawn, List.map_append]
      rfl
    · rw [compilations_append, compiledBefore, compiled, cached, List.reverse_append, List.map_append]
  · intro past other rest same
    rcases List.eq_nil_or_concat rest with rfl | ⟨front, last, rfl⟩
    · obtain ⟨rfl, one⟩ := List.append_inj' same rfl
      cases one
      rw [course.ids_eq]
      exact ⟨between, middle, course.ran, step.resolved⟩
    · rw [List.concat_eq_append, ← List.cons_append, ← List.append_assoc] at same
      exact course.resolved past other front (List.append_inj' same rfl).1

end Course

/-! ### Deployments that stop -/

/-- Deploying the contracts `order` has stopped at the contract `id`. -/
structure Stopped (gateway : Gateway) (outside : Outside) (session : Session) (world : World)
    (order : List ContractId) (dispatched : List Dispatch) (id : ContractId) (entry : Registry.Entry)
    (fault : DeploymentError) (after : Session) (final : World) : Prop where
  order_eq : ∃ rest, order = dispatched.map Dispatch.id ++ id :: rest
  deployed : ∀ dispatch ∈ dispatched, session.registry.get dispatch.id = .ok dispatch.entry ∧
    after.registry.get dispatch.id = .ok dispatch.deployed
  found : session.registry.get id = .ok entry
  /-- Either the store has no artifact for its source once those before are deployed, or the ledger has refused. -/
  last : (∃ cause middle, fault = .artifact cause ∧
      deployEach gateway (dispatched.map Dispatch.id) session outside world = (.ok (), after, middle) ∧
      after.store.compile entry.contract.path outside middle = (.error cause, final) ∧
      after.registry.get id = .ok entry ∧
      deployments (world.since final) = dispatched.map Dispatch.exchange) ∨
    ∃ cause request artifact, fault = .gateway id cause ∧
      after.registry.get id = .ok ⟨entry.contract, ⟨.compiled, some artifact, none⟩⟩ ∧
      request.bytecode = artifact.bytecode ∧ request.interface = artifact.interface ∧
      deployments (world.since final) = dispatched.map Dispatch.exchange ++ [(request, .error cause)]
  untouched : ∀ other ∉ dispatched.map Dispatch.id, other ≠ id →
    after.registry.get other = session.registry.get other

theorem Stopped.append {id : ContractId} {entry : Registry.Entry} {fault : DeploymentError}
    (stopped : Stopped gateway outside session world order dispatched id entry fault after final)
    (more : List ContractId) :
    Stopped gateway outside session world (order ++ more) dispatched id entry fault after final := by
  obtain ⟨rest, same⟩ := stopped.order_eq
  refine { stopped with order_eq := ⟨rest ++ more, ?_⟩ }
  rw [same, List.append_assoc, List.cons_append]

/-- What an entry without an artifact has got once it is prepared. -/
theorem Prepared.exists_outcome {entry : Registry.Entry} {artifact : Artifact} {prepared : Session}
    {between : World} (sound : session.registry.Sound) (found : session.registry.get entry.id = .ok entry)
    (first : entry.progress.phase = .registered)
    (ready : Prepared session outside world entry artifact prepared between) :
    ArtifactStore.Outcome session.store entry.contract.path outside world (.ok (artifact, prepared.store)) between ∧
      prepared.registry.get entry.id = .ok ⟨entry.contract, ⟨.compiled, some artifact, none⟩⟩ := by
  have consistent := sound.consistent entry ((Registry.get_eq_ok_iff sound).mp found).1
  have noArtifact : entry.progress.artifact? = none := by
    have known := consistent.artifact
    simpa [first] using known
  have noAddress : entry.progress.address? = none := by
    have known := consistent.address
    simpa [first] using known
  cases ready with
  | known noted => exact nomatch noArtifact.symm.trans noted
  | compiled missing made noted =>
    obtain ⟨result, final, ran, outcome⟩ := session.store.compile_outcome entry.contract.path outside world
    rw [made] at ran
    cases ran
    obtain ⟨before, foundBefore, foundAfter⟩ := Registry.get_of_markCompiled sound noted
    rw [found] at foundBefore
    cases foundBefore
    rw [noAddress] at foundAfter
    exact ⟨outcome, foundAfter⟩

/-- What deploying a contract without an artifact can come to. -/
theorem deploy_of_registered (gateway : Gateway) (outside : Outside) (world : World) {id : ContractId}
    {entry : Registry.Entry} (sound : session.registry.Sound) (found : session.registry.get id = .ok entry)
    (first : entry.progress.phase = .registered) :
    (∃ dispatch after final, dispatch.entry = entry ∧
      deploy gateway id session outside world = (.ok dispatch.address, after, final) ∧
      Step session outside world dispatch after final) ∨
    (∃ cause final steps, deploy gateway id session outside world = (.error (.artifact cause), session, final) ∧
      session.store.compile entry.contract.path outside world = (.error cause, final) ∧
      world.Leads steps final ∧ deployments steps = []) ∨
    ∃ cause request artifact after final steps,
      deploy gateway id session outside world = (.error (.gateway id cause), after, final) ∧
      after.registry.get id = .ok ⟨entry.contract, ⟨.compiled, some artifact, none⟩⟩ ∧
      (∀ other, other ≠ id → after.registry.get other = session.registry.get other) ∧
      request.bytecode = artifact.bytecode ∧ request.interface = artifact.interface ∧
      world.Leads steps final ∧ deployments steps = [(request, .error cause)] := by
  obtain rfl := ((Registry.get_eq_ok_iff sound).mp found).2
  obtain ⟨result, after, final, ran, outcome⟩ := deploy_outcome gateway entry.id outside world sound
  have whole := outcome
  cases outcome with
  | unknown missing => exact nomatch found.symm.trans missing
  | already again deployed =>
    cases found.symm.trans again
    exact nomatch first.symm.trans deployed
  | @uncompiled entry' fault final again undeployed missing failed =>
    cases found.symm.trans again
    obtain ⟨steps, leads, compiling⟩ := World.Leads.exists_of_adds ((session.store.compile_adds _).of_ran failed)
    exact .inr (.inl ⟨fault, final, steps, ran, failed, leads, (views_of_compiling compiling).1⟩)
  | refused again undeployed ready answered =>
    cases found.symm.trans again
    obtain ⟨-, noted⟩ := ready.exists_outcome sound found first
    obtain ⟨steps, leads, -, -, made⟩ := Outcome.leads_of_answer ready answered
    exact .inr (.inr ⟨_, _, _, _, _, steps, ran, noted, fun other different => whole.get_other sound different,
      rfl, rfl, leads, made⟩)
  | @deployed entry' artifact prepared between final address registry again undeployed ready answered noted =>
    cases found.symm.trans again
    obtain ⟨obtained, prepares⟩ := ready.exists_outcome sound found first
    obtain ⟨before, foundBefore, foundAfter⟩ :=
      Registry.get_of_markDeployed ((ready.extends_registry sound).sound sound) noted
    cases prepares.symm.trans foundBefore
    obtain ⟨place, resolved⟩ := obtained.exists_resolved
    have sent := (World.Leads.record between rfl).trans (Gateway.command_leads answered)
    exact .inl ⟨⟨entry, place, artifact, outside.salt between.journal, address⟩, _, _, rfl, ran, found, resolved,
      ⟨between, obtained, sent⟩, whole.extends_registry sound, foundAfter,
      fun other different => whole.get_other sound different⟩

namespace Course

variable {id : ContractId} {entry : Registry.Entry} {steps : Journal}

theorem deployEach_of_error {fault : DeploymentError}
    (course : Course gateway outside session world order dispatched between middle)
    (ran : deploy gateway id between outside middle = (.error fault, after, final)) :
    deployEach gateway (order ++ [id]) session outside world = (.error fault, after, final) := by
  rw [deployEach_concat, Stage.bind_of_ok course.ran]
  exact Stage.discard_of_error ran

theorem stopped_of_uncompiled {cause : ArtifactError}
    (course : Course gateway outside session world order dispatched between middle)
    (found : session.registry.get id = .ok entry) (fresh : id ∉ order)
    (failed : between.store.compile entry.contract.path outside middle = (.error cause, final))
    (leads : middle.Leads steps final) (nothing : deployments steps = []) :
    Stopped gateway outside session world (order ++ [id]) dispatched id entry (.artifact cause) between final := by
  obtain ⟨stepsBefore, leadsBefore, madeBefore, -⟩ := course.leads
  refine ⟨⟨[], by rw [course.ids_eq]⟩, fun dispatch member => ⟨course.found _ member, course.deployed _ member⟩,
    found, .inl ⟨cause, middle, rfl, course.ids_eq ▸ course.ran, failed, (course.untouched id fresh).trans found, ?_⟩,
    fun other elsewhere _ => ?_⟩
  · rw [(leadsBefore.trans leads).deployments_since, deployments_append, madeBefore, nothing, List.append_nil]
  · exact course.untouched other (course.ids_eq ▸ elsewhere)

/-- Where the ledger refuses, only the contract itself is touched. -/
theorem stopped_of_refused {cause : GatewayError} {request : DeployRequest} {artifact : Artifact}
    (course : Course gateway outside session world order dispatched between middle)
    (found : session.registry.get id = .ok entry) (fresh : id ∉ order)
    (noted : after.registry.get id = .ok ⟨entry.contract, ⟨.compiled, some artifact, none⟩⟩)
    (untouched : ∀ other, other ≠ id → after.registry.get other = between.registry.get other)
    (bytecode : request.bytecode = artifact.bytecode) (interface : request.interface = artifact.interface)
    (leads : middle.Leads steps final) (asked : deployments steps = [(request, .error cause)]) :
    Stopped gateway outside session world (order ++ [id]) dispatched id entry (.gateway id cause) after final := by
  obtain ⟨stepsBefore, leadsBefore, madeBefore, -⟩ := course.leads
  refine ⟨⟨[], by rw [course.ids_eq]⟩, fun dispatch member => ⟨course.found _ member, ?_⟩, found,
    .inr ⟨cause, request, artifact, rfl, noted, bytecode, interface, ?_⟩, fun other elsewhere different => ?_⟩
  · have different : dispatch.id ≠ id := by
      rintro rfl
      rw [← course.ids_eq] at fresh
      exact fresh (List.mem_map_of_mem member)
    rw [untouched _ different]
    exact course.deployed _ member
  · rw [(leadsBefore.trans leads).deployments_since, deployments_append, madeBefore, asked]
  · rw [untouched other different, course.untouched other (course.ids_eq ▸ elsewhere)]

end Course

/-- Contracts without an artifact are deployed one after the other until one cannot be. -/
theorem deployEach_course (gateway : Gateway) (outside : Outside) (session : Session) (world : World)
    (order : List ContractId) (sound : session.registry.Sound) (empty : session.store.cached = [])
    (distinct : order.Nodup)
    (waiting : ∀ id ∈ order,
      ∃ entry, session.registry.get id = .ok entry ∧ entry.progress.phase = .registered) :
    (∃ dispatched after final, Course gateway outside session world order dispatched after final) ∨
    ∃ dispatched id entry fault after final,
      deployEach gateway order session outside world = (.error fault, after, final) ∧
      Stopped gateway outside session world order dispatched id entry fault after final := by
  induction order using List.reverseRecOn with
  | nil => exact .inl ⟨[], session, world, .nil gateway outside session world empty⟩
  | append_singleton order id ih =>
    have distinctOrder := (List.nodup_append.mp distinct).1
    have fresh : id ∉ order := fun member => (List.nodup_append.mp distinct).2.2 id member id (by simp) rfl
    rcases ih distinctOrder fun other member => waiting other (List.mem_append_left _ member) with
      ⟨dispatched, between, middle, course⟩ | ⟨dispatched, other, entry, fault, after, final, ran, stopped⟩
    · obtain ⟨entry, foundAtFirst, first⟩ := waiting id (by simp)
      have found := (course.untouched id fresh).trans foundAtFirst
      have soundBetween := course.lasts.sound sound
      obtain rfl := ((Registry.get_eq_ok_iff soundBetween).mp found).2
      rcases deploy_of_registered gateway outside middle soundBetween found first with
        ⟨dispatch, after, final, rfl, ran, step⟩ | ⟨cause, final, steps, ran, failed, leads, nothing⟩ |
        ⟨cause, request, artifact, after, final, steps, ran, noted, untouched, bytecode, interface, leads, asked⟩
      · exact .inl ⟨_, after, final, course.concat step fresh ran⟩
      · exact .inr ⟨dispatched, entry.id, entry, _, between, final, course.deployEach_of_error ran,
          course.stopped_of_uncompiled foundAtFirst fresh failed leads nothing⟩
      · exact .inr ⟨dispatched, entry.id, entry, _, after, final, course.deployEach_of_error ran,
          course.stopped_of_refused foundAtFirst fresh noted untouched bytecode interface leads asked⟩
    · refine .inr ⟨dispatched, other, entry, fault, after, final, ?_, stopped.append [id]⟩
      rw [deployEach_concat]
      exact Stage.bind_of_error ran

/-! ### All contracts -/

/-- All contracts that waited are deployed, in their order: what was sent and drawn for each of them, what
was compiled, and what the registry has. -/
structure Finished (gateway : Gateway) (outside : Outside) (session : Session) (world : World)
    (dispatched : List Dispatch) (after : Session) (final : World) : Prop where
  order : dispatched.map Dispatch.id = session.registry.pending
  all : ∀ entry ∈ after.registry.entries, entry.progress.phase = .deployed
  deployed : ∀ dispatch ∈ dispatched, session.registry.get dispatch.id = .ok dispatch.entry ∧
    after.registry.get dispatch.id = .ok dispatch.deployed
  kept : ∀ id ∉ session.registry.pending, after.registry.get id = session.registry.get id
  sent : deployments (world.since final) = dispatched.map Dispatch.exchange
  drawn : salts (world.since final) = dispatched.map Dispatch.salt
  /-- Each key is compiled once, when it is met first. -/
  compiled : (compilations (world.since final)).map Prod.snd =
    (dispatched.map Dispatch.key).eraseDups.map fun key => (session.store.directory key, .ok ())
  /-- The artifact of a contract is what was left by the compilation for its key. -/
  sources : ∀ dispatch ∈ dispatched, Artifact.keyOfText dispatch.artifact.source = dispatch.key ∧
    (dispatch.artifact.source, session.store.directory dispatch.key, .ok ()) ∈ compilations (world.since final) ∧
    LeftIn (session.store.directory dispatch.key) dispatch.artifact
  resolved : ∀ past dispatch rest, dispatched = past ++ dispatch :: rest → ∃ before between,
    deployEach gateway (past.map Dispatch.id) session outside world = (.ok (), before, between) ∧
      between.files.canonical dispatch.entry.contract.path = .ok dispatch.place

structure Account (gateway : Gateway) (outside : Outside) (session : Session) (world : World) : Prop where
  finished : ∀ after final, deployAll gateway session outside world = (.ok (), after, final) →
    ∃ dispatched, Finished gateway outside session world dispatched after final
  stopped : ∀ fault after final, deployAll gateway session outside world = (.error fault, after, final) →
    ∃ dispatched id entry, entry.progress.phase = .registered ∧
      Stopped gateway outside session world session.registry.pending dispatched id entry fault after final

theorem Stocked.mem_cached {store : ArtifactStore} {stock : ArtifactStore}
    (stocked : Stocked store dispatched stock) (member : dispatch ∈ dispatched) :
    (dispatch.key, dispatch.artifact) ∈ stock.cached := by
  obtain ⟨before, more, same, -⟩ := List.lookup_eq_some_iff.mp (stocked.held dispatch member)
  rw [same]
  exact List.mem_append_right _ (List.mem_cons_self ..)

theorem Course.finished (sound : session.registry.Sound)
    (course : Course gateway outside session world session.registry.pending dispatched after final) :
    Finished gateway outside session world dispatched after final := by
  obtain ⟨steps, leads, made, drawn, compiled⟩ := course.leads
  have stocked := course.stocked
  refine ⟨course.ids_eq, fun entry member => ?_, fun dispatch member =>
    ⟨course.found dispatch member, course.deployed dispatch member⟩, course.untouched, ?_, ?_, ?_,
    fun dispatch member => ?_, course.resolved⟩
  · have found := (Registry.get_eq_ok_iff (course.lasts.sound sound)).mpr ⟨member, rfl⟩
    by_cases waits : entry.id ∈ session.registry.pending
    · rw [← course.ids_eq] at waits
      obtain ⟨dispatch, memberDispatched, same⟩ := List.mem_map.mp waits
      have deployed := course.deployed dispatch memberDispatched
      rw [same, found] at deployed
      cases deployed
      rfl
    · rw [course.untouched _ waits] at found
      by_contra undeployed
      exact waits ((Registry.mem_pending_iff sound).mpr ⟨entry, found, undeployed⟩)
  · rw [leads.deployments_since, made]
  · rw [leads.salts_since, drawn]
  · rw [leads.compilations_since, compiled, ← stocked.keys, List.map_map, List.map_map]
    rfl
  · have cached := stocked.mem_cached member
    obtain ⟨key, left⟩ := stocked.left _ cached
    refine ⟨key, ?_, left⟩
    rw [leads.compilations_since, compiled]
    exact List.mem_map.mpr ⟨_, List.mem_reverse.mpr cached, rfl⟩

/-- Whatever is answered, all contracts that wait are deployed in their order with one compilation for each
key, or the deployment stops at one of them and leaves the others as they are. -/
theorem deployAll_account (gateway : Gateway) (outside : Outside) (session : Session) (world : World)
    (reachable : session.registry.Reachable)
    (fresh : ∀ entry ∈ session.registry.entries, entry.progress.phase ≠ .deployed →
      entry.progress.artifact? = none)
    (empty : session.store.cached = []) : Account gateway outside session world := by
  have sound := reachable.sound
  have waiting : ∀ id ∈ session.registry.pending,
      ∃ entry, session.registry.get id = .ok entry ∧ entry.progress.phase = .registered := by
    intro id member
    obtain ⟨entry, found, undeployed⟩ := (Registry.mem_pending_iff sound).mp member
    have listed := ((Registry.get_eq_ok_iff sound).mp found).1
    have known := (sound.consistent entry listed).artifact
    rw [fresh entry listed undeployed] at known
    refine ⟨entry, found, ?_⟩
    cases phase : entry.progress.phase <;> simp_all
  have distinct := sound.distinct.sublist Registry.pending_sublist
  have whole : deployAll gateway session outside world =
      deployEach gateway session.registry.pending session outside world := rfl
  rcases deployEach_course gateway outside session world _ sound empty distinct waiting with
    ⟨dispatched, after, final, course⟩ | ⟨dispatched, id, entry, fault, after, final, ran, stopped⟩
  · have ran := whole.trans course.ran
    refine ⟨fun _ _ same => ?_, fun _ _ _ same => ?_⟩
    · cases ran.symm.trans same
      exact ⟨dispatched, course.finished sound⟩
    · cases ran.symm.trans same
  · have ranWhole := whole.trans ran
    refine ⟨fun _ _ same => ?_, fun _ _ _ same => ?_⟩
    · cases ranWhole.symm.trans same
    · cases ranWhole.symm.trans same
      obtain ⟨rest, order⟩ := stopped.order_eq
      obtain ⟨again, foundAgain, first⟩ := waiting id (by rw [order]; simp)
      cases stopped.found.symm.trans foundAgain
      exact ⟨dispatched, id, entry, first, stopped⟩

/-- Three contracts of two sources, of which one is deployed already. -/
theorem deployAll_account_of_shared_source :
    let artifact : Artifact := ⟨"/Token.sol", "/Token.bin", "/Token.abi"⟩
    let registry := Registry.after [.register ⟨⟨1⟩, "Token.sol"⟩, .register ⟨⟨2⟩, "Pool.sol"⟩,
      .register ⟨⟨3⟩, "/Token.sol"⟩, .markCompiled ⟨1⟩ artifact, .markDeployed ⟨1⟩ ⟨['a'], by decide, by decide⟩]
    let files : Files := ⟨[(["Token.sol"], .file .empty), (["Pool.sol"], .file .empty), (["scope"], .directory)], []⟩
    let session : Session := ⟨registry, .empty (Rehearsal.compiler []) ⟨"/scope", ["scope"]⟩⟩
    registry.Reachable ∧
      (∀ entry ∈ registry.entries, entry.progress.phase ≠ .deployed → entry.progress.artifact? = none) ∧
      registry.pending = [⟨2⟩, ⟨3⟩] ∧
      Account (Rehearsal.gateway []) (Rehearsal.outside files "/tmp" []) session ⟨files, []⟩ := by
  intro artifact registry files session
  have fresh : ∀ entry ∈ registry.entries, entry.progress.phase ≠ .deployed → entry.progress.artifact? = none := by
    decide
  exact ⟨⟨_, rfl⟩, fresh, by decide, deployAll_account _ _ session ⟨files, []⟩ ⟨_, rfl⟩ fresh rfl⟩

end LedgerCapture.Deployment
