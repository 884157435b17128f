import LedgerCapture.Proofs.Artifact.Store
import LedgerCapture.Proofs.Engine.Replay

/-!
Replays whose answers are settled beforehand: an artifact for each source, an address for each contract, a
message for each call. Whatever else happens, one deployment or one call leads from one planned state to
the next.
-/
namespace LedgerCapture

open Journal
open Config (DeploymentMode)

/-- What is to be answered to the replay of a block configuration: where the source of each contract is, what
compiling a source leaves, the address of each contract, and the message for each place in the list of calls. The
files of the artifacts are told with their directory, so all that follow one plan have a scope of one name. -/
structure Plan where
  block : BlockConfig
  place : ContractId → Place
  artifact : Place → Artifact
  address : ContractId → Ledger.Address
  message : Nat → Ledger.MessageHash
  distinct : (block.contracts.map (·.id)).Nodup
  declared : ∀ call ∈ block.calls, call.contract ∈ block.contracts.map (·.id)
  /-- Sources with one key are one source. -/
  apart : ∀ first ∈ block.contracts, ∀ second ∈ block.contracts,
    (place first.id).key = (place second.id).key → place first.id = place second.id

namespace Plan

variable (plan : Plan)

def ids : List ContractId :=
  plan.block.contracts.map (·.id)

def built (id : ContractId) : Artifact :=
  plan.artifact (plan.place id)

def request (call : Call) : CallRequest :=
  Submission.requestFor call (plan.address call.contract) (plan.built call.contract)

def sendings (calls : List Call) : List Event.Sending :=
  calls.mapIdx fun index call => (plan.request call, .ok (plan.message index))

def lastOf (calls : List Call) : Option LastCall :=
  calls.getLast?.map fun call => ⟨plan.message (calls.length - 1), call.contract, plan.address call.contract⟩

def deployedBy (mode : DeploymentMode) (calls : List Call) : List ContractId :=
  match mode with
  | .eager => plan.ids
  | .lazy => (calls.map (·.contract)).eraseDups

@[simp] theorem length_sendings (calls : List Call) : (plan.sendings calls).length = calls.length :=
  List.length_mapIdx

theorem sendings_concat (calls : List Call) (call : Call) : plan.sendings (calls ++ [call]) =
    plan.sendings calls ++ [(plan.request call, .ok (plan.message calls.length))] :=
  List.mapIdx_concat

theorem lastOf_concat (calls : List Call) (call : Call) : plan.lastOf (calls ++ [call]) =
    some ⟨plan.message calls.length, call.contract, plan.address call.contract⟩ := by
  simp [lastOf]

theorem deployedBy_concat (mode : DeploymentMode) (calls : List Call) {call : Call}
    (declared : call.contract ∈ plan.ids) : plan.deployedBy mode (calls ++ [call]) =
      if call.contract ∈ plan.deployedBy mode calls then plan.deployedBy mode calls
      else plan.deployedBy mode calls ++ [call.contract] := by
  cases mode with
  | eager => exact (if_pos declared).symm
  | «lazy» =>
    rw [deployedBy, deployedBy, List.map_append, List.map_singleton, eraseDups_concat]
    simp only [List.mem_eraseDups]

theorem mem_ids_of_deployedBy {mode : DeploymentMode} {id : ContractId}
    (member : id ∈ plan.deployedBy mode plan.block.calls) : id ∈ plan.ids := by
  cases mode with
  | eager => exact member
  | «lazy» =>
    obtain ⟨call, called, rfl⟩ := List.mem_map.mp (List.mem_eraseDups.mp member)
    exact plan.declared call called

theorem deployedBy_mono (mode : DeploymentMode) {front calls : List Call} (within : front <+: calls) :
    plan.deployedBy mode front <+: plan.deployedBy mode calls := by
  obtain ⟨rest, rfl⟩ := within
  cases mode with
  | eager => exact List.prefix_rfl
  | «lazy» =>
    rw [deployedBy, deployedBy, List.map_append, List.eraseDups_append]
    exact List.prefix_append ..

end Plan

structure Performance where
  engine : Engine
  request : CaptureRequest
  scope : Scope
  outside : Outside
  world : World

namespace Performance

def store (performance : Performance) : ArtifactStore :=
  .empty performance.engine.compiler performance.scope

def run (performance : Performance) (registry : Registry) :
    Except EngineError (Option LastCall) × Session × World :=
  performance.engine.replay performance.request ⟨registry, performance.store⟩ performance.outside performance.world

/-- Compiling the source at a place leaves an artifact where nothing was before. -/
structure Yields (performance : Performance) (place : Place) (artifact : Artifact) (now final : World) : Prop where
  vacant : now.files.isPresent (performance.store.directory place.key) = .ok false
  compiles : performance.engine.compiler.compile place.path (performance.store.directory place.key)
    performance.outside now = (.ok (), final)
  leaves : ∃ names, final.files.list (performance.store.directory place.key) = .ok names ∧
    Artifact.collect place.path (performance.store.directory place.key) names = .ok artifact

/-- Everything answers as planned, in whatever order it is asked. The files are in a state of the family `fit`,
which goes by the keys that have been compiled. -/
structure Follows (performance : Performance) (plan : Plan) (fit : List String → Files → Prop) : Prop where
  block : performance.request.block = plan.block
  starts : fit [] performance.world.files
  found : ∀ keys files, fit keys files → ∀ contract ∈ plan.block.contracts,
    files.canonical contract.path = .ok (plan.place contract.id)
  compiles : ∀ keys now, fit keys now.files → ∀ contract ∈ plan.block.contracts,
    (plan.place contract.id).key ∉ keys →
    ∃ final, performance.Yields (plan.place contract.id) (plan.built contract.id) now final ∧
      fit ((plan.place contract.id).key :: keys) final.files
  /-- An address belongs to a contract, so the deployments are answered in the order in which the mode comes to
  the contracts. That the replay asks in this order is not assumed. -/
  deploys : ∀ keys now steps, fit keys now.files → performance.world.Leads steps now → ∀ id salt,
    performance.request.deployOrder[(deployments steps).length]? = some id →
    ∃ final, performance.engine.gateway.wallet.perform
        (.deploy ⟨(plan.built id).bytecode, (plan.built id).interface, salt⟩) performance.outside now =
        (.ok (plan.address id), final) ∧
      fit keys final.files
  sends : ∀ keys now steps, fit keys now.files → performance.world.Leads steps now → ∀ call,
    plan.block.calls[(sendings steps).length]? = some call →
    ∃ final, performance.engine.gateway.wallet.perform (.send (plan.request call)) performance.outside now =
        (.ok (plan.message (sendings steps).length), final) ∧
      fit keys final.files

structure Supplied (performance : Performance) (plan : Plan) (fit : List String → Files → Prop)
    (store : ArtifactStore) (files : Files) : Prop where
  grows : performance.store.Grows store
  stock : ∀ contract ∈ plan.block.contracts, ∀ artifact,
    store.cached.lookup (plan.place contract.id).key = some artifact → artifact = plan.built contract.id
  fit : fit (store.cached.map Prod.fst) files

/-- The state when the contracts `done` have been deployed and `sent` has been sent, as planned. -/
structure Reached (performance : Performance) (plan : Plan) (fit : List String → Files → Prop)
    (done : List ContractId) (sent : List Event.Sending) (session : Session) (now : World) : Prop where
  sound : session.registry.Sound
  ids : session.registry.ids = plan.ids
  standing : ∀ id ∈ done, session.registry.deployed id = .ok (plan.address id, plan.built id)
  waiting : ∀ contract ∈ plan.block.contracts, contract.id ∉ done →
    session.registry.get contract.id = .ok (.ofContract contract)
  supplied : performance.Supplied plan fit session.store now.files
  leads : ∃ steps, performance.world.Leads steps now ∧ (deployments steps).length = done.length ∧
    sendings steps = sent

variable {performance : Performance} {plan : Plan} {fit : List String → Files → Prop} {done : List ContractId}
  {sent : List Event.Sending} {session : Session} {now : World}

theorem Reached.deployed_iff (reached : performance.Reached plan fit done sent session now)
    (id : ContractId) :
    (∃ found, session.registry.deployed id = .ok found) ↔ id ∈ done := by
  constructor
  · rintro ⟨found, deployed⟩
    obtain ⟨entry, present, progress⟩ := Registry.deployed_eq_ok_iff.mp deployed
    have listed := (Registry.exists_get_iff reached.sound).mp ⟨entry, present⟩
    rw [reached.ids] at listed
    obtain ⟨contract, member, rfl⟩ := List.mem_map.mp listed
    by_contra absent
    cases present.symm.trans (reached.waiting contract member absent)
    cases progress
  · intro member
    exact ⟨_, reached.standing id member⟩

/-- One more contract has been deployed as planned. -/
theorem Reached.deployed {id : ContractId} {after : Session} {final : World}
    (reached : performance.Reached plan fit done sent session now)
    (outcome : Deployment.Outcome performance.engine.gateway id session performance.outside now
      (.ok (plan.address id)) after final)
    (deployed : after.registry.deployed id = .ok (plan.address id, plan.built id))
    (supplied : performance.Supplied plan fit after.store final.files) :
    performance.Reached plan fit (done ++ [id]) sent after final := by
  have lasts := outcome.extends_registry reached.sound
  refine ⟨lasts.sound reached.sound, lasts.ids.trans reached.ids, ?_, ?_, supplied, ?_⟩
  · intro other member
    rcases List.mem_append.mp member with earlier | last
    · exact lasts.deployed _ _ (reached.standing other earlier)
    · rw [List.mem_singleton.mp last]
      exact deployed
  · intro other member absent
    simp only [List.mem_append, List.mem_singleton, not_or] at absent
    exact (outcome.get_other reached.sound absent.2).trans (reached.waiting other member absent.1)
  · obtain ⟨steps, leads, count, sendingsEq⟩ := reached.leads
    obtain ⟨more, ids, issuing⟩ := outcome.issuing reached.sound
    obtain ⟨rfl, -⟩ := issuing.finished _ rfl
    have one := issuing.issued.noted.length_eq
    refine ⟨steps ++ more, leads.trans issuing.leads, ?_, ?_⟩
    · rw [deployments_append, List.length_append, List.length_append, count, one]
    · rw [sendings_append, sendingsEq, issuing.sendings_eq, List.append_nil]

namespace Follows

theorem begins {registry : Registry} (follows : performance.Follows plan fit)
    (fresh : registry.Fresh plan.block.contracts) :
    performance.Reached plan fit [] [] ⟨registry, performance.store⟩ performance.world where
  sound := fresh.sound
  ids := fresh.ids_eq
  standing _ member := absurd member List.not_mem_nil
  waiting contract member _ := by
    refine (Registry.get_eq_ok_iff fresh.sound).mpr ⟨?_, rfl⟩
    rw [fresh.entries]
    exact List.mem_map_of_mem member
  supplied := ⟨.refl _, fun _ _ _ found => (nomatch found), follows.starts⟩
  leads := ⟨[], .refl _, rfl, rfl⟩

theorem deployOrder_eq (follows : performance.Follows plan fit) :
    performance.request.deployOrder = plan.deployedBy performance.request.mode plan.block.calls := by
  rw [CaptureRequest.deployOrder, follows.block]
  rfl

theorem exists_contract {id : ContractId} (follows : performance.Follows plan fit)
    (ordered : id ∈ performance.request.deployOrder) : ∃ contract ∈ plan.block.contracts, contract.id = id := by
  rw [follows.deployOrder_eq] at ordered
  exact List.mem_map.mp (plan.mem_ids_of_deployedBy ordered)

/-! ### One step -/

/-- The artifact of a contract is there or can be made. -/
theorem supply {store : ArtifactStore} {contract : Contract} (follows : performance.Follows plan fit)
    (supplied : performance.Supplied plan fit store now.files) (listed : contract ∈ plan.block.contracts) :
    ∃ after final, store.compile contract.path performance.outside now =
        (.ok (plan.built contract.id, after), final) ∧
      performance.Supplied plan fit after final.files := by
  have resolved := follows.found _ _ supplied.fit contract listed
  have directory := supplied.grows.directory (plan.place contract.id).key
  cases cached : store.cached.lookup (plan.place contract.id).key with
  | some artifact =>
    obtain rfl := supplied.stock contract listed artifact cached
    exact ⟨store, now, ArtifactStore.compile_of_lookup performance.outside resolved cached, supplied⟩
  | none =>
    have new : (plan.place contract.id).key ∉ store.cached.map Prod.fst := by
      intro met
      obtain ⟨entry, member, same⟩ := List.mem_map.mp met
      have different := List.lookup_eq_none_iff.mp cached entry member
      simp [same] at different
    obtain ⟨between, ⟨vacant, compiled, names, listing, collected⟩, fitAfter⟩ :=
      follows.compiles _ now supplied.fit contract listed new
    rw [← directory] at vacant compiled listing collected
    have compiler : store.compiler = performance.engine.compiler := supplied.grows.compiler
    rw [← compiler] at compiled
    have made := ArtifactStore.compile_of_collected ⟨resolved, cached, vacant⟩ (Compiler.build_of compiled) listing
      collected
    refine ⟨_, _, made, supplied.grows.trans (ArtifactStore.add_grows cached), ?_, fitAfter⟩
    intro other member artifact found
    by_cases same : (plan.place other.id).key = (plan.place contract.id).key
    · rw [same, ArtifactStore.lookup_add] at found
      rw [← Option.some.inj found, Plan.built, Plan.built, plan.apart other member contract listed same]
    · rw [ArtifactStore.add, List.lookup_cons, beq_false_of_ne same] at found
      exact supplied.stock other member artifact found

/-- The next contract in the order is deployed. -/
theorem deploy {id : ContractId} (follows : performance.Follows plan fit)
    (reached : performance.Reached plan fit done sent session now)
    (next : performance.request.deployOrder[done.length]? = some id) (fresh : id ∉ done) :
    ∃ after final, Deployment.deploy performance.engine.gateway id session performance.outside now =
        (.ok (plan.address id), after, final) ∧
      performance.Reached plan fit (done ++ [id]) sent after final := by
  obtain ⟨contract, listed, rfl⟩ := follows.exists_contract (List.mem_of_getElem? next)
  have found := reached.waiting contract listed fresh
  obtain ⟨store, between, made, supplied⟩ := follows.supply reached.supplied listed
  obtain ⟨steps, leads, count, -⟩ := reached.leads
  obtain ⟨compiling, compiled, only⟩ := World.Leads.exists_of_adds ((session.store.compile_adds _).of_ran made)
  let asking := between.record (.salt (performance.outside.salt between.journal))
  have drawn : between.Leads [.salt (performance.outside.salt between.journal)] asking := .record between rfl
  have asked : (deployments (steps ++ compiling ++ [.salt (performance.outside.salt between.journal)])).length =
      done.length := by
    rw [deployments_append, deployments_append, (views_of_compiling only).1, List.append_nil]
    exact (congrArg List.length (List.append_nil _)).trans count
  obtain ⟨final, performed, fitAfter⟩ :=
    follows.deploys _ asking _ supplied.fit ((leads.trans compiled).trans drawn) contract.id _ (asked ▸ next)
  obtain ⟨registry, ran, outcome, deployed⟩ :=
    Deployment.deploy_of_answer reached.sound found made (Gateway.command_of performed)
  exact ⟨_, _, ran, reached.deployed outcome deployed ⟨supplied.grows, supplied.stock, fitAfter⟩⟩

/-- The contract of a call is deployed, or is the next one to be deployed on demand. -/
theorem ensure {id : ContractId} (follows : performance.Follows plan fit)
    (reached : performance.Reached plan fit done sent session now)
    (awaited : id ∈ done ∨ performance.request.mode = .lazy ∧ id ∉ done ∧
      performance.request.deployOrder[done.length]? = some id) :
    ∃ after final, Submission.ensureDeployed performance.engine.gateway performance.request.mode id session
        performance.outside now = (.ok (), after, final) ∧
      performance.Reached plan fit (if id ∈ done then done else done ++ [id]) sent after final := by
  rcases awaited with there | ⟨onDemand, absent, next⟩
  · rw [if_pos there]
    exact ⟨session, now, Submission.ensureDeployed_of_deployed _ _ _ _ (reached.standing id there), reached⟩
  · obtain ⟨after, final, ran, reachedAfter⟩ := follows.deploy reached next absent
    obtain ⟨contract, listed, rfl⟩ := follows.exists_contract (List.mem_of_getElem? next)
    have waiting : session.registry.Waiting contract.id := ⟨_, reached.waiting contract listed absent, nofun⟩
    rw [if_neg absent, Submission.ensureDeployed_of_waiting _ _ _ _ waiting, onDemand]
    exact ⟨after, final, Stage.discard_of_ok (Stage.mapError_of_ok ran), reachedAfter⟩

/-- The next call is sent. -/
theorem send {call : Call} (follows : performance.Follows plan fit)
    (reached : performance.Reached plan fit done sent session now)
    (next : plan.block.calls[sent.length]? = some call)
    (awaited : call.contract ∈ done ∨ performance.request.mode = .lazy ∧ call.contract ∉ done ∧
      performance.request.deployOrder[done.length]? = some call.contract) :
    ∃ after final, Submission.send performance.engine.gateway performance.request.mode sent.length call session
        performance.outside now =
        (.ok ⟨plan.message sent.length, call.contract, plan.address call.contract⟩, after, final) ∧
      performance.Reached plan fit (if call.contract ∈ done then done else done ++ [call.contract])
        (sent ++ [(plan.request call, .ok (plan.message sent.length))]) after final := by
  obtain ⟨after, between, ready, ensured⟩ := follows.ensure reached awaited
  have standing := ensured.standing call.contract (by split <;> simp_all)
  obtain ⟨steps, leads, count, rfl⟩ := ensured.leads
  obtain ⟨final, performed, fitAfter⟩ := follows.sends _ _ _ ensured.supplied.fit leads call next
  have answered := Gateway.command_of performed
  refine ⟨after, _, Submission.send_of_ready ready standing answered, ?_⟩
  refine { ensured with supplied := ⟨ensured.supplied.grows, ensured.supplied.stock, fitAfter⟩, leads := ?_ }
  refine ⟨_, leads.trans (Gateway.command_leads answered), ?_, ?_⟩
  · rw [deployments_append, ← count]
    exact congrArg _ (List.append_nil _)
  · exact sendings_append ..

end Follows

end Performance

end LedgerCapture
