import LedgerCapture.Proofs.Deployment.Course
import LedgerCapture.Proofs.Rehearsal.Ledger

/-!
Eager and lazy deployment. The order in which contracts are deployed differs, and so does what is deployed at
all; what is sent, and what comes of it, is the same as long as the answers are.
-/
namespace LedgerCapture

open Journal
open Config (DeploymentMode)

theorem getElem?_of_prefix_concat {α : Type} {items front : List α} {item : α}
    (within : front ++ [item] <+: items) : items[front.length]? = some item := by
  obtain ⟨rest, rfl⟩ := within
  simp

namespace Performance

variable {performance : Performance} {plan : Plan} {fit : List String → Files → Prop} {session : Session}
  {now : World}

namespace Follows

theorem deployEach (follows : performance.Follows plan fit)
    (reached : performance.Reached plan fit [] [] session now) (front : List ContractId)
    (within : front <+: performance.request.deployOrder) (distinct : front.Nodup) :
    ∃ after final, Deployment.deployEach performance.engine.gateway front session performance.outside now =
        (.ok (), after, final) ∧
      performance.Reached plan fit front [] after final := by
  induction front using List.reverseRecOn with
  | nil => exact ⟨session, now, rfl, reached⟩
  | append_singleton front id ih =>
    have apart := List.nodup_append.mp distinct
    have fresh : id ∉ front := fun member => apart.2.2 id member id (by simp) rfl
    obtain ⟨between, middle, ran, reachedBetween⟩ := ih ((List.prefix_append ..).trans within) apart.1
    obtain ⟨after, final, ranNext, reachedAfter⟩ :=
      follows.deploy reachedBetween (getElem?_of_prefix_concat within) fresh
    refine ⟨after, final, ?_, reachedAfter⟩
    rw [Deployment.deployEach_concat, Stage.bind_of_ok ran]
    exact Stage.discard_of_ok ranNext

/-- In either mode each call finds its contract deployed, or has it deployed in its turn. -/
theorem submit (follows : performance.Follows plan fit)
    (reached : performance.Reached plan fit (plan.deployedBy performance.request.mode []) [] session now)
    {front : List Call} (within : front <+: plan.block.calls) :
    ∃ after final, Submission.submit performance.engine.gateway performance.request.mode front session
        performance.outside now = (.ok (plan.lastOf front), after, final) ∧
      performance.Reached plan fit (plan.deployedBy performance.request.mode front) (plan.sendings front)
        after final := by
  induction front using List.reverseRecOn with
  | nil => exact ⟨session, now, rfl, reached⟩
  | append_singleton front call ih =>
    obtain ⟨between, middle, ran, reachedBetween⟩ := ih ((List.prefix_append ..).trans within)
    have declared : call.contract ∈ plan.ids := plan.declared call (within.subset (by simp))
    have concat := plan.deployedBy_concat performance.request.mode front declared
    have awaited : call.contract ∈ plan.deployedBy performance.request.mode front ∨
        performance.request.mode = .lazy ∧ call.contract ∉ plan.deployedBy performance.request.mode front ∧
        performance.request.deployOrder[(plan.deployedBy performance.request.mode front).length]? =
          some call.contract := by
      by_cases there : call.contract ∈ plan.deployedBy performance.request.mode front
      · exact .inl there
      · have order := plan.deployedBy_mono performance.request.mode within
        rw [concat, if_neg there] at order
        refine .inr ⟨?_, there, ?_⟩
        · cases mode : performance.request.mode with
          | eager =>
            rw [mode] at there
            exact absurd declared there
          | «lazy» => rfl
        · rw [follows.deployOrder_eq]
          exact getElem?_of_prefix_concat order
    have next : plan.block.calls[(plan.sendings front).length]? = some call := by
      rw [Plan.length_sendings]
      exact getElem?_of_prefix_concat within
    obtain ⟨after, final, ranNext, reachedAfter⟩ := follows.send reachedBetween next awaited
    rw [Plan.length_sendings] at ranNext reachedAfter
    rw [concat, Plan.sendings_concat, Plan.lastOf_concat]
    refine ⟨after, final, ?_, reachedAfter⟩
    rw [Submission.submit_concat, Stage.bind_of_ok ran, map_eq_pure_bind, Stage.bind_of_ok ranNext]
    rfl

theorem replay {registry : Registry} (follows : performance.Follows plan fit)
    (fresh : registry.Fresh plan.block.contracts) :
    ∃ after final, performance.run registry = (.ok (plan.lastOf plan.block.calls), after, final) ∧
      performance.Reached plan fit (plan.deployedBy performance.request.mode plan.block.calls)
        (plan.sendings plan.block.calls) after final := by
  have begun := follows.begins fresh
  -- The calls go on from what has been deployed before them.
  cases mode : performance.request.mode with
  | eager =>
    have pending : registry.pending = plan.ids := fresh.pending_eq
    have order : performance.request.deployOrder = plan.ids := by
      rw [follows.deployOrder_eq, mode]
      rfl
    obtain ⟨between, middle, deployed, reached⟩ := follows.deployEach begun plan.ids
      (order ▸ List.prefix_rfl) plan.distinct
    rw [← pending] at deployed
    obtain ⟨after, final, ran, reachedAfter⟩ := follows.submit (by rw [mode]; exact reached) List.prefix_rfl
    rw [mode] at ran reachedAfter
    refine ⟨after, final, ?_, reachedAfter⟩
    rw [Performance.run, Engine.replay, follows.block]
    simp only [mode]
    exact (Stage.bind_of_ok (Stage.mapError_of_ok deployed)).trans (Stage.mapError_of_ok ran)
  | «lazy» =>
    obtain ⟨after, final, ran, reachedAfter⟩ := follows.submit (by rw [mode]; exact begun) List.prefix_rfl
    rw [mode] at ran reachedAfter
    refine ⟨after, final, ?_, reachedAfter⟩
    rw [Performance.run, Engine.replay, follows.block]
    simp only [mode]
    exact Stage.mapError_of_ok ran

end Follows

end Performance

/-- What both modes make of a plan: the same calls are sent and answered, and the last one is the same. Ahead of
the calls all contracts are deployed, on demand just those that are called. -/
theorem eager_and_lazy_replay_alike (plan : Plan) {ahead onDemand : Performance}
    {fit fitOnDemand : List String → Files → Prop}
    (eager : ahead.request.mode = .eager) (follows : ahead.Follows plan fit)
    (waits : onDemand.request.mode = .lazy) (followsOnDemand : onDemand.Follows plan fitOnDemand) :
    ∃ registry last aheadAfter aheadFinal after final,
      Registry.ofContracts plan.block.contracts = .ok registry ∧
      ahead.run registry = (.ok last, aheadAfter, aheadFinal) ∧
      onDemand.run registry = (.ok last, after, final) ∧
      last = plan.lastOf plan.block.calls ∧
      sendings (ahead.world.since aheadFinal) = plan.sendings plan.block.calls ∧
      sendings (onDemand.world.since final) = plan.sendings plan.block.calls ∧
      (∀ id, (∃ found, aheadAfter.registry.deployed id = .ok found) ↔
        ∃ contract ∈ plan.block.contracts, contract.id = id) ∧
      ∀ id, (∃ found, after.registry.deployed id = .ok found) ↔
        ∃ call ∈ plan.block.calls, call.contract = id := by
  obtain ⟨registry, made⟩ := Registry.exists_ofContracts plan.distinct
  have fresh := Registry.ofContracts_fresh made
  obtain ⟨aheadAfter, aheadFinal, ranAhead, reachedAhead⟩ := follows.replay fresh
  obtain ⟨after, final, ran, reached⟩ := followsOnDemand.replay fresh
  obtain ⟨stepsAhead, leadsAhead, -, sentAhead⟩ := reachedAhead.leads
  obtain ⟨steps, leads, -, sent⟩ := reached.leads
  refine ⟨registry, _, aheadAfter, aheadFinal, after, final, made, ranAhead, ran, rfl, ?_, ?_, ?_, ?_⟩
  · rw [leadsAhead.sendings_since, sentAhead]
  · rw [leads.sendings_since, sent]
  · intro id
    rw [reachedAhead.deployed_iff, eager]
    exact List.mem_map
  · intro id
    rw [reached.deployed_iff, waits]
    exact List.mem_eraseDups.trans List.mem_map

/-! ### Contracts that share a source -/

namespace Rehearsal

def tokenKey : String := "bd7616f6c9cc60f24c35f3b9e4bedd6740feaa1716f0e7ecbc81490ed667ed83"

def tokenFiles : Files :=
  ⟨[(["Token.sol"], .file .empty), (["scope"], .directory)], []⟩

def compiledFiles : Files :=
  tokenFiles.deposit ⟨Path.join "/scope" tokenKey, (ScriptedCompilation.usual "Token.sol").files⟩

def tokenAddresses : List Ledger.Address := [
  ⟨['0', '0', '0', '1'], by decide, by decide⟩,
  ⟨['0', '0', '0', '2'], by decide, by decide⟩,
  ⟨['0', '0', '0', '3'], by decide, by decide⟩]

/-- Three contracts of one source. The second one is called first, the third one not at all. -/
def tokenPlan : Plan where
  block := ⟨[⟨⟨1⟩, "Token.sol"⟩, ⟨⟨2⟩, "/Token.sol"⟩, ⟨⟨3⟩, "Token.sol"⟩],
    [⟨⟨2⟩, "mint", ["7"]⟩, ⟨⟨1⟩, "mint", []⟩, ⟨⟨2⟩, "burn", []⟩]⟩
  place _ := ["Token.sol"]
  artifact _ := ⟨"/Token.sol", Path.join (Path.join "/scope" tokenKey) "Token.bin",
    Path.join (Path.join "/scope" tokenKey) "Token.abi"⟩
  address id := tokenAddresses.getD (id.number.toNat - 1) ⟨['0'], by decide, by decide⟩
  message index := ⟨countText (index + 1)⟩
  distinct := by decide
  declared := by decide
  apart _ _ _ _ _ := rfl

def tokenPerformance (mode : DeploymentMode) : Performance where
  engine := ⟨⟨⟨false, "nil", [], ⟨500, 1⟩, 0⟩, ⟨"", "cli", "cli", []⟩, ⟨"solc", []⟩, none, mode,
    {}⟩, gateway (planScript tokenPlan mode), compiler []⟩
  request := ⟨tokenPlan.block, mode, none, none, none⟩
  scope := ⟨"/scope", ["scope"]⟩
  outside := outside tokenFiles "/tmp" []
  world := ⟨tokenFiles, []⟩

def TokenFit (keys : List String) (files : Files) : Prop :=
  keys = [] ∧ files = tokenFiles ∨ keys = [tokenKey] ∧ files = compiledFiles

theorem path_token : Place.path ["Token.sol"] = "/Token.sol" := by
  decide +kernel

theorem key_token : Place.key ["Token.sol"] = tokenKey := by
  decide +kernel

theorem compiler_usual (source output : String) (outside : Outside) (now : World) :
    (compiler []).compile source output outside now =
      (.ok (), ⟨now.files.deposit ⟨output, (ScriptedCompilation.usual ((Path.fileName? source).getD "")).files⟩,
        now.journal⟩) := by
  simp only [compiler, List.lookup_nil, Option.getD_none, ScriptedCompilation.usual, Bool.false_eq_true, if_false]

theorem directory_token (mode : DeploymentMode) :
    (tokenPerformance mode).store.directory tokenKey = Path.join "/scope" tokenKey :=
  rfl

/-- The source is compiled once, and afterwards its artifact is there. -/
theorem token_yields {now : World} (mode : DeploymentMode) (before : now.files = tokenFiles) :
    (tokenPerformance mode).Yields ["Token.sol"] (tokenPlan.artifact ["Token.sol"]) now
      { now with files := compiledFiles } where
  vacant := by
    rw [before, key_token, directory_token]
    decide +kernel
  compiles := by
    have name : (Path.fileName? "/Token.sol").getD "" = "Token.sol" := by decide +kernel
    rw [key_token, path_token]
    refine (compiler_usual ..).trans ?_
    rw [before, name]
    rfl
  leaves := by
    rw [key_token, path_token, directory_token]
    have listed : compiledFiles.list (Path.join "/scope" tokenKey) = .ok ["Token.bin", "Token.abi"] := by
      decide +kernel
    have collected : Artifact.collect "/Token.sol" (Path.join "/scope" tokenKey) ["Token.bin", "Token.abi"] =
        .ok (tokenPlan.artifact ["Token.sol"]) := by decide +kernel
    dsimp only
    exact ⟨["Token.bin", "Token.abi"], listed, collected⟩

/-- The source is found before and after. -/
theorem token_found :
    (∀ contract ∈ tokenPlan.block.contracts, tokenFiles.canonical contract.path = .ok ["Token.sol"]) ∧
      ∀ contract ∈ tokenPlan.block.contracts, compiledFiles.canonical contract.path = .ok ["Token.sol"] := by
  constructor <;> decide +kernel

theorem token_follows (mode : DeploymentMode) : (tokenPerformance mode).Follows tokenPlan TokenFit where
  block := rfl
  starts := .inl ⟨rfl, rfl⟩
  found := by
    rintro keys files (⟨-, same⟩ | ⟨-, same⟩)
    · rw [same]
      exact token_found.1
    · rw [same]
      exact token_found.2
  compiles := by
    rintro keys now (⟨rfl, before⟩ | ⟨rfl, after⟩) contract listed new
    · refine ⟨{ now with files := compiledFiles }, token_yields mode before, .inr ⟨?_, by dsimp only⟩⟩
      exact congrArg (fun key => [key]) key_token
    · exact absurd (List.mem_singleton.mpr key_token) new
  deploys keys now steps fit leads id salt next := by
    have same : deployments now.journal = deployments steps := leads.deployments_since
    refine ⟨now, perform_deploy _ ?_, fit⟩
    rw [same]
    cases mode <;> exact next
  sends keys now steps fit leads call next := by
    have same : sendings now.journal = sendings steps := leads.sendings_since
    rw [← same] at next ⊢
    exact ⟨now, perform_send _ next, fit⟩

end Rehearsal

theorem eager_and_lazy_replay_alike_of_shared_source :
    let ahead := Rehearsal.tokenPerformance .eager
    let onDemand := Rehearsal.tokenPerformance .lazy
    ahead.request.mode = .eager ∧ ahead.Follows Rehearsal.tokenPlan Rehearsal.TokenFit ∧
      onDemand.request.mode = .lazy ∧ onDemand.Follows Rehearsal.tokenPlan Rehearsal.TokenFit ∧
      ahead.request.deployOrder = [⟨1⟩, ⟨2⟩, ⟨3⟩] ∧ onDemand.request.deployOrder = [⟨2⟩, ⟨1⟩] ∧
      ∃ registry last aheadAfter aheadFinal after final,
        ahead.run registry = (.ok (some last), aheadAfter, aheadFinal) ∧
        onDemand.run registry = (.ok (some last), after, final) ∧
        last = ⟨⟨"0x0003"⟩, ⟨2⟩, ⟨['0', '0', '0', '2'], by decide, by decide⟩⟩ := by
  refine ⟨rfl, Rehearsal.token_follows .eager, rfl, Rehearsal.token_follows .lazy, by decide, by decide, ?_⟩
  obtain ⟨registry, last, aheadAfter, aheadFinal, after, final, -, ranAhead, ran, same, -⟩ :=
    eager_and_lazy_replay_alike Rehearsal.tokenPlan rfl (Rehearsal.token_follows .eager) rfl
      (Rehearsal.token_follows .lazy)
  have told : Rehearsal.tokenPlan.lastOf Rehearsal.tokenPlan.block.calls =
      some ⟨⟨"0x0003"⟩, ⟨2⟩, ⟨['0', '0', '0', '2'], by decide, by decide⟩⟩ := by
    decide +kernel
  rw [same, told] at ranAhead ran
  exact ⟨registry, _, aheadAfter, aheadFinal, after, final, ranAhead, ran, rfl⟩

end LedgerCapture
