import LedgerCapture.Proofs.Deployment
import LedgerCapture.Proofs.Registry.Progress
import LedgerCapture.Rehearsal.Compiler
import LedgerCapture.Rehearsal.Ledger
import LedgerCapture.Rehearsal.Outside

/-!
What a deployment leaves where it stops. Up to the compiler nothing is touched; behind it only the artifact has been
noted, so that another attempt goes on from there with the same files; and in the end one contract is deployed.
-/
namespace LedgerCapture.Deployment

open Journal

variable {gateway : Gateway} {id : ContractId} {session after : Session} {outside : Outside} {world final : World}

/-! ### The way to the ledger -/

/-- How a contract comes by the artifact that is sent for it, and the registry that has it: it was compiled before,
or it is compiled now. -/
inductive Readied (session : Session) (id : ContractId) (outside : Outside) (world : World) :
    Artifact → Registry → Prop where
  | before {entry : Registry.Entry} {artifact : Artifact} (found : session.registry.get id = .ok entry)
      (progress : entry.progress = ⟨.compiled, some artifact, none⟩) :
      Readied session id outside world artifact session.registry
  | now {entry : Registry.Entry} {artifact : Artifact} {store : ArtifactStore} {between : World}
      (found : session.registry.get id = .ok entry) (progress : entry.progress = ⟨.registered, none, none⟩)
      (made : session.store.compile entry.contract.path outside world = (.ok (artifact, store), between)) :
      Readied session id outside world artifact
        (session.registry.withProgress id ⟨.compiled, some artifact, none⟩)

theorem Prepared.readied {entry : Registry.Entry} {artifact : Artifact} {prepared : Session} {between : World}
    (sound : session.registry.Sound) (found : session.registry.get id = .ok entry)
    (undeployed : entry.progress.phase ≠ .deployed)
    (ready : Prepared session outside world entry artifact prepared between) :
    Readied session id outside world artifact prepared.registry := by
  obtain ⟨member, named⟩ := (Registry.get_eq_ok_iff sound).mp found
  have consistent := sound.consistent entry member
  cases ready with
  | known noted =>
    exact .before found (consistent.eq_compiled noted undeployed)
  | compiled missing made noted =>
    rw [named] at noted
    obtain ⟨again, foundAgain, progress, rfl⟩ := Registry.markCompiled_eq sound noted
    cases found.symm.trans foundAgain
    exact .now found progress made

theorem Readied.withProgress {artifact : Artifact} {registry : Registry}
    (readied : Readied session id outside world artifact registry) (progress : Progress) :
    registry.withProgress id progress = session.registry.withProgress id progress := by
  cases readied with
  | before found standing => rfl
  | now found standing made => exact Registry.withProgress_withProgress ..

/-! ### Attempts with an artifact -/

/-- The contract is deployed with these files and without the compiler: with one command, unless it is deployed
already. -/
def SendsOnly (gateway : Gateway) (id : ContractId) (artifact : Artifact) (session : Session) (outside : Outside)
    (world : World) : Prop :=
  ∃ result after final, deploy gateway id session outside world = (result, after, final) ∧
    compilations (world.since final) = [] ∧
    (session.registry.Waiting id →
      ∃ salt answer, deployments (world.since final) = [(⟨artifact.bytecode, artifact.interface, salt⟩, answer)]) ∧
    (¬session.registry.Waiting id → deployments (world.since final) = [])

theorem views_of_answer {request : DeployRequest} {salt : UInt64} {answer : Except GatewayError Ledger.Address}
    (answered : gateway.command (.deploy request) outside (world.record (.salt salt)) = (answer, final)) :
    compilations (world.since final) = [] ∧ deployments (world.since final) = [(request, answer)] := by
  have drawn : world.Leads [.salt salt] (world.record (.salt salt)) := World.Leads.record world rfl
  have leads := drawn.trans (Gateway.command_leads answered)
  exact ⟨leads.compilations_since, leads.deployments_since⟩

theorem sendsOnly_of_notes {artifact : Artifact} (gateway : Gateway) (outside : Outside) (world : World)
    (sound : session.registry.Sound) (notes : session.registry.Notes id artifact) :
    SendsOnly gateway id artifact session outside world := by
  obtain ⟨entry, standing, noted⟩ := notes
  obtain ⟨result, after, final, ran, outcome⟩ := deploy_outcome gateway id outside world sound
  refine ⟨result, after, final, ran, ?_⟩
  cases outcome with
  | unknown missing => cases standing.symm.trans missing
  | already found deployed =>
    cases standing.symm.trans found
    have nothing := World.Leads.refl world
    exact ⟨nothing.compilations_since, fun waits => absurd waits (Registry.not_waiting_of_deployed found deployed),
      fun _ => nothing.deployments_since⟩
  | uncompiled found undeployed missing failed =>
    cases standing.symm.trans found
    cases noted.symm.trans missing
  | refused found undeployed ready answered | deployed found undeployed ready answered _ =>
    cases standing.symm.trans found
    cases ready with
    | compiled missing made marked => cases noted.symm.trans missing
    | known again =>
      cases noted.symm.trans again
      obtain ⟨noCompilation, sent⟩ := views_of_answer answered
      exact ⟨noCompilation, fun _ => ⟨_, _, sent⟩, fun idle => absurd ⟨entry, found, undeployed⟩ idle⟩

/-- From here on the contract is deployed with these files, whatever is done to the registry in between, through
whatever gateway and in whatever world. -/
def Resumes (registry : Registry) (id : ContractId) (artifact : Artifact) : Prop :=
  ∀ (operations : List Registry.Operation) (gateway : Gateway) (later : Session) (outside : Outside) (world : World),
    later.registry = operations.foldl Registry.apply registry →
      SendsOnly gateway id artifact later outside world

theorem resumes_of_notes {registry : Registry} {artifact : Artifact} (sound : registry.Sound)
    (notes : registry.Notes id artifact) : Resumes registry id artifact := by
  intro operations gateway later outside world same
  obtain ⟨soundLater, notesLater⟩ := notes.foldl operations sound
  rw [← same] at soundLater notesLater
  exact sendsOnly_of_notes gateway outside world soundLater notesLater

/-! ### What an attempt leaves -/

/-- What an attempt to deploy a contract leaves, depending on where it stopped. -/
structure Atomic (id : ContractId) (session : Session) (outside : Outside) (world : World)
    (result : Except DeploymentError Ledger.Address) (after : Session) (final : World) : Prop where
  /-- A contract that is deployed or unknown is refused before anything happens. -/
  idle : ¬session.registry.Waiting id →
    result = .error (.registry (if id ∈ session.registry.ids then .alreadyDeployed id else .unknownContract id)) ∧
      after = session ∧ final = world
  /-- For any other one only the compiler and the ledger can fail. -/
  waiting : session.registry.Waiting id → ∀ fault, result ≠ .error (.registry fault)
  /-- A contract that cannot be compiled stays registered, and nothing is sent for it. -/
  uncompiled : ∀ fault, result = .error (.artifact fault) →
    (∃ entry, session.registry.get id = .ok entry ∧ entry.progress = ⟨.registered, none, none⟩ ∧
      session.store.compile entry.contract.path outside world = (.error fault, final)) ∧
    after = session ∧ deployments (world.since final) = []
  /-- A contract that the ledger refuses is compiled, and the next attempt goes on from there. -/
  refused : ∀ other fault, result = .error (.gateway other fault) → other = id ∧
    ∃ artifact salt, Readied session id outside world artifact after.registry ∧
      deployments (world.since final) = [(⟨artifact.bytecode, artifact.interface, salt⟩, .error fault)] ∧
      Resumes after.registry id artifact
  /-- A contract that the ledger takes is deployed at the address that it answers, and no other one changes. -/
  deployed : ∀ address, result = .ok address →
    ∃ artifact salt registry, Readied session id outside world artifact registry ∧
      deployments (world.since final) = [(⟨artifact.bytecode, artifact.interface, salt⟩, .ok address)] ∧
      after.registry = session.registry.withProgress id ⟨.deployed, some artifact, some address⟩

theorem Atomic.of_idle {fault : RegistryError} (idle : ¬session.registry.Waiting id)
    (told : fault = if id ∈ session.registry.ids then .alreadyDeployed id else .unknownContract id) :
    Atomic id session outside world (.error (.registry fault)) session world where
  idle _ := ⟨by rw [told], rfl, rfl⟩
  waiting waits := absurd waits idle
  uncompiled _ same := by cases same
  refused _ _ same := by cases same
  deployed _ same := by cases same

/-- Whatever the compiler and the ledger answer, an attempt to deploy a contract changes at most this contract, and it
leaves it in a phase from which another attempt can go on. -/
theorem deploy_atomic (gateway : Gateway) (id : ContractId) (outside : Outside) (world : World)
    (reachable : session.registry.Reachable) :
    ∃ result after final, deploy gateway id session outside world = (result, after, final) ∧
      Atomic id session outside world result after final := by
  have sound := reachable.sound
  obtain ⟨result, after, final, ran, outcome⟩ := deploy_outcome gateway id outside world sound
  refine ⟨result, after, final, ran, ?_⟩
  cases outcome with
  | unknown missing =>
    have absent := (Registry.get_eq_unknown_iff sound).mp missing
    have idle : ¬session.registry.Waiting id :=
      fun waits => absurd ((Registry.exists_get_iff sound).mp (waits.imp fun _ => And.left)) absent
    exact .of_idle idle (if_neg absent).symm
  | @already entry found deployed =>
    have present := (Registry.exists_get_iff sound).mp ⟨entry, found⟩
    exact .of_idle (Registry.not_waiting_of_deployed found deployed) (if_pos present).symm
  | @uncompiled entry fault final found undeployed missing failed =>
    have consistent := sound.consistent entry ((Registry.get_eq_ok_iff sound).mp found).1
    obtain ⟨steps, leads, compiling⟩ := World.Leads.exists_of_adds ((session.store.compile_adds _).of_ran failed)
    exact {
      idle := fun idle => absurd ⟨entry, found, undeployed⟩ idle
      waiting := fun _ _ same => by cases same
      uncompiled := fun other same => by
        cases same
        exact ⟨⟨entry, found, consistent.eq_registered missing, failed⟩, rfl,
          leads.deployments_since.trans (views_of_compiling compiling).1⟩
      refused := fun _ _ same => by cases same
      deployed := fun _ same => by cases same }
  | @refused entry artifact prepared between final fault found undeployed ready answered =>
    obtain ⟨steps, leads, -, -, sent⟩ := Outcome.leads_of_answer ready answered
    obtain ⟨next, standing, -, noted⟩ := ready.get_prepared sound found undeployed
    have resumes := resumes_of_notes ((ready.extends_registry sound).sound sound) ⟨next, standing, noted⟩
    exact {
      idle := fun idle => absurd ⟨entry, found, undeployed⟩ idle
      waiting := fun _ _ same => by cases same
      uncompiled := fun _ same => by cases same
      refused := fun other fault same => by
        cases same
        exact ⟨rfl, artifact, _, ready.readied sound found undeployed, leads.deployments_since.trans sent, resumes⟩
      deployed := fun _ same => by cases same }
  | @deployed entry artifact prepared between final address registry found undeployed ready answered marked =>
    obtain ⟨steps, leads, -, -, sent⟩ := Outcome.leads_of_answer ready answered
    obtain ⟨next, standing, -, noted⟩ := ready.get_prepared sound found undeployed
    have readied := ready.readied sound found undeployed
    obtain ⟨again, sending, foundAgain, progress, rfl⟩ :=
      Registry.markDeployed_eq ((ready.extends_registry sound).sound sound) marked
    cases standing.symm.trans foundAgain
    rw [progress] at noted
    cases noted
    exact {
      idle := fun idle => absurd ⟨entry, found, undeployed⟩ idle
      waiting := fun _ _ same => by cases same
      uncompiled := fun _ same => by cases same
      refused := fun _ _ same => by cases same
      deployed := fun address same => by
        cases same
        exact ⟨artifact, _, prepared.registry, readied, leads.deployments_since.trans sent, readied.withProgress _⟩ }

/-- A compiled contract that the ledger refuses. -/
theorem deploy_atomic_of_refused_contract :
    let artifact : Artifact := ⟨"/Token.sol", "/Token.bin", "/Token.abi"⟩
    let registry := Registry.after [.register ⟨⟨1⟩, "Token.sol"⟩, .register ⟨⟨2⟩, "Pool.sol"⟩,
      .markCompiled ⟨1⟩ artifact]
    let session : Session := ⟨registry, .empty (Rehearsal.compiler []) ⟨"/scope", ["scope"]⟩⟩
    let gateway := Rehearsal.gateway [("deploy", [.error (.rpc "eth_call" 7 "busy")])]
    registry.Reachable ∧ ∃ after final,
      deploy gateway ⟨1⟩ session (Rehearsal.outside ⟨[], []⟩ "/tmp" []) ⟨⟨[], []⟩, []⟩ =
        (.error (.gateway ⟨1⟩ (.rpc "eth_call" 7 "busy")), after, final) ∧
      ∃ sent salt, deployments final.journal =
        [(⟨sent.bytecode, sent.interface, salt⟩, .error (.rpc "eth_call" 7 "busy"))] ∧
      Resumes after.registry ⟨1⟩ sent := by
  intro artifact registry session gateway
  have reachable : session.registry.Reachable := ⟨_, rfl⟩
  obtain ⟨result, after, final, ran, atomic⟩ := deploy_atomic gateway ⟨1⟩
    (Rehearsal.outside ⟨[], []⟩ "/tmp" []) ⟨⟨[], []⟩, []⟩ reachable
  have refused : result = .error (.gateway ⟨1⟩ (.rpc "eth_call" 7 "busy")) :=
    (congrArg Prod.fst ran).symm.trans rfl
  subst refused
  obtain ⟨-, sent, salt, -, told, resumes⟩ := atomic.refused _ _ rfl
  exact ⟨reachable, after, final, ran, sent, salt, told, resumes⟩

end LedgerCapture.Deployment
