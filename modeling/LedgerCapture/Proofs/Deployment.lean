import LedgerCapture.Deployment
import LedgerCapture.Proofs.Journal
import LedgerCapture.Proofs.Registry.Sound

/-!
What deploying one contract comes to. The outcomes are listed once, with all that leads to each of them;
which commands are issued, what lasts and what is known of the contract afterwards follows from the list.
-/
namespace LedgerCapture

def DeploymentError.registryFault? : DeploymentError → Option RegistryError
  | registry fault => some fault
  | artifact _ => none
  | gateway _ _ => none

namespace Deployment

open Journal

variable {gateway : Gateway} {id : ContractId} {session after : Session} {outside : Outside}
  {world final : World} {entry : Registry.Entry}

/-! ### Artifacts -/

/-- How the entry of a contract comes by its artifact. -/
inductive Prepared (session : Session) (outside : Outside) (world : World) (entry : Registry.Entry) :
    Artifact → Session → World → Prop where
  | known {artifact : Artifact} (noted : entry.progress.artifact? = some artifact) :
      Prepared session outside world entry artifact session world
  | compiled {artifact : Artifact} {store : ArtifactStore} {between : World} {registry : Registry}
      (missing : entry.progress.artifact? = none)
      (made : session.store.compile entry.contract.path outside world = (.ok (artifact, store), between))
      (noted : session.registry.markCompiled entry.id artifact = .ok registry) :
      Prepared session outside world entry artifact ⟨registry, store⟩ between

/-- An entry without an artifact is still in its first phase, so its artifact can be noted. -/
theorem artifactOf_cases (outside : Outside) (world : World) (sound : session.registry.Sound)
    (found : session.registry.get id = .ok entry) (undeployed : entry.progress.phase ≠ .deployed) :
    (∃ artifact prepared between,
      artifactOf entry session outside world = (.ok artifact, prepared, between) ∧
      Prepared session outside world entry artifact prepared between) ∨
    (∃ fault between,
      artifactOf entry session outside world = (.error (.artifact fault), session, between) ∧
      entry.progress.artifact? = none ∧
      session.store.compile entry.contract.path outside world = (.error fault, between)) := by
  obtain ⟨member, named⟩ := (Registry.get_eq_ok_iff sound).mp found
  unfold artifactOf
  cases noted : entry.progress.artifact? with
  | some artifact => exact .inl ⟨artifact, session, world, rfl, .known noted⟩
  | none =>
    have first : entry.progress.phase = .registered := by
      have consistent := (sound.consistent entry member).artifact
      rw [noted] at consistent
      cases phase : entry.progress.phase <;> simp_all
    cases made : session.store.compile entry.contract.path outside world with
    | mk result between =>
      cases result with
      | error fault =>
        exact .inr ⟨fault, between,
          Stage.bind_of_error (Stage.mapError_of_error (Stage.compile_of_error made)), rfl, rfl⟩
      | ok pair =>
        obtain ⟨artifact, store⟩ := pair
        rw [← named] at found
        obtain ⟨registry, marked⟩ := Registry.markCompiled_of_get artifact found first
        refine .inl ⟨artifact, ⟨registry, store⟩, between, ?_, .compiled noted made marked⟩
        dsimp only
        rw [Stage.bind_of_ok (Stage.mapError_of_ok (Stage.compile_of_ok made)),
          Stage.bind_of_ok (Stage.mapError_of_ok (Stage.revise_of_ok marked))]
        rfl

namespace Prepared

variable {artifact : Artifact} {prepared : Session} {between : World}

theorem extends_registry (sound : session.registry.Sound)
    (ready : Prepared session outside world entry artifact prepared between) :
    session.registry.Extends prepared.registry := by
  cases ready with
  | known noted => exact .refl _
  | compiled missing made noted => exact Registry.amend_extends sound (Registry.compiled_advances _) noted

/-- Once its artifact is there, a contract that is not deployed is compiled. -/
theorem get_prepared (sound : session.registry.Sound) (found : session.registry.get id = .ok entry)
    (undeployed : entry.progress.phase ≠ .deployed)
    (ready : Prepared session outside world entry artifact prepared between) :
    ∃ next, prepared.registry.get id = .ok next ∧ next.progress.phase = .compiled ∧
      next.progress.artifact? = some artifact := by
  obtain ⟨member, named⟩ := (Registry.get_eq_ok_iff sound).mp found
  cases ready with
  | known noted =>
    refine ⟨entry, found, ?_, noted⟩
    have consistent := (sound.consistent entry member).artifact
    rw [noted] at consistent
    cases phase : entry.progress.phase <;> simp_all
  | compiled missing made noted =>
    obtain ⟨before, -, foundAfter⟩ := Registry.get_of_markCompiled sound noted
    rw [named] at foundAfter
    exact ⟨_, foundAfter, rfl, rfl⟩

theorem leads (ready : Prepared session outside world entry artifact prepared between) :
    ∃ steps, world.Leads steps between ∧ ∀ event ∈ steps, event.isCompiling = true := by
  cases ready with
  | known noted => exact ⟨[], .refl _, by simp⟩
  | compiled missing made noted =>
    exact World.Leads.exists_of_adds ((session.store.compile_adds _).of_ran made)

end Prepared

/-! ### Outcomes -/

def requestFor (artifact : Artifact) (outside : Outside) (world : World) : DeployRequest :=
  ⟨artifact.bytecode, artifact.interface, outside.salt world.journal⟩

inductive Outcome (gateway : Gateway) (id : ContractId) (session : Session) (outside : Outside)
    (world : World) : Except DeploymentError Ledger.Address → Session → World → Prop where
  | unknown (missing : session.registry.get id = .error (.unknownContract id)) :
      Outcome gateway id session outside world (.error (.registry (.unknownContract id))) session world
  | already {entry : Registry.Entry} (found : session.registry.get id = .ok entry)
      (deployed : entry.progress.phase = .deployed) :
      Outcome gateway id session outside world (.error (.registry (.alreadyDeployed id))) session world
  | uncompiled {entry : Registry.Entry} {fault : ArtifactError} {final : World}
      (found : session.registry.get id = .ok entry) (undeployed : entry.progress.phase ≠ .deployed)
      (missing : entry.progress.artifact? = none)
      (failed : session.store.compile entry.contract.path outside world = (.error fault, final)) :
      Outcome gateway id session outside world (.error (.artifact fault)) session final
  | refused {entry : Registry.Entry} {artifact : Artifact} {prepared : Session} {between final : World}
      {fault : GatewayError} (found : session.registry.get id = .ok entry)
      (undeployed : entry.progress.phase ≠ .deployed)
      (ready : Prepared session outside world entry artifact prepared between)
      (answered : gateway.command (.deploy (requestFor artifact outside between)) outside
        (between.record (.salt (outside.salt between.journal))) = (.error fault, final)) :
      Outcome gateway id session outside world (.error (.gateway id fault)) prepared final
  | deployed {entry : Registry.Entry} {artifact : Artifact} {prepared : Session} {between final : World}
      {address : Ledger.Address} {registry : Registry} (found : session.registry.get id = .ok entry)
      (undeployed : entry.progress.phase ≠ .deployed)
      (ready : Prepared session outside world entry artifact prepared between)
      (answered : gateway.command (.deploy (requestFor artifact outside between)) outside
        (between.record (.salt (outside.salt between.journal))) = (.ok address, final))
      (noted : prepared.registry.markDeployed id address = .ok registry) :
      Outcome gateway id session outside world (.ok address) { prepared with registry } final

theorem deploy_outcome (gateway : Gateway) (id : ContractId) (outside : Outside) (world : World)
    (sound : session.registry.Sound) :
    ∃ result after final, deploy gateway id session outside world = (result, after, final) ∧
      Outcome gateway id session outside world result after final := by
  unfold deploy
  cases found : session.registry.get id with
  | error fault =>
    have missing := Registry.get_eq_error found
    subst missing
    refine ⟨_, _, _, Stage.bind_of_error (Stage.mapError_of_error ?_), .unknown found⟩
    simp only [Stage.consult, found]
  | ok entry =>
    have consulted : ((Stage.consult (·.get id)).mapError .registry : Stage DeploymentError Registry.Entry)
        session outside world = (.ok entry, session, world) :=
      Stage.mapError_of_ok (by simp only [Stage.consult, found])
    rw [Stage.bind_of_ok consulted]
    by_cases deployed : entry.progress.phase = .deployed
    · rw [if_pos (Registry.isDeployed_iff.mpr deployed)]
      exact ⟨_, _, _, rfl, .already found deployed⟩
    · rw [if_neg (fun same => deployed (Registry.isDeployed_iff.mp same))]
      rcases artifactOf_cases outside world sound found deployed with
        ⟨artifact, prepared, between, ran, ready⟩ | ⟨fault, between, ran, missing, failed⟩
      · -- The artifact is there, so only the ledger can still refuse.
        rw [Stage.bind_of_ok ran, Stage.bind_of_ok (Stage.ofRun_of rfl)]
        cases answered : gateway.command (.deploy (requestFor artifact outside between)) outside
            (between.record (.salt (outside.salt between.journal))) with
        | mk answer final =>
          cases answer with
          | error fault =>
            exact ⟨_, _, _, Stage.bind_of_error (Stage.ofRun_of (Run.mapError_of_error answered)),
              .refused found deployed ready answered⟩
          | ok address =>
            obtain ⟨next, foundNext, phase, -⟩ := ready.get_prepared sound found deployed
            obtain ⟨registry, marked⟩ := Registry.markDeployed_of_get address foundNext phase
            refine ⟨_, _, _, ?_, .deployed found deployed ready answered marked⟩
            exact (Stage.bind_of_ok (Stage.ofRun_of (Run.mapError_of_ok answered))).trans
              (Stage.bind_of_ok (Stage.mapError_of_ok (Stage.revise_of_ok marked)))
      · exact ⟨_, _, _, Stage.bind_of_error ran, .uncompiled found deployed missing failed⟩

/-! ### What is deployed on the way -/

/-- The registry has the code that was sent, and the address if one was answered. -/
def Noted (registry : Registry) (id : ContractId) (exchange : Event.Deployment) : Prop :=
  ∃ entry artifact, registry.get id = .ok entry ∧ entry.progress.artifact? = some artifact ∧
    exchange.1.bytecode = artifact.bytecode ∧ exchange.1.interface = artifact.interface ∧
    ∀ address, registry.deployed id = .ok (address, artifact) ↔ exchange.2 = .ok address

def Answered (exchange : Event.Deployment) : Prop :=
  ∃ address, exchange.2 = .ok address

/-- What was deployed from one registry to a later one: each of `ids` by the exchange in its place. -/
structure Issued (before after : Registry) (ids : List ContractId) (made : List Event.Deployment) : Prop where
  lasts : before.Extends after
  distinct : ids.Nodup
  waiting : ∀ id ∈ ids, before.Waiting id
  noted : List.Forall₂ (Noted after) ids made
  complete : ∀ id found, after.deployed id = .ok found → before.deployed id = .ok found ∨ id ∈ ids

theorem Noted.deployed {registry : Registry} {exchange : Event.Deployment} (noted : Noted registry id exchange)
    (answered : Answered exchange) : ∃ found, registry.deployed id = .ok found := by
  obtain ⟨entry, artifact, -, -, -, -, known⟩ := noted
  obtain ⟨address, answer⟩ := answered
  exact ⟨(address, artifact), (known address).mpr answer⟩

/-- What the registry has of a deployed contract is what was sent and answered. -/
theorem Noted.of_deployed {registry : Registry} {exchange : Event.Deployment} {address : Ledger.Address}
    {artifact : Artifact} (noted : Noted registry id exchange)
    (deployed : registry.deployed id = .ok (address, artifact)) :
    exchange.2 = .ok address ∧ exchange.1.bytecode = artifact.bytecode ∧
      exchange.1.interface = artifact.interface := by
  obtain ⟨entry, sent, found, artifactNoted, bytecode, interface, known⟩ := noted
  obtain ⟨again, foundAgain, progress⟩ := Registry.deployed_eq_ok_iff.mp deployed
  rw [found] at foundAgain
  cases foundAgain
  rw [progress] at artifactNoted
  cases artifactNoted
  exact ⟨(known address).mp deployed, bytecode, interface⟩

/-- Only what came of an answered deployment is sure to last. -/
theorem Noted.mono {before later : Registry} {exchange : Event.Deployment} (noted : Noted before id exchange)
    (answered : Answered exchange) (lasts : before.Extends later) : Noted later id exchange := by
  obtain ⟨entry, artifact, -, -, bytecode, interface, known⟩ := noted
  obtain ⟨address, answer⟩ := answered
  have deployed := lasts.deployed _ _ ((known address).mpr answer)
  obtain ⟨next, found, progress⟩ := Registry.deployed_eq_ok_iff.mp deployed
  refine ⟨next, artifact, found, by rw [progress], bytecode, interface, fun other => ?_⟩
  rw [deployed, answer]
  simp

theorem noted_mono {before later : Registry} {ids : List ContractId} {made : List Event.Deployment}
    (noted : List.Forall₂ (Noted before) ids made) (answered : ∀ exchange ∈ made, Answered exchange)
    (lasts : before.Extends later) : List.Forall₂ (Noted later) ids made := by
  induction noted with
  | nil => exact .nil
  | cons first rest ih =>
    exact .cons (first.mono (answered _ (List.mem_cons_self ..)) lasts)
      (ih fun exchange member => answered exchange (List.mem_cons_of_mem _ member))

namespace Issued

variable {first second third : Registry} {ids more : List ContractId} {made later : List Event.Deployment}

theorem refl (registry : Registry) : Issued registry registry [] [] where
  lasts := .refl registry
  distinct := List.nodup_nil
  waiting := by simp
  noted := .nil
  complete _ _ deployed := .inl deployed

theorem exchange_at (issued : Issued first second ids made) {place : Nat}
    (there : ids[place]? = some id) : ∃ exchange, made[place]? = some exchange ∧ Noted second id exchange := by
  obtain ⟨length, noted⟩ := List.forall₂_iff_get.mp issued.noted
  obtain ⟨bound, rfl⟩ := List.getElem?_eq_some_iff.mp there
  have boundMade : place < made.length := length ▸ bound
  exact ⟨made[place], List.getElem?_eq_getElem boundMade, noted place bound boundMade⟩

/-- No contract is deployed twice, since what was deployed first waits no longer. -/
theorem trans (sound : first.Sound) (left : Issued first second ids made)
    (answered : ∀ exchange ∈ made, Answered exchange) (right : Issued second third more later) :
    Issued first third (ids ++ more) (made ++ later) where
  lasts := left.lasts.trans right.lasts
  distinct := by
    refine List.nodup_append.mpr ⟨left.distinct, right.distinct, ?_⟩
    rintro id member other memberLater rfl
    obtain ⟨place, there⟩ := List.mem_iff_getElem?.mp member
    obtain ⟨exchange, exchanged, noted⟩ := left.exchange_at there
    obtain ⟨found, deployed⟩ := noted.deployed (answered exchange (List.mem_of_getElem? exchanged))
    exact (right.waiting id memberLater).not_deployed deployed
  waiting := by
    intro id member
    rcases List.mem_append.mp member with member | member
    · exact left.waiting id member
    · exact left.lasts.waiting sound (right.waiting id member)
  noted := List.rel_append (noted_mono left.noted answered right.lasts) right.noted
  complete := by
    intro id found deployed
    rcases right.complete id found deployed with earlier | member
    · rcases left.complete id found earlier with earliest | member
      · exact .inl earliest
      · exact .inr (List.mem_append_left more member)
    · exact .inr (List.mem_append_right ids member)

end Issued

/-- A part of a run that asks for no receipt, that sends some calls, and that deploys the contracts of a
list in their order: all of them, unless it fails. -/
structure Issuing {ε α : Type} (session : Session) (world : World) (order : List ContractId)
    (sent : List Event.Sending) (result : Except ε α)
    (after : Session) (final : World) (steps : Journal) (ids : List ContractId) : Prop where
  leads : world.Leads steps final
  sendings_eq : sendings steps = sent
  noReceipts : receipts steps = []
  within : ids <+: order
  issued : Issued session.registry after.registry ids (deployments steps)
  finished : ∀ value, result = .ok value →
    ids = order ∧ ∀ exchange ∈ deployments steps, Answered exchange

namespace Issuing

variable {ε ε' α β : Type} {order more : List ContractId} {between : Session} {middle : World}
  {sent sentLater : List Event.Sending}
  {steps later : Journal} {ids idsLater : List ContractId}

/-- Nothing is done where nothing has to be deployed. -/
theorem idle (session : Session) (world : World) (value : α) :
    Issuing session world [] [] (.ok value : Except ε α) session world [] [] where
  leads := .refl world
  sendings_eq := rfl
  noReceipts := rfl
  within := List.prefix_rfl
  issued := .refl session.registry
  finished _ _ := ⟨rfl, fun _ member => absurd member List.not_mem_nil⟩

/-- A failure before anything is done. -/
theorem refused (session : Session) (world : World) (order : List ContractId) (fault : ε) :
    Issuing session world order [] (.error fault : Except ε α) session world [] [] where
  leads := .refl world
  sendings_eq := rfl
  noReceipts := rfl
  within := List.nil_prefix
  issued := .refl session.registry
  finished _ same := by cases same

/-- A part that fails leaves out what would have come after it. -/
theorem stop {fault : ε} {fault' : ε'} {longer : List ContractId} (within : order <+: longer)
    (issuing : Issuing session world order sent (.error fault : Except ε α) after final steps ids) :
    Issuing session world longer sent (.error fault' : Except ε' β) after final steps ids :=
  { issuing with
    within := issuing.within.trans within
    finished := fun _ same => by cases same }

/-- Only whether the part went well matters, not the words for it. -/
theorem congr {result : Except ε α} {result' : Except ε' β}
    (went : ∀ value', result' = .ok value' → ∃ value, result = .ok value)
    (issuing : Issuing session world order sent result after final steps ids) :
    Issuing session world order sent result' after final steps ids :=
  { issuing with
    finished := fun value' same => by
      obtain ⟨value, ok⟩ := went value' same
      exact issuing.finished value ok }

theorem append {value : α} {result : Except ε' β} (sound : session.registry.Sound)
    (left : Issuing session world order sent (.ok value : Except ε α) between middle steps ids)
    (right : Issuing between middle more sentLater result after final later idsLater) :
    Issuing session world (order ++ more) (sent ++ sentLater) result after final (steps ++ later)
      (ids ++ idsLater) := by
  obtain ⟨rfl, answered⟩ := left.finished value rfl
  refine ⟨left.leads.trans right.leads, ?_, ?_, (List.prefix_append_right_inj ids).mpr right.within, ?_, ?_⟩
  · rw [sendings_append, left.sendings_eq, right.sendings_eq]
  · rw [receipts_append, left.noReceipts, right.noReceipts, List.nil_append]
  · rw [deployments_append]
    exact left.issued.trans sound answered right.issued
  · intro value same
    obtain ⟨rfl, answeredLater⟩ := right.finished value same
    refine ⟨rfl, fun exchange member => ?_⟩
    rw [deployments_append] at member
    exact (List.mem_append.mp member).elim (answered exchange) (answeredLater exchange)

end Issuing

namespace Outcome

variable {result : Except DeploymentError Ledger.Address}

theorem extends_registry (sound : session.registry.Sound)
    (outcome : Outcome gateway id session outside world result after final) :
    session.registry.Extends after.registry := by
  cases outcome with
  | unknown missing => exact .refl _
  | already found deployed => exact .refl _
  | uncompiled found undeployed missing failed => exact .refl _
  | refused found undeployed ready answered => exact ready.extends_registry sound
  | deployed found undeployed ready answered noted =>
    have prepared := ready.extends_registry sound
    exact prepared.trans (Registry.amend_extends (prepared.sound sound) (Registry.deployed_advances _) noted)

/-- Only the contract itself is touched. -/
theorem get_other (sound : session.registry.Sound)
    (outcome : Outcome gateway id session outside world result after final) {other : ContractId}
    (different : other ≠ id) : after.registry.get other = session.registry.get other := by
  have untouched : ∀ {entry artifact prepared between}, session.registry.get id = .ok entry →
      Prepared session outside world entry artifact prepared between →
      prepared.registry.get other = session.registry.get other := by
    intro entry artifact prepared between found ready
    cases ready with
    | known noted => rfl
    | compiled missing made noted =>
      rw [((Registry.get_eq_ok_iff sound).mp found).2] at noted
      obtain ⟨-, -, -, -, -, others⟩ := Registry.get_of_amend sound (Registry.compiled_advances _) noted
      exact others other different
  cases outcome with
  | unknown missing => rfl
  | already found deployed => rfl
  | uncompiled found undeployed missing failed => rfl
  | refused found undeployed ready answered => exact untouched found ready
  | deployed found undeployed ready answered noted =>
    have prepared := (ready.extends_registry sound).sound sound
    obtain ⟨-, -, -, -, -, others⟩ := Registry.get_of_amend prepared (Registry.deployed_advances _) noted
    exact (others other different).trans (untouched found ready)

/-- For a contract that waits, only the compiler and the ledger can fail. -/
theorem registryFault_of_waiting {fault : DeploymentError} (waiting : session.registry.Waiting id)
    (outcome : Outcome gateway id session outside world (.error fault) after final) :
    fault.registryFault? = none := by
  obtain ⟨entry, found, undeployed⟩ := waiting
  cases outcome with
  | unknown missing => rw [found] at missing; cases missing
  | already foundAgain deployed =>
    rw [found] at foundAgain
    cases foundAgain
    exact absurd deployed undeployed
  | uncompiled foundAgain undeployed missing failed => rfl
  | refused foundAgain undeployed ready answered => rfl

/-- Preparing the artifact adds compilations, the salt is drawn, and then the ledger is asked. -/
theorem leads_of_answer {artifact : Artifact} {prepared : Session} {between : World}
    {answer : Except GatewayError Ledger.Address}
    (ready : Prepared session outside world entry artifact prepared between)
    (answered : gateway.command (.deploy (requestFor artifact outside between)) outside
      (between.record (.salt (outside.salt between.journal))) = (answer, final)) :
    ∃ steps, world.Leads steps final ∧ sendings steps = [] ∧ receipts steps = [] ∧
      deployments steps = [(requestFor artifact outside between, answer)] := by
  obtain ⟨steps, leads, compiling⟩ := ready.leads
  obtain ⟨noDeployments, noSendings, noReceipts⟩ := views_of_compiling compiling
  refine ⟨_, (leads.trans (World.Leads.record between rfl)).trans (Gateway.command_leads answered), ?_, ?_, ?_⟩
  · simp only [sendings_append, noSendings]
    rfl
  · simp only [receipts_append, noReceipts]
    rfl
  · simp only [deployments_append, noDeployments]
    rfl

/-- The one exchange of an outcome, once it is known what the registry has of it. -/
theorem issued_of_noted (sound : session.registry.Sound)
    (outcome : Outcome gateway id session outside world result after final)
    (waiting : session.registry.Waiting id) {exchange : Event.Deployment}
    (noted : Noted after.registry id exchange) :
    Issued session.registry after.registry [id] [exchange] where
  lasts := outcome.extends_registry sound
  distinct := List.nodup_singleton id
  waiting := by simpa using waiting
  noted := .cons noted .nil
  complete other found deployed := by
    by_cases same : other = id
    · exact .inr (by simp [same])
    · rw [Registry.deployed_congr (outcome.get_other sound same)] at deployed
      exact .inl deployed

theorem issuing (sound : session.registry.Sound)
    (outcome : Outcome gateway id session outside world result after final) :
    ∃ steps ids, Issuing session world [id] [] result after final steps ids := by
  have whole := outcome
  cases outcome with
  | unknown missing => exact ⟨[], [], .refused ..⟩
  | already found deployed => exact ⟨[], [], .refused ..⟩
  | @uncompiled entry fault final found undeployed missing failed =>
    obtain ⟨steps, leads, compiling⟩ := World.Leads.exists_of_adds ((session.store.compile_adds _).of_ran failed)
    obtain ⟨noDeployments, noSendings, noReceipts⟩ := views_of_compiling compiling
    refine ⟨steps, [], leads, noSendings, noReceipts, List.nil_prefix, ?_, fun _ same => by cases same⟩
    rw [noDeployments]
    exact .refl _
  | refused found undeployed ready answered =>
    obtain ⟨steps, leads, noSendings, noReceipts, deployment⟩ := leads_of_answer ready answered
    obtain ⟨next, foundNext, phase, artifactNoted⟩ := ready.get_prepared sound found undeployed
    have waiting : after.registry.Waiting id := ⟨next, foundNext, by simp [phase]⟩
    refine ⟨steps, [id], leads, noSendings, noReceipts, List.prefix_rfl, ?_, fun _ same => by cases same⟩
    rw [deployment]
    refine whole.issued_of_noted sound ⟨_, found, undeployed⟩
      ⟨next, _, foundNext, artifactNoted, rfl, rfl, fun address => ⟨?_, ?_⟩⟩
    · intro known
      exact absurd known waiting.not_deployed
    · intro same
      cases same
  | @deployed entry artifact prepared between final address registry found undeployed ready answered noted =>
    obtain ⟨steps, leads, noSendings, noReceipts, deployment⟩ := leads_of_answer ready answered
    obtain ⟨next, foundNext, phase, artifactNoted⟩ := ready.get_prepared sound found undeployed
    have preparedSound := (ready.extends_registry sound).sound sound
    obtain ⟨before, foundBefore, foundAfter⟩ := Registry.get_of_markDeployed preparedSound noted
    rw [foundNext] at foundBefore
    cases foundBefore
    have known : registry.deployed id = .ok (address, artifact) :=
      Registry.deployed_eq_ok_iff.mpr ⟨_, foundAfter, by rw [artifactNoted]⟩
    refine ⟨steps, [id], leads, noSendings, noReceipts, List.prefix_rfl, ?_, ?_⟩
    · rw [deployment]
      refine whole.issued_of_noted sound ⟨_, found, undeployed⟩
        ⟨_, artifact, foundAfter, artifactNoted, rfl, rfl, fun other => ?_⟩
      simp [known]
    · intro value same
      refine ⟨rfl, ?_⟩
      rw [deployment]
      intro exchange member
      rw [List.mem_singleton.mp member]
      exact ⟨address, rfl⟩

end Outcome

/-- A contract that has just been registered is deployed, if it can be compiled and the ledger agrees. -/
theorem deploy_of_answer {contract : Contract} {artifact : Artifact} {store : ArtifactStore} {between : World}
    {address : Ledger.Address} (sound : session.registry.Sound)
    (found : session.registry.get contract.id = .ok (.ofContract contract))
    (made : session.store.compile contract.path outside world = (.ok (artifact, store), between))
    (answered : gateway.command (.deploy (requestFor artifact outside between)) outside
      (between.record (.salt (outside.salt between.journal))) = (.ok address, final)) :
    ∃ registry, deploy gateway contract.id session outside world = (.ok address, ⟨registry, store⟩, final) ∧
      Outcome gateway contract.id session outside world (.ok address) ⟨registry, store⟩ final ∧
      registry.deployed contract.id = .ok (address, artifact) := by
  obtain ⟨result, after, final, ran, outcome⟩ := deploy_outcome gateway contract.id outside world sound
  have whole := outcome
  cases outcome with
  | unknown missing => exact nomatch found.symm.trans missing
  | already again deployed =>
    cases found.symm.trans again
    exact nomatch deployed
  | uncompiled again undeployed missing failed =>
    cases found.symm.trans again
    exact nomatch made.symm.trans failed
  | refused again undeployed ready refused =>
    cases found.symm.trans again
    cases ready with
    | known noted => exact nomatch noted
    | compiled missing remade noted =>
      cases made.symm.trans remade
      exact nomatch answered.symm.trans refused
  | deployed again undeployed ready told noted =>
    cases found.symm.trans again
    obtain ⟨next, foundNext, -, artifactNoted⟩ := ready.get_prepared sound found undeployed
    obtain ⟨before, foundBefore, foundAfter⟩ :=
      Registry.get_of_markDeployed ((ready.extends_registry sound).sound sound) noted
    cases foundNext.symm.trans foundBefore
    cases ready with
    | known standing => cases standing
    | compiled missing remade marked =>
      cases made.symm.trans remade
      cases answered.symm.trans told
      exact ⟨_, ran, whole, Registry.deployed_eq_ok_iff.mpr ⟨_, foundAfter, by rw [artifactNoted]⟩⟩

/-! ### Deploying several contracts -/

/-- Contracts that wait are deployed one after the other until the compiler or the ledger fails. -/
theorem deployEach_issuing (gateway : Gateway) (outside : Outside) (order : List ContractId) :
    ∀ {session : Session} (world : World), session.registry.Sound → order.Nodup →
      (∀ id ∈ order, session.registry.Waiting id) →
      ∃ result after final steps ids, deployEach gateway order session outside world = (result, after, final) ∧
        Issuing session world order [] result after final steps ids ∧
        ∀ fault, result = .error fault → fault.registryFault? = none := by
  induction order with
  | nil =>
    intro session world sound distinct waiting
    exact ⟨.ok (), session, world, [], [], rfl, .idle .., fun _ same => by cases same⟩
  | cons id rest ih =>
    intro session world sound distinct waiting
    obtain ⟨fresh, distinctRest⟩ := List.nodup_cons.mp distinct
    have waits := waiting id (List.mem_cons_self ..)
    obtain ⟨result, between, middle, ran, outcome⟩ := deploy_outcome gateway id outside world sound
    obtain ⟨steps, ids, issuing⟩ := outcome.issuing sound
    cases result with
    | error fault =>
      refine ⟨_, between, middle, steps, ids, Stage.bind_of_error (Stage.discard_of_error ran),
        issuing.stop (List.prefix_append [id] rest), ?_⟩
      rintro _ ⟨⟩
      exact outcome.registryFault_of_waiting waits
    | ok address =>
      -- The rest of the list has not been touched.
      have waitingRest : ∀ other ∈ rest, between.registry.Waiting other := by
        intro other member
        have different : other ≠ id := fun same => fresh (same ▸ member)
        exact (waiting other (List.mem_cons_of_mem id member)).congr (outcome.get_other sound different)
      obtain ⟨result, after, final, later, idsLater, ranRest, issuingRest, faults⟩ :=
        ih middle (issuing.issued.lasts.sound sound) distinctRest waitingRest
      exact ⟨result, after, final, _, _, (Stage.bind_of_ok (Stage.discard_of_ok ran)).trans ranRest,
        issuing.append sound issuingRest, faults⟩

theorem deployAll_issuing (gateway : Gateway) (outside : Outside) (world : World)
    (sound : session.registry.Sound) :
    ∃ result after final steps ids, deployAll gateway session outside world = (result, after, final) ∧
      Issuing session world session.registry.pending [] result after final steps ids ∧
      ∀ fault, result = .error fault → fault.registryFault? = none :=
  deployEach_issuing gateway outside session.registry.pending world sound
    (sound.distinct.sublist Registry.pending_sublist) fun _ member => (Registry.mem_pending_iff sound).mp member

end Deployment

end LedgerCapture
