import LedgerCapture.Config.Reader
import LedgerCapture.Engine.Assembly
import LedgerCapture.Proofs.Config.Acceptance
import LedgerCapture.Proofs.Node.Attempts
import LedgerCapture.Proofs.Result

/-!
What settings can rely on once they have been read. The rules concern several settings at once; the engine and the
wait for the node each have a branch that the rules keep them out of.
-/
namespace LedgerCapture

namespace Config

/-- A name that is not empty, with an entry among the implementations. Whether the entry is a table is left to the
schema of the implementation. -/
def Registered (implementations : List (String × Toml)) (name : String) : Prop :=
  name ≠ "" ∧ ∃ entry, implementations.lookup name = some entry

structure Ruled (config : Config) : Prop where
  command : config.node.launch = true → config.node.command ≠ ""
  interval : 1 ≤ config.node.readiness.pollInterval.toNat
  attempts : 1 ≤ config.node.readiness.maxAttempts.toNat ∧ config.node.readiness.maxAttempts.toNat ≤ 600
  wallet : Registered config.gateway.implementations config.gateway.wallet
  lookup : Registered config.gateway.implementations config.gateway.lookup
  compiler : config.compiler.binary ≠ ""

theorem require_eq_ok_iff {rule : Bool} {reason : String} : require rule reason = .ok () ↔ rule = true := by
  cases rule <;> simp [require]

theorem checkRole_eq_ok_iff {implementations : List (String × Toml)} {role name : String} :
    checkRole implementations role name = .ok () ↔ Registered implementations name := by
  have present : implementations.any (·.1 == name) = true ↔ ∃ entry, implementations.lookup name = some entry := by
    rw [← Option.isSome_iff_exists, List.lookup_isSome_iff, List.any_eq_true]
    simp only [beq_iff_eq, eq_comm (a := name)]
  rw [checkRole, unit_bind_eq_ok_iff, require_eq_ok_iff, require_eq_ok_iff, present, bne_iff_ne, Registered]

theorem Registered.isEmpty_eq_false {implementations : List (String × Toml)} {name : String}
    (registered : Registered implementations name) : implementations.isEmpty = false := by
  obtain ⟨-, entry, found⟩ := registered
  cases implementations with
  | nil => cases found
  | cons entry rest => rfl

theorem pollInterval_iff {interval : UInt64} : (interval != 0) = true ↔ 1 ≤ interval.toNat := by
  rw [bne_iff_ne, Nat.one_le_iff_ne_zero, ne_eq, ← UInt64.toNat_inj]
  rfl

theorem maxAttempts_iff {attempts : UInt32} :
    (attempts != 0 && attempts ≤ 600) = true ↔ 1 ≤ attempts.toNat ∧ attempts.toNat ≤ 600 := by
  rw [Bool.and_eq_true, bne_iff_ne, decide_eq_true_eq, Nat.one_le_iff_ne_zero, ne_eq, ← UInt32.toNat_inj,
    UInt32.le_iff_toNat_le]
  rfl

theorem command_iff {launch : Bool} {command : String} :
    (!(launch && command == "")) = true ↔ (launch = true → command ≠ "") := by
  cases launch <;> simp

/-- The checks are those of the rules. -/
theorem validate_eq_ok_iff {config : Config} : config.validate = .ok () ↔ config.Ruled := by
  unfold validate
  simp only [unit_bind_eq_ok_iff, require_eq_ok_iff, checkRole_eq_ok_iff, command_iff, pollInterval_iff, maxAttempts_iff]
  constructor
  · rintro ⟨command, interval, attempts, -, wallet, lookup, compiler⟩
    exact ⟨command, interval, attempts, wallet, lookup, bne_iff_ne.mp compiler⟩
  · intro ruled
    have some : (!config.gateway.implementations.isEmpty) = true := by
      rw [ruled.wallet.isEmpty_eq_false]
      rfl
    exact ⟨ruled.command, ruled.interval, ruled.attempts, some, ruled.wallet, ruled.lookup,
      bne_iff_ne.mpr ruled.compiler⟩

theorem ruled_of_parse {environment : Environment} {text : String} {config : Config}
    (parsed : parse environment text = .ok config) : config.Ruled := by
  obtain ⟨resolved, -, parsed⟩ := bind_eq_ok_iff.mp parsed
  obtain ⟨read, -, parsed⟩ := bind_eq_ok_iff.mp parsed
  obtain ⟨valid, same⟩ := unit_bind_eq_ok_iff.mp parsed
  rw [pure_eq_ok_iff] at same
  subst same
  exact validate_eq_ok_iff.mp valid

end Config

/-! ### Putting an engine together -/

def AssemblyError.MissesEntry (fault : AssemblyError) : Prop :=
  ∃ rest, fault.message = "Configuration error: No configuration for " ++ rest

theorem AssemblyError.not_missesEntry {fault : AssemblyError}
    (other : ∀ role name, fault ≠ .unconfigured role name) : ¬fault.MissesEntry := by
  rintro ⟨rest, same⟩
  revert same
  cases fault with
  | unconfigured role name => exact absurd rfl (other role name)
  | unknown role name =>
    show "Configuration error: Unknown " ++ _ ++ _ ++ _ ++ _ ≠ _
    simp only [String.append_assoc]
    exact BlockConfig.append_ne_append 21 (by decide) (by decide) (by decide) _ _
  | refused role name fault =>
    show "Configuration error: Failed to create " ++ _ ++ _ ++ _ ++ _ ++ _ ≠ _
    simp only [String.append_assoc]
    exact BlockConfig.append_ne_append 21 (by decide) (by decide) (by decide) _ _
  | invalid role name fault =>
    show "Configuration error: Invalid configuration for " ++ _ ++ _ ++ _ ++ _ ++ _ ≠ _
    simp only [String.append_assoc]
    exact BlockConfig.append_ne_append 21 (by decide) (by decide) (by decide) _ _

namespace Engine

variable {config : Config}

/-- Whatever implementations are known, a registered one is not missed. -/
theorem makeHalf_not_missesEntry {α : Type} {role : GatewayRole} {schema : α → Schema}
    {known : List (String × Factory α)} {tables : List (String × Toml)} {context : GatewayContext} {name : String}
    {fault : AssemblyError} (registered : Config.Registered tables name)
    (failed : makeHalf role schema known tables context name = .error fault) : ¬fault.MissesEntry := by
  obtain ⟨-, entry, configured⟩ := registered
  apply AssemblyError.not_missesEntry
  rintro other missing rfl
  unfold makeHalf at failed
  cases listed : known.lookup name with
  | none => simp [listed] at failed
  | some factory =>
    simp only [listed, configured, bind_eq_error_iff, mapError_eq_error_iff] at failed
    rcases failed with ⟨cause, -, impossible⟩ | ⟨half, -, failed⟩
    · cases impossible
    · rcases failed with ⟨cause, -, impossible⟩ | ⟨done, -, impossible⟩
      · cases impossible
      · cases impossible

theorem assemble_not_missesEntry {context : GatewayContext} {compiler : Option Compiler} {fault : AssemblyError}
    (ruled : config.Ruled) (failed : assemble config context compiler = .error fault) : ¬fault.MissesEntry := by
  rw [assemble, bind_pure_eq_error_iff, makeGateway, bind_eq_error_iff] at failed
  rcases failed with failed | ⟨wallet, -, failed⟩
  · exact makeHalf_not_missesEntry ruled.wallet failed
  · rw [bind_pure_eq_error_iff] at failed
    exact makeHalf_not_missesEntry ruled.lookup failed

end Engine

/-! ### Waiting for the node -/

/-- No fault has the text that a wait starts with. -/
theorem GatewayError.message_ne_unprobed (fault : GatewayError) : fault.message ≠ "no probe attempted" := by
  have apart {front : String} (some : 0 < front.toList.length) (other : front.toList[0]? ≠ "n".toList[0]?)
      (more : String) : front ++ more ≠ "n" ++ "o probe attempted" :=
    BlockConfig.append_ne_append 0 some (by decide) other more _
  cases fault with
  | launch command reason =>
    show "Failed to launch '" ++ _ ++ _ ++ _ ≠ _
    simp only [String.append_assoc]
    exact apart (by decide) (by decide) _
  | commandFailed command output =>
    show "Command '" ++ _ ++ _ ++ _ ≠ _
    simp only [String.append_assoc]
    exact apart (by decide) (by decide) _
  | unexpectedOutput command reason =>
    show "Unexpected output from '" ++ _ ++ _ ++ _ ≠ _
    simp only [String.append_assoc]
    exact apart (by decide) (by decide) _
  | http reason =>
    show "HTTP error: " ++ _ ≠ _
    exact apart (by decide) (by decide) _
  | rpc method code reason =>
    show "RPC error " ++ _ ++ _ ++ _ ++ _ ++ _ ≠ _
    simp only [String.append_assoc]
    exact apart (by decide) (by decide) _
  | configuration reason =>
    show "Configuration error: " ++ _ ≠ _
    exact apart (by decide) (by decide) _
  | unsupported operation implementation =>
    -- The only message that starts with what it is about; it ends in another letter.
    intro same
    have last := congrArg (fun text : String => text.toList.getLast?) same
    have ending (front : String) : (front ++ "' gateway").toList.getLast? = some 'y' := by
      rw [String.toList_append, List.getLast?_append]
      rfl
    exact absurd ((ending _).symm.trans last) (by decide)

namespace Node

/-- What comes of a wait for a node under the rules. Only a node that has ended before the first probe is not
probed. -/
structure Bounded (node : Node) (world : World) (result : Except NodeError Unit) (after : World) : Prop where
  most : Journal.probeCount (world.since after) ≤ 600
  least : Journal.probeCount (world.since after) = 0 → node.owned = true ∧
    ∃ status reason, status.end? = some reason ∧ result = .error (.exited reason) ∧
      world.Leads [.checked status] after
  told : ∀ attempts lastError, result = .error (.notReady attempts lastError) → lastError ≠ "no probe attempted"

theorem waitReady_bounded {config : Config} (ruled : config.Ruled) (node : Node) (gateway : Gateway)
    (outside : Outside) (world : World) :
    ∃ result after, node.waitReady gateway config.node.readiness outside world = (result, after) ∧
      node.Bounded world result after := by
  obtain ⟨positive, most⟩ := ruled.attempts
  obtain ⟨probes, rounds, result, after, waited, decision, leads⟩ :=
    node.waitReady_course gateway config.node.readiness outside positive world
  refine ⟨result, after, waited, ?_, ?_, ?_⟩
  · rw [decision.probeCount_since leads]
    cases decision with
    | ended early owned seen => omega
    | ready early => omega
    | exhausted all => exact most
  · rw [decision.probeCount_since leads]
    intro none
    cases decision with
    | @ended faults status reason early owned seen =>
      rw [List.length_eq_zero_iff] at none
      subst none
      rw [List.map_nil, List.nil_append, paced_single] at leads
      exact ⟨owned, status, reason, seen, rfl, leads⟩
    | ready early => omega
    | exhausted all => omega
  · rintro attempts lastError rfl
    cases decision with
    | @exhausted faults last all => exact last.message_ne_unprobed

end Node

/-! ### The whole -/

/-- Settings that were read keep to the rules. So no implementation that they name is missed when an engine is put
together, whichever are known, and a wait under them makes at most 600 probes, and at least one unless the node has
ended before; so it never tells that none was made. -/
theorem guarantees_of_parse {environment : Config.Environment} {text : String} {config : Config}
    (parsed : Config.parse environment text = .ok config) :
    config.Ruled ∧
    (∀ context compiler fault, Engine.assemble config context compiler = .error fault → ¬fault.MissesEntry) ∧
    (∀ known context fault, Engine.makeHalf .wallet Wallet.schema known config.gateway.implementations context
      config.gateway.wallet = .error fault → ¬fault.MissesEntry) ∧
    (∀ known context fault, Engine.makeHalf .lookup Lookup.schema known config.gateway.implementations context
      config.gateway.lookup = .error fault → ¬fault.MissesEntry) ∧
    ∀ (node : Node) (gateway : Gateway) (outside : Outside) (world : World),
      ∃ result after, node.waitReady gateway config.node.readiness outside world = (result, after) ∧
        node.Bounded world result after := by
  have ruled := Config.ruled_of_parse parsed
  exact ⟨ruled, fun _ _ _ => Engine.assemble_not_missesEntry ruled,
    fun _ _ _ => Engine.makeHalf_not_missesEntry ruled.wallet,
    fun _ _ _ => Engine.makeHalf_not_missesEntry ruled.lookup, Node.waitReady_bounded ruled⟩

def numberedText : String :=
  "[gateway]\nwallet = \"cli\"\nlookup = \"cli\"\n[gateway.implementations]\ncli = 5\n"

theorem exists_parse_numberedText :
    ∃ config, Config.parse (fun _ => none) numberedText = .ok config ∧ config.node.readiness = {} ∧
      (config.gateway.implementations.lookup config.gateway.wallet).bind Toml.integer? = some 5 := by
  have accepted : ((Config.parse (fun _ => none) numberedText).toOption.any fun config =>
      decide (config.node.readiness = {} ∧
        (config.gateway.implementations.lookup config.gateway.wallet).bind Toml.integer? = some 5)) = true := by
    decide +kernel
  cases parsed : Config.parse (fun _ => none) numberedText with
  | error fault =>
    rw [parsed] at accepted
    cases accepted
  | ok config =>
    rw [parsed] at accepted
    exact ⟨config, rfl, of_decide_eq_true accepted⟩

/-- The rules hold for them all the same. -/
theorem guarantees_of_numberedText :
    ∃ config, Config.parse (fun _ => none) numberedText = .ok config ∧ config.Ruled := by
  obtain ⟨config, parsed, -, -⟩ := exists_parse_numberedText
  exact ⟨config, parsed, (guarantees_of_parse parsed).1⟩

/-- The entry of an implementation need not be a table, and a node that has ended before the wait for it is never
probed. -/
theorem unprobed_wait_of_numbered_settings :
    let outside : Outside := { Rehearsal.outside ⟨[], []⟩ "/tmp" [] with nodeStatus := fun _ => .exited "exit status: 0" }
    let world : World := ⟨⟨[], []⟩, []⟩
    ∃ config after, Config.parse (fun _ => none) numberedText = .ok config ∧
      config.gateway.implementations.lookup config.gateway.wallet = some (.integer 5) ∧
      Node.waitReady ⟨true, 5000⟩ (Rehearsal.gateway []) config.node.readiness outside world =
        (.error (.exited "exit status: 0"), after) ∧
      Journal.probeCount (world.since after) = 0 := by
  intro outside world
  obtain ⟨config, parsed, readiness, entry⟩ := exists_parse_numberedText
  refine ⟨config, world.record (.checked (.exited "exit status: 0")), parsed, ?_, ?_, rfl⟩
  · obtain ⟨value, found, number⟩ := Option.bind_eq_some_iff.mp entry
    cases value with
    | integer value =>
      cases number
      exact found
    | _ => cases number
  · rw [readiness]
    rfl

end LedgerCapture
