import LedgerCapture.Engine.Assembly
import LedgerCapture.Proofs.Config.Block
import LedgerCapture.Proofs.Gateway.Table

/-!
What an engine of the settings consists of: of each half there is a table, and the implementation of its name
made the half from it.
-/
namespace LedgerCapture

section Known

variable {name : String} {table : Toml} {context : GatewayContext}

theorem eq_of_known_wallet {factory : Factory Wallet} (known : walletImplementations.lookup name = some factory) :
    name = "cli" ∧ factory = fun table context => .ok (WalletProgram.ofTable context table).wallet := by
  rw [walletImplementations, List.lookup_cons] at known
  split at known
  · next same => exact ⟨eq_of_beq same, (Option.some.inj known).symm⟩
  · cases known

theorem eq_of_known_lookup {factory : Factory Lookup} (known : lookupImplementations.lookup name = some factory) :
    name = "cli" ∧ (factory = fun table context => .ok (WalletProgram.ofTable context table).lookup) ∨
      name = "rpc" ∧ factory = fun table _ => (RemoteNode.ofTable table).map RemoteNode.lookup := by
  rw [lookupImplementations, List.lookup_cons] at known
  split at known
  · next same => exact .inl ⟨eq_of_beq same, (Option.some.inj known).symm⟩
  · rw [List.lookup_cons] at known
    split at known
    · next same => exact .inr ⟨eq_of_beq same, (Option.some.inj known).symm⟩
    · cases known

/-- The only wallet is the wallet program. -/
theorem wallet_of_known {factory : Factory Wallet} {wallet : Wallet}
    (known : walletImplementations.lookup name = some factory) (made : factory table context = .ok wallet) :
    wallet = (WalletProgram.ofTable context table).wallet := by
  obtain ⟨-, rfl⟩ := eq_of_known_wallet known
  cases made
  rfl

theorem lookup_of_known {factory : Factory Lookup} {lookup : Lookup}
    (known : lookupImplementations.lookup name = some factory) (made : factory table context = .ok lookup) :
    lookup = (WalletProgram.ofTable context table).lookup ∨
      ∃ node, RemoteNode.ofTable table = .ok node ∧ lookup = node.lookup := by
  obtain ⟨-, rfl⟩ | ⟨-, rfl⟩ := eq_of_known_lookup known
  · cases made
    exact .inl rfl
  · obtain ⟨node, read, same⟩ := map_eq_ok_iff.mp made
    exact .inr ⟨node, read, same.symm⟩

end Known

namespace Engine

/-- A half of a gateway comes from the table of its name, which fits its schema. -/
theorem makeHalf_eq_ok_iff {α : Type} {role : GatewayRole} {schema : α → Schema}
    {known : List (String × Factory α)} {tables : List (String × Toml)} {context : GatewayContext}
    {name : String} {half : α} :
    makeHalf role schema known tables context name = .ok half ↔
      ∃ factory table, known.lookup name = some factory ∧ tables.lookup name = some table ∧
        factory table context = .ok half ∧ table.validate (schema half) = .ok () := by
  unfold makeHalf
  cases registered : known.lookup name with
  | none => simp
  | some factory =>
    cases configured : tables.lookup name with
    | none => simp
    | some table =>
      constructor
      · intro made
        obtain ⟨value, built, checked⟩ := bind_eq_ok_iff.mp made
        obtain ⟨done, valid, same⟩ := bind_eq_ok_iff.mp checked
        cases same
        exact ⟨factory, table, rfl, rfl, mapError_eq_ok_iff.mp built, mapError_eq_ok_iff.mp valid⟩
      · rintro ⟨_, _, ⟨⟩, ⟨⟩, built, valid⟩
        exact bind_eq_ok_iff.mpr ⟨half, mapError_eq_ok_iff.mpr built,
          bind_eq_ok_iff.mpr ⟨(), mapError_eq_ok_iff.mpr valid, rfl⟩⟩

/-- An engine has the half of either name, and the compiler of the settings unless another one is given. -/
theorem assemble_eq_ok_iff {config : Config} {context : GatewayContext} {compiler : Option Compiler} {engine : Engine} :
    assemble config context compiler = .ok engine ↔
      ∃ wallet lookup, makeHalf .wallet Wallet.schema walletImplementations config.gateway.implementations context
          config.gateway.wallet = .ok wallet ∧
        makeHalf .lookup Lookup.schema lookupImplementations config.gateway.implementations context
          config.gateway.lookup = .ok lookup ∧
        engine = ⟨config, ⟨wallet, lookup⟩, compiler.getD (.ofProgram config.compiler)⟩ := by
  constructor
  · intro assembled
    obtain ⟨gateway, made, same⟩ := bind_eq_ok_iff.mp assembled
    obtain ⟨wallet, madeWallet, made⟩ := bind_eq_ok_iff.mp made
    obtain ⟨lookup, madeLookup, sameGateway⟩ := bind_eq_ok_iff.mp made
    cases sameGateway
    cases same
    exact ⟨wallet, lookup, madeWallet, madeLookup, rfl⟩
  · rintro ⟨wallet, lookup, madeWallet, madeLookup, rfl⟩
    have made : makeGateway config.gateway context = .ok ⟨wallet, lookup⟩ :=
      bind_eq_ok_iff.mpr ⟨wallet, madeWallet, bind_eq_ok_iff.mpr ⟨lookup, madeLookup, rfl⟩⟩
    exact bind_eq_ok_iff.mpr ⟨_, made, rfl⟩

/-- With a table for the wallet program that fits, the program can be both halves. -/
theorem assemble_of_program {config : Config} {table : Toml} (wallet : config.gateway.wallet = "cli")
    (lookup : config.gateway.lookup = "cli") (configured : config.gateway.implementations.lookup "cli" = some table)
    (fits : table.validate WalletProgram.schema = .ok ()) (context : GatewayContext) (compiler : Option Compiler) :
    assemble config context compiler = .ok ⟨config,
      ⟨(WalletProgram.ofTable context table).wallet, (WalletProgram.ofTable context table).lookup⟩,
      compiler.getD (.ofProgram config.compiler)⟩ := by
  refine assemble_eq_ok_iff.mpr ⟨_, _, ?_, ?_, rfl⟩
  · rw [wallet]
    exact makeHalf_eq_ok_iff.mpr ⟨_, table, rfl, configured, rfl, fits⟩
  · rw [lookup]
    exact makeHalf_eq_ok_iff.mpr ⟨_, table, rfl, configured, rfl, fits⟩

structure Assembled (config : Config) (context : GatewayContext) (engine : Engine) : Prop where
  wallet : ∃ table, config.gateway.implementations.lookup config.gateway.wallet = some table ∧
    engine.gateway.wallet = (WalletProgram.ofTable context table).wallet
  lookup : (∃ table, config.gateway.implementations.lookup config.gateway.lookup = some table ∧
      engine.gateway.lookup = (WalletProgram.ofTable context table).lookup) ∨
    ∃ table node, config.gateway.implementations.lookup config.gateway.lookup = some table ∧
      RemoteNode.ofTable table = .ok node ∧ engine.gateway.lookup = node.lookup
  compiler : engine.compiler = .ofProgram config.compiler

theorem assembled_of_assemble {config : Config} {context : GatewayContext} {engine : Engine}
    (assembled : assemble config context none = .ok engine) : Assembled config context engine := by
  obtain ⟨wallet, lookup, madeWallet, madeLookup, rfl⟩ := assemble_eq_ok_iff.mp assembled
  refine ⟨?_, ?_, rfl⟩
  · obtain ⟨factory, table, known, configured, built, -⟩ := makeHalf_eq_ok_iff.mp madeWallet
    exact ⟨table, configured, wallet_of_known known built⟩
  · obtain ⟨factory, table, known, configured, built, -⟩ := makeHalf_eq_ok_iff.mp madeLookup
    rcases lookup_of_known known built with same | ⟨node, read, same⟩
    · exact .inl ⟨table, configured, same⟩
    · exact .inr ⟨table, node, configured, read, same⟩

/-! ### Halves and their tables -/

inductive WalletOf (context : GatewayContext) (table : Toml) : String → Wallet → Prop where
  | program {program : WalletProgram} (valid : table.validate WalletProgram.schema = .ok ())
      (reproduces : program.Reproduces context table) : WalletOf context table "cli" program.wallet

inductive LookupOf (context : GatewayContext) (table : Toml) : String → Lookup → Prop where
  | program {program : WalletProgram} (valid : table.validate WalletProgram.schema = .ok ())
      (reproduces : program.Reproduces context table) : LookupOf context table "cli" program.lookup
  | remote {node : RemoteNode} (valid : table.validate RemoteNode.schema = .ok ())
      (reproduces : node.Reproduces table) : LookupOf context table "rpc" node.lookup

section Making

variable {name : String} {table : Toml} {context : GatewayContext}

theorem walletOf_of_known {factory : Factory Wallet} {wallet : Wallet}
    (known : walletImplementations.lookup name = some factory) (made : factory table context = .ok wallet)
    (valid : table.validate wallet.schema = .ok ()) : WalletOf context table name wallet := by
  obtain ⟨rfl, rfl⟩ := eq_of_known_wallet known
  cases made
  exact .program valid (WalletProgram.reproduces_of_validate valid context)

theorem lookupOf_of_known {factory : Factory Lookup} {lookup : Lookup}
    (known : lookupImplementations.lookup name = some factory) (made : factory table context = .ok lookup)
    (valid : table.validate lookup.schema = .ok ()) : LookupOf context table name lookup := by
  obtain ⟨rfl, rfl⟩ | ⟨rfl, rfl⟩ := eq_of_known_lookup known
  · cases made
    exact .program valid (WalletProgram.reproduces_of_validate valid context)
  · obtain ⟨node, read, rfl⟩ := map_eq_ok_iff.mp made
    obtain ⟨other, readToo, reproduces⟩ := RemoteNode.exists_reproduces_of_validate valid
    cases read.symm.trans readToo
    exact .remote valid reproduces

end Making

/-- What an engine is made of reproduces the tables that the settings name, and these fit their schemas. The other
way round, a table that the schema of an implementation accepts is accepted by the implementation. -/
theorem assemble_reproduces :
    (∀ (config : Config) (context : GatewayContext) (compiler : Option Compiler) (engine : Engine),
      assemble config context compiler = .ok engine →
        (∃ table, config.gateway.implementations.lookup config.gateway.wallet = some table ∧
          WalletOf context table config.gateway.wallet engine.gateway.wallet) ∧
        ∃ table, config.gateway.implementations.lookup config.gateway.lookup = some table ∧
          LookupOf context table config.gateway.lookup engine.gateway.lookup) ∧
    ∀ (context : GatewayContext) (table : Toml),
      (table.validate WalletProgram.schema = .ok () → ∀ factory, walletImplementations.lookup "cli" = some factory →
        ∃ wallet, factory table context = .ok wallet ∧ WalletOf context table "cli" wallet) ∧
      (table.validate WalletProgram.schema = .ok () → ∀ factory, lookupImplementations.lookup "cli" = some factory →
        ∃ lookup, factory table context = .ok lookup ∧ LookupOf context table "cli" lookup) ∧
      (table.validate RemoteNode.schema = .ok () → ∀ factory, lookupImplementations.lookup "rpc" = some factory →
        ∃ lookup, factory table context = .ok lookup ∧ LookupOf context table "rpc" lookup) := by
  refine ⟨fun config context compiler engine assembled => ?_, fun context table => ⟨?_, ?_, ?_⟩⟩
  · obtain ⟨wallet, lookup, madeWallet, madeLookup, rfl⟩ := assemble_eq_ok_iff.mp assembled
    constructor
    · obtain ⟨factory, table, known, configured, built, valid⟩ := makeHalf_eq_ok_iff.mp madeWallet
      exact ⟨table, configured, walletOf_of_known known built valid⟩
    · obtain ⟨factory, table, known, configured, built, valid⟩ := makeHalf_eq_ok_iff.mp madeLookup
      exact ⟨table, configured, lookupOf_of_known known built valid⟩
  · rintro valid factory ⟨⟩
    exact ⟨_, rfl, .program valid (WalletProgram.reproduces_of_validate valid context)⟩
  · rintro valid factory ⟨⟩
    exact ⟨_, rfl, .program valid (WalletProgram.reproduces_of_validate valid context)⟩
  · rintro valid factory ⟨⟩
    obtain ⟨node, read, reproduces⟩ := RemoteNode.exists_reproduces_of_validate valid
    exact ⟨node.lookup, map_eq_ok_iff.mpr ⟨node, read, rfl⟩, .remote valid reproduces⟩

def remoteSettings : Config :=
  ⟨{}, ⟨"http://localhost", "cli", "rpc",
    [("cli", .table [("probe_args", .list [.string "block", .string "1"])]),
      ("rpc", .table [("endpoint", .string "http://localhost"), ("timeout_seconds", .integer 600)])]⟩,
    {}, none, .eager, {}⟩

theorem assemble_reproduces_of_remote :
    ∃ engine, assemble remoteSettings ⟨none⟩ none = .ok engine ∧
      ∃ table, remoteSettings.gateway.implementations.lookup "rpc" = some table ∧
        LookupOf ⟨none⟩ table "rpc" engine.gateway.lookup := by
  have made : (assemble remoteSettings ⟨none⟩ none).isOk = true := by decide +kernel
  cases assembled : assemble remoteSettings ⟨none⟩ none with
  | error fault =>
    rw [assembled] at made
    cases made
  | ok engine => exact ⟨engine, rfl, (assemble_reproduces.1 _ _ _ engine assembled).2⟩

end Engine

end LedgerCapture
