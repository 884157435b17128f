import LedgerCapture.Toml.Basic

/-!
The settings of a run: how the node is run, through which gateways the ledger is reached, how contracts
are compiled and deployed, and the fixed values of the legacy documents. Each field shows its default.
-/
namespace LedgerCapture

namespace Config

/-- How long to wait for a node: the milliseconds between two probes, and the number of probes. -/
structure Readiness where
  pollInterval : UInt64 := 500
  maxAttempts : UInt32 := 20
  deriving DecidableEq, Repr

/-- How the node is run. Unless `launch` is set, one is running already. -/
structure Node where
  launch : Bool := true
  command : String := "nil"
  arguments : List String := ["run"]
  readiness : Readiness := {}
  /-- The milliseconds that the node has to stop by itself. -/
  shutdownGrace : UInt64 := 5000
  deriving DecidableEq, Repr

/-- The implementations of the wallet and of the lookups, by name, and the tables that configure them.
`rpcEndpoint` is written into new wallet configurations. -/
structure Gateway where
  rpcEndpoint : String
  wallet : String
  lookup : String
  implementations : List (String × Toml)

/-- The program that compiles contracts, and arguments that it gets besides the usual ones. -/
structure Compiler where
  binary : String := "solc"
  extraArguments : List String := []
  deriving DecidableEq, Repr

inductive DeploymentMode where
  /-- all of them before the first call -/
  | eager
  /-- each before the first call that needs it -/
  | lazy
  deriving DecidableEq, Repr

def DeploymentMode.text : DeploymentMode → String
  | eager => "eager"
  | lazy => "lazy"

def DeploymentMode.names : List (String × DeploymentMode) :=
  [("eager", .eager), ("lazy", .lazy)]

structure LegacyHeader where
  parentHash : UInt64 := 0
  number : UInt64 := 1
  gasLimit : UInt64 := 2
  gasUsed : UInt64 := 3
  prevrandao : UInt64 := 4
  chainId : UInt64 := 1
  basefee : UInt64 := 55
  blobBasefee : UInt64 := 55
  timestamp : UInt64 := 5
  deriving DecidableEq, Repr

/-- The values of the legacy documents that no run decides. -/
structure Legacy where
  coinbase : String := "0x0000000000000000000000000000000000000005"
  header : LegacyHeader := {}
  transactionType : String := "MessageCall"
  transactionNonce : UInt64 := 0
  contractBalance : UInt64 := 0
  walletBalance : UInt64 := 1000000
  deriving DecidableEq, Repr

end Config

/-- All settings of a run. Without a directory for artifacts the system's temporary one is used. -/
structure Config where
  node : Config.Node
  gateway : Config.Gateway
  compiler : Config.Compiler
  artifactDirectory : Option String
  deploymentMode : Config.DeploymentMode
  legacy : Config.Legacy

end LedgerCapture
