import LedgerCapture.Config.Settings

/-!
Settings as a document, with nothing left out.
-/
namespace LedgerCapture.Config

def strings (texts : List String) : Json :=
  .list (texts.map .string)

def natural (value : UInt64) : Json :=
  .ofNat value.toNat

def Readiness.toJson (readiness : Readiness) : Json :=
  .object [("poll_interval_ms", natural readiness.pollInterval),
    ("max_attempts", .ofNat readiness.maxAttempts.toNat)]

def Node.toJson (node : Node) : Json :=
  .object [("launch", .boolean node.launch), ("command", .string node.command),
    ("args", strings node.arguments), ("readiness", node.readiness.toJson),
    ("shutdown_grace_ms", natural node.shutdownGrace)]

def Gateway.toJson (gateway : Gateway) : Json :=
  .object [("rpc_endpoint", .string gateway.rpcEndpoint), ("wallet", .string gateway.wallet),
    ("lookup", .string gateway.lookup),
    ("implementations", .object (gateway.implementations.map fun entry => (entry.1, entry.2.toJson)))]

def Compiler.toJson (compiler : Compiler) : Json :=
  .object [("binary", .string compiler.binary), ("extra_args", strings compiler.extraArguments)]

def LegacyHeader.toJson (header : LegacyHeader) : Json :=
  .object [("parent_hash", natural header.parentHash), ("number", natural header.number),
    ("gas_limit", natural header.gasLimit), ("gas_used", natural header.gasUsed),
    ("prevrandao", natural header.prevrandao), ("chain_id", natural header.chainId),
    ("basefee", natural header.basefee), ("blob_basefee", natural header.blobBasefee),
    ("timestamp", natural header.timestamp)]

def Legacy.toJson (legacy : Legacy) : Json :=
  .object [("coinbase", .string legacy.coinbase), ("header", legacy.header.toJson),
    ("transaction_type", .string legacy.transactionType),
    ("transaction_nonce", natural legacy.transactionNonce),
    ("contract_balance", natural legacy.contractBalance),
    ("wallet_balance", natural legacy.walletBalance)]

/-- All settings. A directory for artifacts that is not set is null. -/
def toJson (config : Config) : Json :=
  .object [("node", config.node.toJson), ("gateway", config.gateway.toJson),
    ("compiler", config.compiler.toJson),
    ("artifacts", .object [("base_dir",
      match config.artifactDirectory with
      | some path => .string path
      | none => .null)]),
    ("deployment", .object [("mode", .string config.deploymentMode.text)]),
    ("legacy", config.legacy.toJson)]

end LedgerCapture.Config
