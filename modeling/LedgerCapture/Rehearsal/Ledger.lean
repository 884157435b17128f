import LedgerCapture.Gateway.Basic

/-!
A ledger that follows a script. Each command has a list of answers of its own, of which the last one is
repeated; without a list the uses of the command are counted.
-/
namespace LedgerCapture

def WalletCommand.name : WalletCommand → String
  | initConfig _ => "init_config"
  | generateKey => "generate_key"
  | createWallet => "create_wallet"
  | walletAddress => "wallet_address"
  | deploy _ => "deploy"
  | send _ => "send"

def LookupCommand.name : LookupCommand → String
  | probe => "probe"
  | receipt _ => "receipt"
  | block _ _ => "block"
  | contractState _ _ => "contract_state"

namespace Rehearsal

abbrev LedgerScript := List (String × List (Except GatewayError Json))

def commandName? : Event → Option String
  | .wallet command _ => some command.name
  | .lookup command _ => some command.name
  | _ => none

def useCount (name : String) (journal : Journal) : Nat :=
  (journal.filter fun event => commandName? event == some name).length

/-- A number as at least four hexadecimal digits. -/
def countText (number : Nat) : String :=
  let digits := Nat.toDigits 16 number
  "0x" ++ String.ofList (List.replicate (4 - digits.length) '0' ++ digits)

def nextAnswer (script : LedgerScript) (name : String) (journal : Journal) : Except GatewayError Json :=
  let count := useCount name journal
  match (script.lookup name).bind fun answers => (answers[count]?).or answers.getLast? with
  | some answer => answer
  | none => .ok (.string (countText (count + 1)))

def textOf (name : String) : Json → Except GatewayError String
  | .string text => .ok text
  | _ => .error (.unexpectedOutput name "the answer is no text")

def addressOf (name : String) (answer : Json) : Except GatewayError Ledger.Address := do
  (Ledger.Address.parse (← textOf name answer)).mapError fun fault => .unexpectedOutput name fault.message

def receiptOf (name : String) (answer : Json) : Except GatewayError Ledger.Receipt :=
  (Ledger.Receipt.read .ofDocument (.ofJson answer)).mapError fun fault =>
    .unexpectedOutput name fault.message

def walletReply (command : WalletCommand) (answer : Json) : Except GatewayError command.Reply :=
  match command with
  | .initConfig _ => .ok ()
  | .generateKey => textOf "generate_key" answer
  | .createWallet => addressOf "create_wallet" answer
  | .walletAddress => addressOf "wallet_address" answer
  | .deploy _ => addressOf "deploy" answer
  | .send _ => (textOf "send" answer).map fun text => ⟨text⟩

def lookupReply (command : LookupCommand) (answer : Json) : Except GatewayError command.Reply :=
  match command with
  | .probe => .ok ()
  | .receipt _ => receiptOf "receipt" answer
  | .block _ _ => .ok answer
  | .contractState _ _ => .ok answer

def wallet (script : LedgerScript) : Wallet where
  schema := .mk [] [] false
  perform command := fun _ world =>
    (nextAnswer script command.name world.journal >>= walletReply command, world)
  perform_adds _ := fun _ world => .refl world

def lookup (script : LedgerScript) : Lookup where
  schema := .mk [] [] false
  perform command := fun _ world =>
    (nextAnswer script command.name world.journal >>= lookupReply command, world)
  perform_adds _ := fun _ world => .refl world

def gateway (script : LedgerScript) : Gateway :=
  ⟨wallet script, lookup script⟩

end Rehearsal

end LedgerCapture
