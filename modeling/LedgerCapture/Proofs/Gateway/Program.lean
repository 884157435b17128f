import LedgerCapture.Proofs.Decimal.Integer
import LedgerCapture.Proofs.Gateway.Failure
import LedgerCapture.Proofs.Ledger.Address

/-!
Operations of a wallet program. Each is carried out by one start of the program, a new configuration by two; the words
of a start hold all that was requested, and the result is read off one text.
-/
namespace LedgerCapture

/-! ### What is asked of the program -/

/-- The words of the starts that carry out a command, in order. -/
def WalletCommand.starts : WalletCommand → List (List String)
  | .initConfig endpoint => [["config", "init"], ["config", "set", "rpc_endpoint", endpoint]]
  | .generateKey => [["keygen", "new"]]
  | .createWallet => [["wallet", "new"]]
  | .walletAddress => [["wallet", "info"]]
  | .deploy request =>
    [["wallet", "deploy", request.bytecode, "--abi", request.interface, "--salt", toString request.salt.toNat]]
  | .send request =>
    [["wallet", "send-message", request.address.text, request.method] ++ request.arguments ++
      ["--abi", request.interface]]

def WalletCommand.interpret : (command : WalletCommand) → String → Except GatewayError command.Reply
  | .initConfig _, _ => .ok ()
  | .generateKey, text => .ok (Text.trim text)
  | .createWallet, text => do
    WalletProgram.addressFrom "wallet new" (← WalletProgram.captured .newWalletAddress ["wallet", "new"] text)
  | .walletAddress, text => do
    WalletProgram.addressFrom "wallet info" (← WalletProgram.captured .walletAddress ["wallet", "info"] text)
  | .deploy request, text => do
    WalletProgram.addressFrom "wallet deploy"
      (← WalletProgram.captured .contractAddress (WalletProgram.deployArguments request) text)
  | .send request, text => do
    return ⟨← WalletProgram.captured .messageHash (WalletProgram.sendArguments request) text⟩

/-- The words of the start that answers a question. The state of contracts cannot be asked for. -/
def LookupCommand.words? (program : WalletProgram) : LookupCommand → Option (List String)
  | .probe => some program.probeArguments
  | .receipt message => some ["receipt", message.text]
  | .block shard hash => some ["block", hash.text, "--shard-id", shard.text]
  | .contractState _ _ => none

def LookupCommand.interpret : (command : LookupCommand) → String → Except GatewayError command.Reply
  | .probe, _ => .ok ()
  | .receipt message, text =>
    (WalletProgram.documentAfter Ledger.Receipt.read WalletProgram.receiptMarker text).mapError
      (.unexpectedOutput (WalletProgram.commandName ["receipt", message.text]))
  | .block shard hash, text =>
    (WalletProgram.documentAfter Json.Draft.readJson WalletProgram.blockMarker text).mapError
      (.unexpectedOutput (WalletProgram.commandName ["block", hash.text, "--shard-id", shard.text]))
  | .contractState _ _, _ => .error (.unsupported "contract_state" "cli")

namespace WalletProgram

variable {program : WalletProgram} {words arguments : List String} {outside : Outside} {world final : World}

/-! ### One start -/

/-- The arguments of a start: those of every command, the option for the configuration file if there is one, and the
words of the command. -/
inductive Arguments (program : WalletProgram) (words : List String) : List String → Prop where
  | plain (absent : program.configPath = none) : Arguments program words (program.leadingArguments ++ words)
  | configured {path : String} (chosen : program.configPath = some path) :
      Arguments program words (program.leadingArguments ++ ("-c" :: path :: words))

/-- The text that counts: what was printed if some of it is not blank, else what was reported. -/
inductive Counts (printed reported : String) : String → Prop where
  | printed {c : Char} (listed : c ∈ printed.toList) (solid : Text.isBlank c = false) : Counts printed reported printed
  | reported (blank : ∀ c ∈ printed.toList, Text.isBlank c = true) : Counts printed reported reported

/-- A start of the program with these words: its entry in the journal is the only new one, and what comes of it is the
text that counts, unless the program could not be started or did not end with success. -/
inductive Starts (program : WalletProgram) (words : List String) (outside : Outside) (world : World) :
    Except GatewayError String → World → Prop where
  | refused {arguments : List String} {fault : SystemError} (given : program.Arguments words arguments)
      (answered : outside.process world.journal ⟨program.binary, arguments⟩ = .error fault) :
      Starts program words outside world
        (.error (.launch (ProcessStart.line ⟨program.binary, arguments⟩) fault.message))
        ⟨world.files, world.journal ++ [.process ⟨program.binary, arguments⟩ (.error fault)]⟩
  | failed {arguments : List String} {output : ProcessOutput} (given : program.Arguments words arguments)
      (answered : outside.process world.journal ⟨program.binary, arguments⟩ = .ok output)
      (unsuccessful : output.success = false) :
      Starts program words outside world
        (.error (.commandFailed (ProcessStart.line ⟨program.binary, arguments⟩)
          (Text.trim (Text.lossy output.stderr))))
        ⟨world.files.depositAll output.directory,
          world.journal ++ [.process ⟨program.binary, arguments⟩ (.ok output)]⟩
  | succeeded {arguments : List String} {output : ProcessOutput} {text : String}
      (given : program.Arguments words arguments)
      (answered : outside.process world.journal ⟨program.binary, arguments⟩ = .ok output)
      (successful : output.success = true)
      (counts : Counts (Text.lossy output.stdout) (Text.lossy output.stderr) text) :
      Starts program words outside world (.ok text)
        ⟨world.files.depositAll output.directory,
          world.journal ++ [.process ⟨program.binary, arguments⟩ (.ok output)]⟩

theorem arguments_start (program : WalletProgram) (words : List String) :
    program.Arguments words (program.start words).arguments := by
  unfold start
  cases chosen : program.configPath with
  | none =>
    rw [List.append_nil]
    exact .plain chosen
  | some path =>
    rw [List.append_assoc]
    exact .configured chosen

theorem counts_effectiveText (printed reported : String) :
    Counts printed reported (effectiveText printed reported) := by
  unfold effectiveText
  split
  · next blank => exact .reported (List.all_eq_true.mp blank)
  · next solid =>
    obtain ⟨c, listed, solid⟩ := List.all_eq_false.mp (Bool.eq_false_iff.mpr solid)
    exact .printed listed (Bool.eq_false_iff.mpr solid)

theorem run_starts (program : WalletProgram) (words : List String) (outside : Outside) (world : World) :
    program.Starts words outside world (program.run words outside world).1 (program.run words outside world).2 := by
  have given := program.arguments_start words
  cases answered : outside.process world.journal (program.start words) with
  | error fault =>
    have ran : program.run words outside world = (.error _, _) :=
      Run.bind_of_error (Run.mapError_of_error (ProcessStart.run_of_error answered))
    rw [ran]
    exact .refused given answered
  | ok output =>
    have ran : program.run words outside world = _ :=
      Run.bind_of_ok (Run.mapError_of_ok (ProcessStart.run_of_ok answered))
    rw [ran]
    cases success : output.success with
    | false => exact .failed given answered success
    | true => exact .succeeded given answered success (counts_effectiveText _ _)

/-! ### Several starts -/

/-- The starts of an operation one after the other, up to the first that gives no text. -/
inductive Course (program : WalletProgram) (outside : Outside) :
    List (List String) → World → Except GatewayError String → World → Prop where
  | last {words : List String} {world final : World} {outcome : Except GatewayError String}
      (starts : program.Starts words outside world outcome final) : Course program outside [words] world outcome final
  | ended {words next : List String} {rest : List (List String)} {world final : World} {fault : GatewayError}
      (starts : program.Starts words outside world (.error fault) final) :
      Course program outside (words :: next :: rest) world (.error fault) final
  | onward {words next : List String} {rest : List (List String)} {world between final : World} {text : String}
      {outcome : Except GatewayError String} (starts : program.Starts words outside world (.ok text) between)
      (course : Course program outside (next :: rest) between outcome final) :
      Course program outside (words :: next :: rest) world outcome final

/-- The run consists of these starts, and its result is what is made of the text of the last one. -/
def Consists {α : Type} (program : WalletProgram) (starts : List (List String))
    (interpret : String → Except GatewayError α) (run : Run GatewayError α) : Prop :=
  ∀ outside world, ∃ outcome, program.Course outside starts world outcome (run outside world).2 ∧
    (run outside world).1 = outcome >>= interpret

variable {α : Type} {interpret : String → Except GatewayError α} {run : Run GatewayError α}

/-- A run that starts the program once and then only looks at the text. -/
theorem consists_of_lift (program : WalletProgram) (words : List String) (interpret : String → Except GatewayError α) :
    program.Consists [words] interpret (program.run words >>= fun text => Run.lift (interpret text)) := by
  intro outside world
  have starts := program.run_starts words outside world
  cases ran : program.run words outside world with
  | mk outcome final =>
    rw [ran] at starts
    cases outcome with
    | error fault =>
      rw [Run.bind_of_error ran]
      exact ⟨.error fault, .last starts, rfl⟩
    | ok text =>
      rw [Run.bind_of_ok ran]
      exact ⟨.ok text, .last starts, rfl⟩

/-- Two starts, of which the second is made only if the first gave a text. -/
theorem consists_of_two (program : WalletProgram) (first second : List String) :
    program.Consists [first, second] (fun _ => .ok ())
      (do discard (program.run first); discard (program.run second)) := by
  intro outside world
  have starts := program.run_starts first outside world
  cases ran : program.run first outside world with
  | mk outcome between =>
    rw [ran] at starts
    cases outcome with
    | error fault =>
      rw [Run.bind_of_error (Run.discard_of_error ran)]
      exact ⟨.error fault, .ended starts, rfl⟩
    | ok text =>
      rw [Run.bind_of_ok (Run.discard_of_ok ran)]
      have startsNext := program.run_starts second outside between
      cases ranNext : program.run second outside between with
      | mk outcome final =>
        rw [ranNext] at startsNext
        cases outcome with
        | error fault =>
          rw [Run.discard_of_error ranNext]
          exact ⟨.error fault, .onward starts (.last startsNext), rfl⟩
        | ok last =>
          rw [Run.discard_of_ok ranNext]
          exact ⟨.ok last, .onward starts (.last startsNext), rfl⟩

/-- A run that finds a number in the text of one start and goes on with it. -/
theorem consists_of_capture (program : WalletProgram) (words : List String) (pattern : Pattern)
    (found : String → Except GatewayError α) :
    program.Consists [words] (fun text => captured pattern words text >>= found)
      (program.runCapture words pattern >>= fun number => Run.lift (found number)) := by
  have same : (program.runCapture words pattern >>= fun number => Run.lift (found number)) =
      program.run words >>= fun text => Run.lift (captured pattern words text >>= found) := by
    rw [runCapture, bind_assoc]
    congr 1
    funext text
    cases captured pattern words text <;> rfl
  rw [same]
  exact program.consists_of_lift words _

/-- A new configuration needs a file for it. -/
theorem perform_initConfig_of_absent (absent : program.configPath = none) (endpoint : String) :
    program.perform (.initConfig endpoint) outside world =
      (.error (.configuration "a wallet config path is required to initialise a config"), world) := by
  simp only [perform, absent]
  rfl

theorem perform_consists (command : WalletCommand)
    (able : ∀ endpoint, command = .initConfig endpoint → program.configPath ≠ none) :
    program.Consists command.starts command.interpret (program.perform command) := by
  cases command with
  | initConfig endpoint =>
    obtain ⟨path, chosen⟩ := Option.ne_none_iff_exists'.mp (able endpoint rfl)
    have twice := program.consists_of_two ["config", "init"] ["config", "set", "rpc_endpoint", endpoint]
    simp only [perform, chosen]
    exact twice
  | generateKey => exact program.consists_of_lift ["keygen", "new"] fun text => .ok (Text.trim text)
  | createWallet => exact program.consists_of_capture ["wallet", "new"] .newWalletAddress (addressFrom "wallet new")
  | walletAddress => exact program.consists_of_capture ["wallet", "info"] .walletAddress (addressFrom "wallet info")
  | deploy request =>
    exact program.consists_of_capture (deployArguments request) .contractAddress (addressFrom "wallet deploy")
  | send request =>
    exact program.consists_of_capture (sendArguments request) .messageHash fun number =>
      (.ok ⟨number⟩ : Except GatewayError Ledger.MessageHash)

theorem answer_consists {command : LookupCommand} (asked : command.words? program = some words) :
    program.Consists [words] command.interpret (program.answer command) := by
  cases command with
  | probe =>
    cases asked
    exact program.consists_of_lift program.probeArguments fun _ => .ok ()
  | receipt message =>
    cases asked
    exact program.consists_of_lift ["receipt", message.text] (LookupCommand.interpret (.receipt message))
  | block shard hash =>
    cases asked
    exact program.consists_of_lift ["block", hash.text, "--shard-id", shard.text]
      (LookupCommand.interpret (.block shard hash))
  | contractState address hash => cases asked

/-! ### What was requested -/

/-- The words can be told from the arguments of a start. -/
theorem Arguments.unique {others : List String} (given : program.Arguments words arguments)
    (givenOther : program.Arguments others arguments) : words = others := by
  cases given with
  | plain absent =>
    generalize same : program.leadingArguments ++ words = arguments at givenOther
    cases givenOther with
    | plain _ => exact List.append_cancel_left same
    | configured chosen => rw [absent] at chosen; cases chosen
  | @configured path chosen =>
    generalize same : program.leadingArguments ++ ("-c" :: path :: words) = arguments at givenOther
    cases givenOther with
    | plain absent => rw [absent] at chosen; cases chosen
    | configured chosenOther => exact (List.cons.inj (List.cons.inj (List.append_cancel_left same)).2).2

theorem toString_injective {left right : Nat} (same : toString left = toString right) : left = right := by
  have chars := congrArg String.toList same
  rw [Nat.toString_eq_ofList_toDigits, Nat.toString_eq_ofList_toDigits, String.toList_ofList,
    String.toList_ofList] at chars
  have read := Decimal.readNatural_toDigits (Nat.le_max_left left right)
  rw [chars, Decimal.readNatural_toDigits (Nat.le_max_right left right)] at read
  exact (Except.ok.inj read).symm

/-- A deployment can be told from its words. -/
theorem eq_of_deployArguments_eq {left right : DeployRequest} (same : deployArguments left = deployArguments right) :
    left = right := by
  obtain ⟨bytecode, interface, salt⟩ := left
  obtain ⟨bytecodeOther, interfaceOther, saltOther⟩ := right
  simp only [deployArguments, List.cons.injEq, true_and, and_true] at same
  obtain ⟨rfl, rfl, digits⟩ := same
  rw [UInt64.toNat_inj.mp (toString_injective digits)]

/-- A call can be told from its words, whatever its arguments look like: the method stands in front of them and two
words behind. -/
theorem eq_of_sendArguments_eq {left right : CallRequest} (same : sendArguments left = sendArguments right) :
    left = right := by
  obtain ⟨address, method, arguments, interface⟩ := left
  obtain ⟨addressOther, methodOther, argumentsOther, interfaceOther⟩ := right
  simp only [sendArguments, List.cons_append, List.nil_append, List.cons.injEq, true_and] at same
  obtain ⟨sameAddress, rfl, rest⟩ := same
  obtain ⟨rfl, last⟩ := List.append_inj' rest rfl
  cases last
  rw [Ledger.Address.text_injective sameAddress]

/-- Every operation that the program has makes the starts that stand for it and no others: one, or for a new
configuration two, of which the second is made only after the first went well, and none without a file for it. Nothing
that is requested is lost in the arguments. -/
theorem operations_are_starts (program : WalletProgram) :
    (∀ command : WalletCommand, (∀ endpoint, command = .initConfig endpoint → program.configPath ≠ none) →
      program.Consists command.starts command.interpret (program.perform command)) ∧
    (∀ endpoint outside world, program.configPath = none → program.perform (.initConfig endpoint) outside world =
      (.error (.configuration "a wallet config path is required to initialise a config"), world)) ∧
    (∀ (command : LookupCommand) words, command.words? program = some words →
      program.Consists [words] command.interpret (program.answer command)) ∧
    (∀ command : LookupCommand, command.words? program = none ↔ ∃ address hash, command = .contractState address hash) ∧
    (∀ left right words others arguments, (WalletCommand.send left).starts = [words] →
      (WalletCommand.send right).starts = [others] → program.Arguments words arguments →
      program.Arguments others arguments → left = right) ∧
    (∀ left right words others arguments, (WalletCommand.deploy left).starts = [words] →
      (WalletCommand.deploy right).starts = [others] → program.Arguments words arguments →
      program.Arguments others arguments → left = right) := by
  refine ⟨perform_consists, fun endpoint outside world absent => perform_initConfig_of_absent absent endpoint,
    fun command words asked => answer_consists asked, fun command => ?_, ?_, ?_⟩
  · cases command with
    | contractState address hash => exact ⟨fun _ => ⟨address, hash, rfl⟩, fun _ => rfl⟩
    | _ =>
      refine ⟨nofun, ?_⟩
      rintro ⟨_, _, ⟨⟩⟩
  · rintro left right _ _ arguments ⟨⟩ ⟨⟩ given givenOther
    exact eq_of_sendArguments_eq (given.unique givenOther)
  · rintro left right _ _ arguments ⟨⟩ ⟨⟩ given givenOther
    exact eq_of_deployArguments_eq (given.unique givenOther)

end WalletProgram

end LedgerCapture
