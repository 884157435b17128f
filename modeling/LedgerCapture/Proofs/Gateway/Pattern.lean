import LedgerCapture.Gateway.Program
import LedgerCapture.Proofs.Gateway.Marker
import LedgerCapture.Proofs.Ledger.Address

/-!
Numbers behind labels. The search returns the number at the first place where the label, the mark and a digit stand,
with as many digits as follow each other there. A number that was found as an address is one, so commands that print an
address fail only where the program or the search does.
-/
namespace LedgerCapture

namespace Pattern

variable {pattern : Pattern} {text behind digits others : List Char}

/-- The text starts with the label, the mark and these digits; what follows them is no digit. -/
inductive Stands (pattern : Pattern) : List Char → List Char → Prop where
  | mk {digits rest : List Char} (nonempty : digits ≠ []) (every : ∀ c ∈ digits, pattern.isDigit c = true)
      (ended : ∀ c, rest.head? = some c → pattern.isDigit c = false) :
      Stands pattern (pattern.label.toList ++ ('0' :: 'x' :: (digits ++ rest))) digits

def Starts (pattern : Pattern) (text : List Char) : Prop :=
  ∃ digit rest, text = pattern.label.toList ++ ('0' :: 'x' :: digit :: rest) ∧ pattern.isDigit digit = true

/-- Behind the label and the mark all digits up to the first other character are taken. -/
theorem matchAt?_label (pattern : Pattern) (rest : List Char) :
    pattern.matchAt? (pattern.label.toList ++ ('0' :: 'x' :: rest)) =
      if rest.takeWhile pattern.isDigit = [] then none else some (rest.takeWhile pattern.isDigit) := by
  have dropped : dropStart? (pattern.label.toList ++ ['0', 'x']) (pattern.label.toList ++ ('0' :: 'x' :: rest)) =
      some rest := by
    rw [dropStart?_eq_some_iff, List.append_assoc]
    rfl
  rw [Pattern.matchAt?, dropped]
  simp only [Option.bind_eq_bind, Option.bind_some, List.isEmpty_iff]

theorem Stands.matchAt? (stands : Stands pattern text digits) : pattern.matchAt? text = some digits := by
  obtain ⟨nonempty, every, ended⟩ := stands
  rename_i rest
  have taken : (digits ++ rest).takeWhile pattern.isDigit = digits := by
    rw [List.takeWhile_append_of_pos every]
    cases rest with
    | nil => exact List.append_nil digits
    | cons c rest => rw [List.takeWhile_cons_of_neg (by simp [ended c rfl]), List.append_nil]
  rw [matchAt?_label, taken, if_neg nonempty]

theorem stands_of_matchAt? (found : pattern.matchAt? text = some digits) : Stands pattern text digits := by
  obtain ⟨rest, dropped, -⟩ := Option.bind_eq_some_iff.mp found
  have same : text = pattern.label.toList ++ ('0' :: 'x' :: rest) := by
    rw [dropStart?_eq_some_iff.mp dropped, List.append_assoc]
    rfl
  rw [same, matchAt?_label] at found
  split at found
  · cases found
  · next some =>
    cases found
    rw [same]
    have stands : Stands pattern (pattern.label.toList ++ ('0' :: 'x' :: (rest.takeWhile pattern.isDigit ++
        rest.dropWhile pattern.isDigit))) (rest.takeWhile pattern.isDigit) := by
      refine .mk some (fun c listed => List.mem_takeWhile_imp listed) fun c first => ?_
      have stopped := List.head?_dropWhile_not pattern.isDigit rest
      rw [first] at stopped
      simpa using stopped
    rwa [List.takeWhile_append_dropWhile] at stands

theorem Stands.starts (stands : Stands pattern text digits) : Starts pattern text := by
  obtain ⟨nonempty, every, -⟩ := stands
  obtain ⟨digit, more, rfl⟩ := List.exists_cons_of_ne_nil nonempty
  exact ⟨digit, _, rfl, every digit (List.mem_cons_self ..)⟩

/-- Where a digit stands, all digits that follow it belong to the number. -/
theorem Starts.exists_stands (starts : Starts pattern text) : ∃ digits, Stands pattern text digits := by
  obtain ⟨digit, rest, rfl, isDigit⟩ := starts
  have taken : (digit :: rest).takeWhile pattern.isDigit ≠ [] := by
    rw [List.takeWhile_cons_of_pos isDigit]
    exact List.cons_ne_nil _ _
  exact ⟨(digit :: rest).takeWhile pattern.isDigit, stands_of_matchAt? (by rw [matchAt?_label, if_neg taken])⟩

theorem matchAt?_eq_none_iff : pattern.matchAt? text = none ↔ ¬ Starts pattern text := by
  constructor
  · intro absent starts
    obtain ⟨digits, stands⟩ := starts.exists_stands
    rw [stands.matchAt?] at absent
    cases absent
  · intro absent
    cases found : pattern.matchAt? text with
    | none => rfl
    | some digits => exact absurd (stands_of_matchAt? found).starts absent

/-! ### The first place -/

/-- The digits of the first number in the text that stands behind the label. -/
inductive First (pattern : Pattern) : List Char → List Char → Prop where
  | mk {before behind digits : List Char} (stands : Stands pattern behind digits)
      (first : ∀ place < before.length, ¬ Starts pattern ((before ++ behind).drop place)) :
      First pattern (before ++ behind) digits

theorem First.valid (first : First pattern text digits) :
    digits ≠ [] ∧ ∀ c ∈ digits, pattern.isDigit c = true := by
  obtain ⟨⟨nonempty, every, -⟩, -⟩ := first
  exact ⟨nonempty, every⟩

theorem Stands.first (stands : Stands pattern text digits) : First pattern text digits :=
  @First.mk pattern [] text digits stands nofun

/-- Where no number stands, the first one in the rest is the first one. -/
theorem First.cons {c : Char} (nothing : ¬ Starts pattern (c :: text)) (first : First pattern text digits) :
    First pattern (c :: text) digits := by
  obtain ⟨stands, none⟩ := first
  rename_i before behind
  refine @First.mk pattern (c :: before) behind digits stands fun place earlier => ?_
  cases place with
  | zero => exact nothing
  | succ place => exact none place (Nat.lt_of_succ_lt_succ earlier)

theorem not_starts_nil : ¬ Starts pattern [] := by
  rintro ⟨digit, rest, same, -⟩
  simp at same

theorem search?_eq_some_iff : pattern.search? text = some digits ↔ First pattern text digits := by
  induction text with
  | nil =>
    refine ⟨nofun, fun found => ?_⟩
    generalize empty : ([] : List Char) = text at found
    obtain ⟨stands, -⟩ := found
    obtain ⟨rfl, rfl⟩ := List.append_eq_nil_iff.mp empty.symm
    exact absurd stands.starts not_starts_nil
  | cons c rest ih =>
    rw [search?]
    split
    · next here found =>
      have stands := stands_of_matchAt? found
      rw [Option.some.injEq]
      constructor
      · rintro rfl
        exact stands.first
      · generalize whole : c :: rest = text at stands
        rintro ⟨standsOther, first⟩
        rename_i before behind
        cases before with
        | nil =>
          have same := stands.matchAt?.symm.trans standsOther.matchAt?
          exact Option.some.inj same
        | cons d before => exact absurd stands.starts (first 0 (Nat.succ_pos _))
    · next absent =>
      have nothing := matchAt?_eq_none_iff.mp absent
      rw [ih]
      constructor
      · exact First.cons nothing
      · generalize whole : c :: rest = text
        rintro ⟨stands, first⟩
        rename_i before behind
        cases before with
        | nil => exact absurd (whole ▸ stands.starts) nothing
        | cons d before =>
          cases whole
          exact .mk stands fun place earlier => first (place + 1) (Nat.succ_lt_succ earlier)

theorem search?_eq_none_iff :
    pattern.search? text = none ↔ ∀ before behind, text = before ++ behind → ¬ Starts pattern behind := by
  induction text with
  | nil =>
    refine ⟨fun _ before behind empty => ?_, fun _ => rfl⟩
    obtain ⟨rfl, rfl⟩ := List.append_eq_nil_iff.mp empty.symm
    exact not_starts_nil
  | cons c rest ih =>
    rw [search?]
    split
    · next found =>
      refine ⟨nofun, fun absent => absurd (stands_of_matchAt? found).starts (absent [] _ rfl)⟩
    · next missed =>
      rw [ih]
      constructor
      · intro absent before behind same
        cases before with
        | nil =>
          cases same
          exact matchAt?_eq_none_iff.mp missed
        | cons d before => exact absent before behind (List.cons.inj same).2
      · rintro absent before behind rfl
        exact absent (c :: before) behind rfl

/-! ### What is captured -/

variable {printed captured : String} {address : Ledger.Address}

theorem capture?_eq_some_iff : pattern.capture? printed = some captured ↔
    ∃ digits, First pattern printed.toList digits ∧ captured = "0x" ++ String.ofList digits := by
  rw [capture?, Option.map_eq_some_iff]
  exact exists_congr fun digits => and_congr search?_eq_some_iff eq_comm

theorem exists_capture?_iff : (∃ captured, pattern.capture? printed = some captured) ↔
    ∃ before behind, printed.toList = before ++ behind ∧ Starts pattern behind := by
  rw [← Option.isSome_iff_exists, ← not_iff_not, Option.not_isSome_iff_eq_none, capture?, Option.map_eq_none_iff,
    search?_eq_none_iff]
  simp only [not_exists, not_and]

def addressPatterns : List Pattern := [contractAddress, walletAddress, newWalletAddress]

theorem isHexDigit_of_isDigit (known : pattern ∈ addressPatterns) {c : Char} (digit : pattern.isDigit c = true) :
    Ledger.isHexDigit c = true := by
  simp only [addressPatterns, List.mem_cons, List.not_mem_nil, or_false] at known
  rcases known with rfl | rfl | rfl
  · exact Ledger.isHexDigit_of_isLowerHexDigit digit
  · exact digit
  · exact digit

/-- A number that was found as an address is one, and the address is the number in lower case. -/
theorem exists_address_of_capture? (known : pattern ∈ addressPatterns)
    (found : pattern.capture? printed = some captured) :
    ∃ address, Ledger.Address.parse captured = .ok address ∧ address.text = captured.toLower := by
  obtain ⟨digits, first, rfl⟩ := capture?_eq_some_iff.mp found
  obtain ⟨nonempty, every⟩ := first.valid
  have chars : ("0x" ++ String.ofList digits).toList = [] ++ (['0', 'x'] ++ digits ++ []) := by
    rw [String.toList_append, List.append_nil]
    exact congrArg (['0', 'x'] ++ ·) String.toList_ofList
  have spells : Ledger.Address.Spells ("0x" ++ String.ofList digits).toList digits :=
    chars ▸ .mk (List.forall_mem_nil _) (by simp) nonempty
      (fun c listed => isHexDigit_of_isDigit known (every c listed)) (List.forall_mem_nil _)
  obtain ⟨address, parsed⟩ := Ledger.Address.exists_parse_of_spells spells
  refine ⟨address, parsed, ?_⟩
  obtain ⟨others, spellsOther, lower⟩ := Ledger.Address.parse_eq_ok_iff.mp parsed
  rw [Ledger.Address.text, lower, spellsOther.unique spells]
  apply String.toList_inj.mp
  show _ = (String.map Char.toLower ("0x" ++ String.ofList digits)).toList
  rw [String.toList_map, chars, String.toList_append]
  simp

end Pattern

namespace WalletProgram

variable {pattern : Pattern} {program : WalletProgram} {arguments : List String} {outside : Outside}
  {world final : World} {captured : String}

/-- The run fails where the capture does and only there; otherwise it gives what was captured, in lower case. -/
structure EndsAsCaptured (run : Run GatewayError Ledger.Address) (capture : Run GatewayError String) : Prop where
  failed : ∀ outside world fault final, run outside world = (.error fault, final) ↔
    capture outside world = (.error fault, final)
  succeeded : ∀ outside world address final, run outside world = (.ok address, final) ↔
    ∃ captured, capture outside world = (.ok captured, final) ∧ address.text = captured.toLower

theorem exists_capture?_of_runCapture
    (ran : program.runCapture arguments pattern outside world = (.ok captured, final)) :
    ∃ printed, pattern.capture? printed = some captured := by
  obtain ⟨printed, between, -, lifted⟩ := Run.bind_eq_ok ran
  refine ⟨printed, ?_⟩
  have found : WalletProgram.captured pattern arguments printed = .ok captured := congrArg Prod.fst lifted
  unfold WalletProgram.captured at found
  split at found
  · next other same =>
    cases found
    exact same
  · cases found

theorem endsAsCaptured (known : pattern ∈ Pattern.addressPatterns) (program : WalletProgram) (arguments : List String)
    (command : String) :
    EndsAsCaptured (do Run.lift (addressFrom command (← program.runCapture arguments pattern)))
      (program.runCapture arguments pattern) := by
  have parsed {outside world captured final}
      (ran : program.runCapture arguments pattern outside world = (.ok captured, final)) :
      ∃ address, addressFrom command captured = .ok address ∧ address.text = captured.toLower := by
    obtain ⟨printed, found⟩ := exists_capture?_of_runCapture ran
    obtain ⟨address, parsed, lower⟩ := Pattern.exists_address_of_capture? known found
    exact ⟨address, mapError_eq_ok_iff.mpr parsed, lower⟩
  constructor
  · intro outside world fault final
    cases ran : program.runCapture arguments pattern outside world with
    | mk result between =>
      cases result with
      | error other => rw [Run.bind_of_error ran]; simp
      | ok captured =>
        obtain ⟨address, read, -⟩ := parsed ran
        rw [Run.bind_of_ok ran, Run.lift, read]
        simp
  · intro outside world address final
    cases ran : program.runCapture arguments pattern outside world with
    | mk result between =>
      cases result with
      | error other => rw [Run.bind_of_error ran]; simp
      | ok captured =>
        obtain ⟨found, read, lower⟩ := parsed ran
        rw [Run.bind_of_ok ran, Run.lift, read]
        constructor
        · rintro ⟨⟩
          exact ⟨captured, rfl, lower⟩
        · rintro ⟨_, ⟨⟩, same⟩
          rw [Ledger.Address.text_injective (lower.trans same.symm)]

end WalletProgram

/-- What is captured is the number behind the first label that has one, with all its digits. Captured addresses are
addresses, so the commands that print one fail only where nothing is captured. -/
theorem capture_takes_first_number :
    (∀ (pattern : Pattern) (printed : String), (∃ captured, pattern.capture? printed = some captured) ↔
      ∃ before behind, printed.toList = before ++ behind ∧ pattern.Starts behind) ∧
    (∀ (pattern : Pattern) (printed captured : String), pattern.capture? printed = some captured ↔
      ∃ digits, pattern.First printed.toList digits ∧ captured = "0x" ++ String.ofList digits) ∧
    (∀ pattern ∈ Pattern.addressPatterns, ∀ printed captured,
      pattern.capture? printed = some captured →
        ∃ address, Ledger.Address.parse captured = .ok address ∧ address.text = captured.toLower) ∧
    ∀ program : WalletProgram,
      (∀ request, WalletProgram.EndsAsCaptured (program.perform (.deploy request))
        (program.runCapture (WalletProgram.deployArguments request) .contractAddress)) ∧
      WalletProgram.EndsAsCaptured (program.perform .walletAddress)
        (program.runCapture ["wallet", "info"] .walletAddress) ∧
      WalletProgram.EndsAsCaptured (program.perform .createWallet)
        (program.runCapture ["wallet", "new"] .newWalletAddress) := by
  refine ⟨fun pattern printed => Pattern.exists_capture?_iff, fun pattern printed captured =>
    Pattern.capture?_eq_some_iff, fun pattern known printed captured found =>
    Pattern.exists_address_of_capture? known found, fun program => ⟨fun request => ?_, ?_, ?_⟩⟩
  · exact WalletProgram.endsAsCaptured (by simp [Pattern.addressPatterns]) program _ "wallet deploy"
  · exact WalletProgram.endsAsCaptured (by simp [Pattern.addressPatterns]) program _ "wallet info"
  · exact WalletProgram.endsAsCaptured (by simp [Pattern.addressPatterns]) program _ "wallet new"

/-- A label without a digit is passed over, and a digit of another class ends the number. -/
example : Pattern.messageHash.capture? "Message hash: 0x\nMessage hash: 0xabCD" = some "0xab" := by
  decide +kernel

end LedgerCapture
