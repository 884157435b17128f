/-!
Options on a command line: `--name value` and `--name=value`, and for options with a letter also `-n value`,
`-nvalue` and `-n=value`. Letters of options without a value can be written together. What starts with a
dash is never taken for a value that stands by itself.
-/
namespace LedgerCapture.CommandLine

inductive UsageError where
  | unknownOption (argument : String)
  | missingValue (option : String)
  | surplusValue (option : String)
  | repeatedOption (option : String)
  | missingOption (option : String)
  | invalidValue (option value : String)
  | surplusArgument (argument : String)
  | missingCommand
  | unknownCommand (name : String)
  deriving DecidableEq, Repr

def UsageError.message : UsageError → String
  | unknownOption argument => "unknown option '" ++ argument ++ "'"
  | missingValue option => "the option --" ++ option ++ " needs a value"
  | surplusValue option => "the option --" ++ option ++ " takes no value"
  | repeatedOption option => "the option --" ++ option ++ " is given more than once"
  | missingOption option => "the option --" ++ option ++ " is required"
  | invalidValue option value => "'" ++ value ++ "' is no value for the option --" ++ option
  | surplusArgument argument => "unexpected argument '" ++ argument ++ "'"
  | missingCommand => "a command is required"
  | unknownCommand name => "unknown command '" ++ name ++ "'"

/-- An option: its name, its letter if it has one, and whether it takes a value. -/
structure OptionForm where
  name : String
  letter : Option Char
  takesValue : Bool
  deriving DecidableEq, Repr

/-- The options that are given, by name. An option without a value has an empty one. -/
abbrev Given := List (String × String)

/-- Notes an option. None may be given twice. -/
def note (given : Given) (form : OptionForm) (value : String) : Except UsageError Given :=
  if (given.lookup form.name).isSome then .error (.repeatedOption form.name)
  else .ok ((form.name, value) :: given)

/-- Reads what follows two dashes. The answer tells which option waits for its value in the next argument. -/
def takeLong (forms : List OptionForm) (given : Given) (text : List Char) :
    Except UsageError (Given × Option OptionForm) :=
  let name := String.ofList (text.takeWhile (· != '='))
  match forms.find? (·.name == name), text.dropWhile (· != '=') with
  | none, _ => .error (.unknownOption name)
  | some form, _ :: value =>
    if form.takesValue then return (← note given form (String.ofList value), none)
    else .error (.surplusValue name)
  | some form, [] =>
    if form.takesValue then .ok (given, some form)
    else return (← note given form "", none)

def takeLetters (forms : List OptionForm) (given : Given) :
    List Char → Except UsageError (Given × Option OptionForm)
  | [] => .ok (given, none)
  | letter :: rest =>
    match forms.find? (·.letter == some letter) with
    | none => .error (.unknownOption (String.singleton letter))
    | some form =>
      if form.takesValue then
        match rest with
        | [] => .ok (given, some form)
        | '=' :: value => return (← note given form (String.ofList value), none)
        | value => return (← note given form (String.ofList value), none)
      else do takeLetters forms (← note given form "") rest

/-- Reads options up to the first argument that is neither an option nor the value of one. Two dashes alone
end the options; nothing can stand behind them. -/
def scan (forms : List OptionForm) (given : Given) :
    Option OptionForm → List String → Except UsageError (Given × List String)
  | none, [] => .ok (given, [])
  | some form, [] => .error (.missingValue form.name)
  | none, argument :: rest =>
    match argument.toList with
    | ['-', '-'] =>
      match rest with
      | [] => .ok (given, [])
      | surplus :: _ => .error (.surplusArgument surplus)
    | '-' :: '-' :: text => do
      let (given, waiting) ← takeLong forms given text
      scan forms given waiting rest
    | '-' :: letter :: letters => do
      let (given, waiting) ← takeLetters forms given (letter :: letters)
      scan forms given waiting rest
    | _ => .ok (given, argument :: rest)
  | some form, argument :: rest =>
    match argument.toList with
    | '-' :: _ :: _ => .error (.missingValue form.name)
    | _ => do scan forms (← note given form argument) none rest

end LedgerCapture.CommandLine
