import LedgerCapture.World.Basic

/-!
Programs in a rehearsal. Two of them follow a script that tells, start after start, what they print and
leave behind; a few others do what such programs usually do; no others are there.
-/
namespace LedgerCapture.Rehearsal

/-- What a scripted program does when it is started. Its files go into a new directory that its second
argument names. -/
structure ScriptedProcess where
  stdout : ByteArray
  stderr : ByteArray
  exitCode : Int
  files : Option (List (String × ByteArray))

/-- What a program does that has nothing left in the script. -/
def ScriptedProcess.idle : ScriptedProcess :=
  ⟨.empty, .empty, 0, none⟩

structure Course where
  /-- The milliseconds after which it ends by itself, if it does. -/
  lifetime : Option Nat
  /-- How it ends, in the words of the operating system. -/
  status : String
  success : Bool
  ignoresTermination : Bool
  deriving DecidableEq, Repr

namespace Course

def exiting (lifetime code : Nat) (ignoresTermination : Bool) : Course :=
  ⟨some lifetime, "exit status: " ++ toString code, code == 0, ignoresTermination⟩

def signalled (lifetime : Nat) (signal : String) : Course :=
  ⟨some lifetime, "signal: " ++ signal, false, false⟩

def endless (ignoresTermination : Bool) : Course :=
  ⟨none, "", false, ignoresTermination⟩

end Course

/-! ### Shell scripts -/

/-- The milliseconds in a number of seconds such as `20` or `0.01`. -/
def milliseconds (text : String) : Nat :=
  let chars := text.toList
  let seconds := (String.ofList (chars.takeWhile (· != '.'))).toNat?.getD 0
  let decimals := ((chars.dropWhile (· != '.')).drop 1).take 3
  let fraction := String.ofList (decimals ++ List.replicate (3 - decimals.length) '0')
  seconds * 1000 + fraction.toNat?.getD 0

def simpleCommands (script : String) : List (List String) :=
  ((script.toList.splitOnP fun c => c == ';' || c == '\n').map fun command =>
    ((command.splitOnP (· == ' ')).filter (!·.isEmpty)).map String.ofList).filter (!·.isEmpty)

/-- The course of a script, for commands that follow each other or loop without end. -/
def scriptCourse (elapsed code : Nat) (ignores : Bool) : List (List String) → Course
  | [] => .exiting elapsed code ignores
  | words :: rest =>
    match words with
    | ["exit"] => .exiting elapsed code ignores
    | ["exit", number] => .exiting elapsed (number.toNat?.getD 2 % 256) ignores
    | ["sleep", time] => scriptCourse (elapsed + milliseconds time) 0 ignores rest
    | ["exec", "sleep", time] => .exiting (elapsed + milliseconds time) 0 ignores
    | ["kill", "-9", "$$"] => .signalled elapsed "9 (SIGKILL)"
    | ["kill", "-KILL", "$$"] => .signalled elapsed "9 (SIGKILL)"
    | ["kill", "$$"] =>
      if ignores then scriptCourse elapsed 0 ignores rest else .signalled elapsed "15 (SIGTERM)"
    | ["kill", "-TERM", "$$"] =>
      if ignores then scriptCourse elapsed 0 ignores rest else .signalled elapsed "15 (SIGTERM)"
    | ["trap", "''", "TERM"] => scriptCourse elapsed 0 true rest
    | "while" :: _ => .endless ignores
    | ["false"] => scriptCourse elapsed 1 ignores rest
    | _ => scriptCourse elapsed 0 ignores rest

/-! ### Programs -/

inductive Program where
  | scripted
  | known (course : List String → Course) (stdout : List String → String)

def scriptedNames : List String := ["nil_cli", "solc"]

def knownPrograms : List (String × Program) := [
  ("nil", .known (fun _ => .exiting 20000 0 false) fun _ => ""),
  ("true", .known (fun _ => .exiting 0 0 false) fun _ => ""),
  ("false", .known (fun _ => .exiting 0 1 false) fun _ => ""),
  ("echo", .known (fun _ => .exiting 0 0 false) fun words => " ".intercalate words ++ "\n"),
  ("sleep", .known (fun words => .exiting ((words.map milliseconds).foldl (· + ·) 0) 0 false) fun _ => ""),
  ("sh", .known
    (fun words =>
      match words with
      | "-c" :: script :: _ => scriptCourse 0 0 false (simpleCommands script)
      | _ => .exiting 0 0 false)
    fun _ => "")]

def standardDirectories : List String := ["/bin/", "/usr/bin/"]

def findByName (name : String) : Except SystemError Program :=
  if scriptedNames.contains name then .ok .scripted
  else
    match knownPrograms.lookup name with
    | some program => .ok program
    | none => .error (if 255 < name.utf8ByteSize then .nameTooLong else .notFound)

/-- The program of a path. What is in the rehearsed tree of files cannot be run. -/
def findByPath (files : Files) (path : String) : Except SystemError Program :=
  match standardDirectories.filterMap fun directory =>
      knownPrograms.find? fun program => directory ++ program.1 == path with
  | (_, program) :: _ => .ok program
  | [] =>
    match files.find path with
    | .ok _ => .error .permissionDenied
    | .error fault => .error fault

def findProgram (files : Files) (start : ProcessStart) : Except SystemError Program :=
  if (start.program :: start.arguments).any fun text => text.toList.any (·.toNat == 0) then
    .error .zeroByteInArgument
  else if start.program.toList.contains '/' then findByPath files start.program
  else findByName start.program

/-! ### Starts -/

def baseName (program : String) : String :=
  (Path.fileName? program).getD program

def scriptedStart? : Event → Option ProcessStart
  | .process start (.ok _) => if scriptedNames.contains (baseName start.program) then some start else none
  | .launched start (.ok _) => if scriptedNames.contains (baseName start.program) then some start else none
  | _ => none

def nextProcess (script : List ScriptedProcess) (journal : Journal) : ScriptedProcess :=
  script.getD (journal.filterMap scriptedStart?).length .idle

def ScriptedProcess.output (process : ScriptedProcess) (start : ProcessStart) : ProcessOutput where
  stdout := process.stdout
  stderr := process.stderr
  success := process.exitCode == 0
  directory := process.files.bind fun files => (start.arguments[1]?).map (⟨·, files⟩)

def startProcess (files : Files) (script : List ScriptedProcess) (journal : Journal)
    (start : ProcessStart) : Except SystemError ProcessOutput := do
  match ← findProgram files start with
  | .scripted => return (nextProcess script journal).output start
  | .known course stdout =>
    return ⟨(stdout start.arguments).toUTF8, .empty, (course start.arguments).success, none⟩

/-! ### The node -/

def lastLaunch? : Journal → Option (ProcessStart × Journal)
  | [] => none
  | event :: rest =>
    match lastLaunch? rest with
    | some launch => some launch
    | none =>
      match event with
      | .launched start (.ok _) => some (start, rest)
      | _ => none

def sleptThrough (journal : Journal) : Nat :=
  (journal.map fun event =>
    match event with
    | .slept milliseconds => milliseconds.toNat
    | _ => 0).foldl (· + ·) 0

def isSleep : Event → Bool
  | .slept _ => true
  | _ => false

/-- The course of a launched program. One that follows the script ends at once. -/
def launchedCourse (files : Files) (start : ProcessStart) : Course :=
  match findProgram files start with
  | .ok (.known course _) => course start.arguments
  | _ => .exiting 0 0 false

/-- What can be seen of the node. Its end shows only after some sleep. -/
def nodeStatus (files : Files) (journal : Journal) : NodeStatus :=
  match lastLaunch? journal with
  | none => .running
  | some (start, since) =>
    let course := launchedCourse files start
    match course.lifetime with
    | none => .running
    | some lifetime =>
      if since.any isSleep && lifetime ≤ sleptThrough since then .exited course.status else .running

def terminate (files : Files) (journal : Journal) (grace : UInt64) : Termination :=
  match lastLaunch? journal with
  | none => .persisting
  | some (start, _) =>
    if grace == 0 || (launchedCourse files start).ignoresTermination then .persisting else .stopped

end LedgerCapture.Rehearsal
