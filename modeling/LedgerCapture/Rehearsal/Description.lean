import LedgerCapture.Config.Environment
import LedgerCapture.Json.Decode
import LedgerCapture.Rehearsal.Compiler
import LedgerCapture.Rehearsal.Ledger
import LedgerCapture.Rehearsal.Outside

/-!
Descriptions of rehearsals as JSON documents: the files, directories and links that are there at the start,
the environment, what the scripted programs do and what endpoints answer. Texts can be put together from parts and repetitions,
bytes can be written in hexadecimal digits.
-/
namespace LedgerCapture.Rehearsal

/-! ### Texts and bytes -/

def digitValue (c : Char) : Nat :=
  if '0' ≤ c && c ≤ '9' then c.toNat - '0'.toNat
  else if 'a' ≤ c && c ≤ 'f' then c.toNat - 'a'.toNat + 10
  else c.toNat - 'A'.toNat + 10

def bytesOfHex : List Char → List UInt8
  | high :: low :: rest => UInt8.ofNat (digitValue high * 16 + digitValue low) :: bytesOfHex rest
  | _ => []

def natural? : Json → Option Nat
  | .number (.integer value) => some value.toNat
  | _ => none

def repeatText (text : String) (count : Nat) : String :=
  count.repeat (fun out => out ++ text) ""

def partText : Json → String
  | .string text => text
  | part => repeatText (((part.member? "rep").bind Json.string?).getD "")
      (((part.member? "n").bind natural?).getD 0)

def bytes (document : Json) : ByteArray :=
  match document with
  | .string text => text.toUTF8
  | _ =>
    match (document.member? "hex").bind Json.string? with
    | some digits => ⟨(bytesOfHex digits.toList).toArray⟩
    | none =>
      (String.join ((((document.member? "parts").bind Json.items?).getD []).map partText)).toUTF8

def text (document : Json) : String :=
  (String.fromUTF8? (bytes document)).getD ""

/-! ### Members -/

def members : Json → List (String × Json)
  | .object members => members
  | _ => []

def membersOf (document : Json) (name : String) : List (String × Json) :=
  ((document.member? name).map members).getD []

def itemsOf (document : Json) (name : String) : List Json :=
  ((document.member? name).bind Json.items?).getD []

def integerOf? (document : Json) (name : String) : Option Int :=
  match document.member? name with
  | some (.number (.integer value)) => some value
  | _ => none

def textOf? (document : Json) (name : String) : Option String :=
  match document.member? name with
  | none => none
  | some .null => none
  | some value => some (text value)

def flagOf (document : Json) (name : String) : Bool :=
  match document.member? name with
  | some (.boolean value) => value
  | _ => false

/-! ### Files -/

def attempt (files : Files) (changed : Except SystemError Files) : Files :=
  match changed with
  | .ok changed => changed
  | .error _ => files

def makeParents (files : Files) (path : String) : Files :=
  match Path.parent? path with
  | none => files
  | some parent => attempt files (files.makeDirectories parent)

def directoriesTo (place : Place) : List (Place × FileEntry) :=
  (List.range place.length).map fun count => (place.take (count + 1), .directory)

def emptyTree (current temporary : Place) : Files :=
  ⟨directoriesTo current ++ directoriesTo temporary, current⟩

def addFile (files : Files) (file : String × ByteArray) : Files :=
  let files := makeParents files file.1
  attempt files (files.write file.1 file.2)

def addDirectory (files : Files) (path : String) : Files :=
  attempt files (files.makeDirectories path)

def addLink (files : Files) (path target : String) : Files :=
  let files := makeParents files path
  match files.vacant path with
  | .ok place => files.put place (.link target)
  | .error _ => files

def filesOf (document : Json) (name : String) : List (String × ByteArray) :=
  (membersOf document name).map fun file => (file.1, bytes file.2)

def fill (files : Files) (description : Json) : Files :=
  let files := (filesOf description "files").foldl addFile files
  let files := ((itemsOf description "dirs").map text).foldl addDirectory files
  (membersOf description "links").foldl (fun files link => addLink files link.1 (text link.2)) files

/-! ### Programs and environment -/

def scriptedProcess (document : Json) : ScriptedProcess where
  stdout := ((document.member? "stdout").map bytes).getD .empty
  stderr := ((document.member? "stderr").map bytes).getD .empty
  exitCode :=
    match document.member? "exit" with
    | some (.number (.integer code)) => code
    | _ => 0
  files := (document.member? "files").map fun files =>
    (members files).map fun file => (file.1, bytes file.2)

def processes (description : Json) : List ScriptedProcess :=
  (itemsOf description "processes").map scriptedProcess

def environment (description : Json) : Config.Environment := fun name =>
  ((membersOf description "env").lookup name).map text

/-- An answer of an endpoint, unless the connection is dropped. -/
def httpAnswer (document : Json) : HttpAnswer :=
  if flagOf document "drop" then .unreachable
  else
    .answered (((document.member? "status").bind natural?).getD 200)
      (.ok (Text.lossy (((document.member? "body").map bytes).getD .empty)))

def httpAnswers? (description : Json) : Option (List HttpAnswer) :=
  ((description.member? "http").bind Json.items?).map fun answers => answers.map httpAnswer

/-! ### The ledger and the compiler -/

def textOrEmpty (document : Json) (name : String) : String :=
  (textOf? document name).getD ""

def gatewayError (document : Json) (kind : String) : GatewayError :=
  let text := textOrEmpty document
  match kind with
  | "Launch" => .launch (text "command") (text "message")
  | "CommandFailed" => .commandFailed (text "command") (text "stderr")
  | "UnexpectedOutput" => .unexpectedOutput (text "command") (text "message")
  | "Http" => .http (text "message")
  | "Rpc" => .rpc (text "method") ((integerOf? document "code").getD 0) (text "message")
  | "Unsupported" => .unsupported (text "operation") (text "implementation")
  | _ => .configuration (text "message")

/-- An answer of the ledger. One that names a kind of failure is a failure. -/
def ledgerAnswer (document : Json) : Except GatewayError Json :=
  match (document.member? "kind").bind Json.string? with
  | some kind => .error (gatewayError document kind)
  | none => .ok document

def ledgerScript (description : Json) : LedgerScript :=
  (membersOf description "ledger").map fun entry =>
    (entry.1, (entry.2.items?.getD []).map ledgerAnswer)

def scriptedCompilation (document : Json) : ScriptedCompilation where
  files := filesOf document "files"
  failure := textOf? document "fail"
  withoutDirectory := flagOf document "nodir"

def compilerScript (description : Json) : List (String × ScriptedCompilation) :=
  (membersOf description "compiler").map fun entry => (entry.1, scriptedCompilation entry.2)

structure Setting where
  world : World
  outside : Outside
  environment : Config.Environment

def setting (current : Place) (description : Json) : Setting :=
  let environment := environment description
  let files := fill (emptyTree current ["tmp"]) description
  let offline := outside files ((environment "TMPDIR").getD "/tmp") (processes description)
  ⟨⟨files, []⟩, (httpAnswers? description).elim offline fun answers => answering answers offline, environment⟩

end LedgerCapture.Rehearsal
