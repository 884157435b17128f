import LedgerCapture.Files.Error
import LedgerCapture.Files.Path

/-!
A tree of files. Every entry is listed under the names that lead to it from the root, so what lies
below a directory is what has its names first. Paths are resolved as the operating system does it, with
symbolic links followed on the way.

A name is a text. An operating system also takes names that are no text; no tree here has one, so where
names are told apart or written out, nothing has to be replaced in them.
-/
namespace LedgerCapture

/-- The names that lead from the root to a place in the tree. -/
abbrev Place := List String

def Place.path (place : Place) : String :=
  if place.isEmpty then "/" else String.join (place.map ("/" ++ ·))

inductive FileEntry where
  | file (content : ByteArray)
  | directory
  | link (target : String)

/-- A tree of files and the directory that relative paths start from. -/
structure Files where
  entries : List (Place × FileEntry)
  current : Place

namespace Files

/-- The entry at a place. The root is a directory. -/
def entry? (files : Files) (place : Place) : Option FileEntry :=
  if place.isEmpty then some .directory else (files.entries.find? (·.1 == place)).map Prod.snd

def isDirectoryAt (files : Files) (place : Place) : Bool :=
  match files.entry? place with
  | some .directory => true
  | _ => false

def put (files : Files) (place : Place) (entry : FileEntry) : Files :=
  { files with entries := set files.entries }
where
  set : List (Place × FileEntry) → List (Place × FileEntry)
    | [] => [(place, entry)]
    | (other, present) :: rest =>
      if other == place then (other, entry) :: rest else (other, present) :: set rest

def retain (files : Files) (chosen : Place → Bool) : Files :=
  { files with entries := files.entries.filter (chosen ·.1) }

/-- The tree without the place and all that lies below it. -/
def removeTree (files : Files) (place : Place) : Files :=
  files.retain fun other => !place.isPrefixOf other

/-- Whether something is kept at the place or below it. -/
def holds (files : Files) (kept : Place → Bool) (place : Place) : Bool :=
  files.entries.any fun entry => kept entry.1 && place.isPrefixOf entry.1

/-- The tree after the place is removed as far as nothing is kept. A directory stays with what it holds. -/
def removeTreeBut (files : Files) (kept : Place → Bool) (place : Place) : Files :=
  files.retain fun other => !place.isPrefixOf other || files.holds kept other

/-! ### Resolution -/

/-- A place that a path leads to. At its end there may be no entry yet. -/
structure Resolved where
  place : Place
  entry : Option FileEntry

def greatestLinkCount : Nat := 40

/-- Where a path with a zero byte or a name that is too long cannot lead. -/
def checkNames (path : String) : Except SystemError Unit :=
  if path.toList.any (·.toNat == 0) then .error .zeroByteInPath
  else if (Path.components path).any (fun name => 255 < name.utf8ByteSize) then .error .nameTooLong
  else .ok ()

/-- Follows names from a place. A link at the end is followed only if `follow` is set. The first
argument bounds the number of steps, the second the number of links. -/
def walk (files : Files) (follow : Bool) : Nat → Nat → Place → List String → Except SystemError Resolved
  | 0, _, _, _ => .error .tooManyLinks
  | _, _, place, [] => .ok ⟨place, files.entry? place⟩
  | fuel + 1, links, place, name :: rest =>
    if !files.isDirectoryAt place then .error .notDirectory
    else if name == "." then walk files follow fuel links place rest
    else if name == ".." then walk files follow fuel links place.dropLast rest
    else
      match files.entry? (place ++ [name]) with
      | none => if rest.isEmpty then .ok ⟨place ++ [name], none⟩ else .error .notFound
      | some (.link target) =>
        if rest.isEmpty && !follow then .ok ⟨place ++ [name], some (.link target)⟩
        else if target == "" then .error .notFound
        else
          match links with
          | 0 => .error .tooManyLinks
          | links + 1 =>
            walk files follow fuel links (if Path.isAbsolute target then [] else place)
              (Path.components target ++ rest)
      | some _ => walk files follow fuel links (place ++ [name]) rest

/-- More steps than a path can take: the names of the path and of all links it may lead through. -/
def stepBound (files : Files) (names : List String) : Nat :=
  let longest := (files.entries.map fun entry =>
    match entry.2 with
    | .link target => (Path.components target).length
    | _ => 0).foldl max 0
  names.length + (greatestLinkCount + 1) * longest + 1

def resolve (files : Files) (follow : Bool) (path : String) : Except SystemError Resolved := do
  if path == "" then throw .notFound
  checkNames path
  let names := Path.components path
  walk files follow (files.stepBound names) greatestLinkCount
    (if Path.isAbsolute path then [] else files.current) names

def find (files : Files) (path : String) : Except SystemError (Place × FileEntry) := do
  match ← files.resolve true path with
  | ⟨place, some entry⟩ => return (place, entry)
  | ⟨_, none⟩ => throw .notFound

/-- The place of an existing entry, free of links and dots. -/
def canonical (files : Files) (path : String) : Except SystemError Place := do
  return (← files.find path).1

def isPresent (files : Files) (path : String) : Except SystemError Bool :=
  match files.find path with
  | .ok _ => .ok true
  | .error .notFound => .ok false
  | .error fault => .error fault

def isFile (files : Files) (path : String) : Bool :=
  match files.find path with
  | .ok (_, .file _) => true
  | _ => false

def isDirectory (files : Files) (path : String) : Bool :=
  match files.find path with
  | .ok (_, .directory) => true
  | _ => false

/-! ### Reading and writing -/

def read (files : Files) (path : String) : Except SystemError ByteArray := do
  match ← files.find path with
  | (_, .file content) => return content
  | (_, .directory) => throw .isDirectory
  | (_, .link _) => throw .tooManyLinks

def readText (files : Files) (path : String) : Except SystemError String := do
  match String.fromUTF8? (← files.read path) with
  | some text => return text
  | none => throw .notText

/-- A path that ends with a slash names a directory, so no file can be written there. The fault is that of
the directory above it, if that is missing. -/
def slashFault (files : Files) (path : String) : SystemError :=
  match (Path.parent? path).getD "/" with
  | "" => .isDirectory
  | parent =>
    match files.find parent with
    | .error fault => fault
    | .ok (_, .directory) => .isDirectory
    | .ok _ => .notDirectory

/-- Writes a file, in the place of the old one if there is one. -/
def write (files : Files) (path : String) (content : ByteArray) : Except SystemError Files := do
  if path.toList.getLast? == some '/' then throw (files.slashFault path)
  match ← files.resolve true path with
  | ⟨place, none⟩ => return files.put place (.file content)
  | ⟨place, some (.file _)⟩ => return files.put place (.file content)
  | ⟨_, some .directory⟩ => throw .isDirectory
  | ⟨_, some (.link _)⟩ => throw .tooManyLinks

/-- The place at which a new entry can be put, if nothing is there. -/
def vacant (files : Files) (path : String) : Except SystemError Place := do
  let trimmed := String.ofList (path.toList.reverse.dropWhile (· == '/')).reverse
  match ← files.resolve false (if trimmed == "" then path else trimmed) with
  | ⟨place, none⟩ => return place
  | ⟨_, some _⟩ => throw .present

def makeDirectory (files : Files) (path : String) : Except SystemError Files := do
  return files.put (← files.vacant path) .directory

/-- Makes a directory together with those above it that are missing. The first argument bounds the number
of directories made. -/
def makeDirectoriesWithin : Nat → Files → String → Except SystemError Files
  | 0, _, _ => .error .notFound
  | fuel + 1, files, path =>
    if path == "" then .ok files
    else
      match files.makeDirectory path with
      | .ok files => .ok files
      | .error .notFound =>
        match Path.parent? path with
        | none => .error .notFound
        | some parent => do
          let files ← makeDirectoriesWithin fuel files parent
          match files.makeDirectory path with
          | .ok files => return files
          | .error fault => if files.isDirectory path then return files else throw fault
      | .error fault => if files.isDirectory path then .ok files else .error fault

def makeDirectories (files : Files) (path : String) : Except SystemError Files :=
  makeDirectoriesWithin (path.length + 1) files path

/-- The names in the directory at a place, in the order in which they were made. -/
def namesAt (files : Files) (place : Place) : List String :=
  files.entries.filterMap fun entry =>
    if entry.1.dropLast == place && !entry.1.isEmpty then entry.1.getLast? else none

def list (files : Files) (path : String) : Except SystemError (List String) := do
  match ← files.find path with
  | (place, .directory) => return files.namesAt place
  | _ => throw .notDirectory

/-- Removes a file or a link. -/
def remove (files : Files) (path : String) : Except SystemError Files := do
  match ← files.resolve false path with
  | ⟨_, none⟩ => throw .notFound
  | ⟨_, some .directory⟩ => throw .isDirectory
  | ⟨place, some _⟩ => return files.removeTree place

end Files

end LedgerCapture
