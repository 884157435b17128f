/-!
Paths as texts, and the parts of the last name of a path.
-/
namespace LedgerCapture.Path

def isAbsolute (path : String) : Bool :=
  path.toList.head? == some '/'

/-- The names between the slashes of a path, without empty ones. A slash at the end counts as a dot, for
only a directory can stand before it. -/
def components (path : String) : List String :=
  let names := path.toList.splitOn '/'
  let last := if names.getLast? == some [] then ["."] else []
  (names.filter (!·.isEmpty)).map String.ofList ++ last

/-- The path of `name` as seen from the directory `base`. -/
def join (base name : String) : String :=
  if isAbsolute name || base == "" then name
  else if base.toList.getLast? == some '/' then base ++ name
  else base ++ "/" ++ name

/-- The last name of a path, unless it goes up or stays. -/
def fileName? (path : String) : Option String :=
  let names := (components path).filter (· != ".")
  match names.getLast? with
  | some name => if name == ".." then none else some name
  | none => none

/-- Splits a name at its last dot. A dot at the start does not count. -/
def splitExtension (name : String) : String × Option String :=
  if name == ".." then (name, none)
  else
    let chars := name.toList
    let extension := (chars.reverse.takeWhile (· != '.')).reverse
    let stem := chars.take (chars.length - extension.length - 1)
    if extension.length == chars.length || stem.isEmpty then (name, none)
    else (String.ofList stem, some (String.ofList extension))

def extension? (name : String) : Option String :=
  (splitExtension name).2

def stem (name : String) : String :=
  (splitExtension name).1

def parent? (path : String) : Option String :=
  let trimmed := (path.toList.reverse.dropWhile (· == '/')).reverse
  if trimmed.isEmpty then none
  else
    let before := (trimmed.reverse.dropWhile (· != '/')).reverse
    let shortened := (before.reverse.dropWhile (· == '/')).reverse
    if before.isEmpty then some ""
    else if shortened.isEmpty then some "/"
    else some (String.ofList shortened)

end LedgerCapture.Path
