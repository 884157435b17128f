import LedgerCapture.Toml.Scalar

/-!
TOML documents as text, version 1.1 of the format. A document is read statement by statement into a
tree of nodes that remember how a table came about, because that decides what may still be added to it.
-/
namespace LedgerCapture.Toml

/-! ### Blanks, comments and lines -/

def skipBlanks (text : List Char) : List Char :=
  text.dropWhile (fun c => c == ' ' || c == '\t')

/-- Characters that may stand in comments and literal strings. -/
def isPlainChar (c : Char) : Bool :=
  c == '\t' || (0x20 ≤ c.toNat && c.toNat != 0x7F)

def skipComment (text : List Char) : List Char :=
  match text with
  | '#' :: rest => rest.dropWhile isPlainChar
  | text => text

def afterNewline? (text : List Char) : Option (List Char) :=
  match text with
  | '\n' :: rest => some rest
  | '\r' :: '\n' :: rest => some rest
  | _ => none

/-- The text behind the rest of a line that holds nothing more but a comment. -/
def afterLine? (text : List Char) : Option (List Char) :=
  match skipComment (skipBlanks text) with
  | [] => some []
  | rest => afterNewline? rest

def skipLines : Nat → List Char → List Char
  | 0, text => text
  | fuel + 1, text =>
    let rest := skipComment (skipBlanks text)
    match afterNewline? rest with
    | some rest => skipLines fuel rest
    | none => rest

/-! ### Strings -/

/-- The character with the code that the first `count` hexadecimal digits denote. -/
def codePoint? (count : Nat) (text : List Char) : Option (Char × List Char) := do
  let digits ← (text.take count).mapM Json.hexValue?
  let code := digits.foldl (fun value digit => value * 16 + digit) 0
  if digits.length == count && Nat.isValidChar code then return (Char.ofNat code, text.drop count)
  else none

/-- The character that an escape stands for; the text starts behind the backslash. -/
def escape? (text : List Char) : Option (Char × List Char) :=
  match text with
  | 'b' :: rest => some ('\x08', rest)
  | 't' :: rest => some ('\t', rest)
  | 'n' :: rest => some ('\n', rest)
  | 'f' :: rest => some ('\x0c', rest)
  | 'r' :: rest => some ('\r', rest)
  | 'e' :: rest => some ('\x1b', rest)
  | '"' :: rest => some ('"', rest)
  | '\\' :: rest => some ('\\', rest)
  | 'x' :: rest => codePoint? 2 rest
  | 'u' :: rest => codePoint? 4 rest
  | 'U' :: rest => codePoint? 8 rest
  | _ => none

def basicString (done : List Char) : Nat → List Char → Option (String × List Char)
  | 0, _ => none
  | fuel + 1, text =>
    match text with
    | [] => none
    | '"' :: rest => some (String.ofList done.reverse, rest)
    | '\\' :: rest => do
      let (c, rest) ← escape? rest
      basicString (c :: done) fuel rest
    | c :: rest => if isPlainChar c then basicString (c :: done) fuel rest else none

def literalString (text : List Char) : Option (String × List Char) :=
  let inside := text.takeWhile (fun c => isPlainChar c && c != '\'')
  match text.dropWhile (fun c => isPlainChar c && c != '\'') with
  | '\'' :: rest => some (String.ofList inside, rest)
  | _ => none

/-- What a run of quotes inside a string over several lines means: three of them end it, up to two more
before those belong to it. -/
def closingQuotes (quote : Char) (done text : List Char) : Option (Option (String × List Char)) :=
  let count := (text.takeWhile (· == quote)).length
  if count < 3 then none
  else if 5 < count then some none
  else
    some (some (String.ofList (List.replicate (count - 3) quote ++ done).reverse, text.drop count))

/-- A backslash at the end of a line: the text behind the line end and all blanks that follow. -/
def continuedLine? (fuel : Nat) (text : List Char) : Option (List Char) :=
  (afterNewline? (skipBlanks text)).map fun rest => go fuel rest
where
  go : Nat → List Char → List Char
    | 0, rest => rest
    | fuel + 1, rest =>
      match afterNewline? (skipBlanks rest) with
      | some rest => go fuel rest
      | none => skipBlanks rest

/-- The rest of a string over several lines. Escapes count only between quotation marks. -/
def longString (quote : Char) (done : List Char) : Nat → List Char → Option (String × List Char)
  | 0, _ => none
  | fuel + 1, text =>
    match closingQuotes quote done text with
    | some result => result
    | none =>
      match text with
      | [] => none
      | '\r' :: '\n' :: rest => longString quote ('\n' :: '\r' :: done) fuel rest
      | '\\' :: rest =>
        if quote == '"' then
          match continuedLine? fuel rest with
          | some rest => longString quote done fuel rest
          | none => do
            let (c, rest) ← escape? rest
            longString quote (c :: done) fuel rest
        else longString quote ('\\' :: done) fuel rest
      | c :: rest =>
        if isPlainChar c || c == '\n' then longString quote (c :: done) fuel rest else none

/-- A line end right behind the opening quotes does not belong to the string. -/
def dropFirstNewline (text : List Char) : List Char :=
  (afterNewline? text).getD text

def stringValue (fuel : Nat) (text : List Char) : Option (String × List Char) :=
  match text with
  | '"' :: '"' :: '"' :: rest => longString '"' [] fuel (dropFirstNewline rest)
  | '\'' :: '\'' :: '\'' :: rest => longString '\'' [] fuel (dropFirstNewline rest)
  | '"' :: rest => basicString [] fuel rest
  | '\'' :: rest => literalString rest
  | _ => none

/-! ### Keys -/

def isBareKeyChar (c : Char) : Bool :=
  Json.isDigit c || ('a' ≤ c && c ≤ 'z') || ('A' ≤ c && c ≤ 'Z') || c == '_' || c == '-'

def simpleKey (fuel : Nat) (text : List Char) : Option (String × List Char) :=
  match text with
  | '"' :: rest => basicString [] fuel rest
  | '\'' :: rest => literalString rest
  | text =>
    if (text.takeWhile isBareKeyChar).isEmpty then none
    else some (String.ofList (text.takeWhile isBareKeyChar), text.dropWhile isBareKeyChar)

def keyPath : Nat → List Char → Option (List String × List Char)
  | 0, _ => none
  | fuel + 1, text => do
    let (key, rest) ← simpleKey fuel (skipBlanks text)
    match skipBlanks rest with
    | '.' :: rest => do
      let (path, rest) ← keyPath fuel rest
      return (key :: path, rest)
    | rest => return ([key], rest)

/-! ### The tree of tables -/

inductive Origin where
  /-- by a header of its own, or as a table written inline -/
  | header
  /-- by the header of a table below it -/
  | passing
  /-- by a key of several parts -/
  | dotted
  deriving DecidableEq

/-- An entry of a table that may still grow. The last of several tables is the first in the list. -/
inductive Node where
  | leaf (value : Toml)
  | table (origin : Origin) (entries : List (String × Node))
  | tables (entries : List (List (String × Node)))

abbrev Entries := List (String × Node)

def findEntry (key : String) : Entries → Option Node
  | [] => none
  | (other, node) :: rest => if other == key then some node else findEntry key rest

def setEntry (key : String) (node : Node) : Entries → Entries
  | [] => [(key, node)]
  | (other, present) :: rest =>
    if other == key then (key, node) :: rest else (other, present) :: setEntry key node rest

/-- Changes the table at the end of a path, and creates the tables on the way to it. A key of several
parts does not go through tables that have a header of their own. -/
def changeAt (dotted : Bool) (change : Origin → Entries → Option (Origin × Entries)) :
    List String → Origin → Entries → Option (Origin × Entries)
  | [], origin, entries => change origin entries
  | key :: path, origin, entries => do
    match findEntry key entries with
    | none =>
      let (below, inner) ← changeAt dotted change path (if dotted then .dotted else .passing) []
      return (origin, setEntry key (.table below inner) entries)
    | some (.table below inner) =>
      if dotted && below == .header then none
      else
        let (below, inner) ← changeAt dotted change path below inner
        return (origin, setEntry key (.table below inner) entries)
    | some (.tables (last :: earlier)) =>
      let (_, last) ← changeAt dotted change path .header last
      return (origin, setEntry key (.tables (last :: earlier)) entries)
    | some _ => none

def splitLast : List String → Option (List String × String)
  | [] => none
  | [key] => some ([], key)
  | key :: path => (splitLast path).map fun (before, last) => (key :: before, last)

/-- Adds an entry below a table. No key is given twice, and all tables that a key of several parts
names come from such keys. -/
def addEntry (path : List String) (value : Toml) (origin : Origin) (entries : Entries) :
    Option (Origin × Entries) := do
  let (before, key) ← splitLast path
  changeAt true (fun origin entries =>
    if (origin == .dotted) == before.isEmpty || (findEntry key entries).isSome then none
    else some (origin, setEntry key (.leaf value) entries)) before origin entries

def openTable (path : List String) (root : Entries) : Option Entries := do
  let (before, key) ← splitLast path
  let (_, root) ← changeAt false (fun origin entries =>
    match findEntry key entries with
    | none => some (origin, setEntry key (.table .header []) entries)
    | some (.table .passing inner) => some (origin, setEntry key (.table .header inner) entries)
    | some _ => none) before .header root
  return root

def openElement (path : List String) (root : Entries) : Option Entries := do
  let (before, key) ← splitLast path
  let (_, root) ← changeAt false (fun origin entries =>
    match findEntry key entries with
    | none => some (origin, setEntry key (.tables [[]]) entries)
    | some (.tables elements) => some (origin, setEntry key (.tables ([] :: elements)) entries)
    | some _ => none) before .header root
  return root

mutual

def Node.toToml : Node → Toml
  | .leaf value => value
  | .table _ entries => .ofEntries (entriesToToml entries)
  | .tables elements => .list (elementsToToml elements).reverse

def entriesToToml : List (String × Node) → List (String × Toml)
  | [] => []
  | (key, node) :: rest => (key, Node.toToml node) :: entriesToToml rest

def elementsToToml : List (List (String × Node)) → List Toml
  | [] => []
  | entries :: rest => .ofEntries (entriesToToml entries) :: elementsToToml rest

end

/-! ### Values -/

def greatestDepth : Nat := 80

mutual

def value (depth : Nat) : Nat → List Char → Option (Toml × List Char)
  | 0, _ => none
  | fuel + 1, text =>
    match text with
    | '[' :: rest => if depth == 0 then none else arrayItems (depth - 1) [] fuel rest
    | '\x7b' :: rest => if depth == 0 then none else inlineEntries (depth - 1) [] fuel rest
    | '"' :: _ => (stringValue fuel text).map fun (value, rest) => (.string value, rest)
    | '\'' :: _ => (stringValue fuel text).map fun (value, rest) => (.string value, rest)
    | text => (wordValue? (splitWord text).1).map fun value => (value, (splitWord text).2)

/-- The rest of an array whose items so far are in `done`, the last one first. -/
def arrayItems (depth : Nat) (done : List Toml) : Nat → List Char → Option (Toml × List Char)
  | 0, _ => none
  | fuel + 1, text =>
    match skipLines fuel text with
    | ']' :: rest => some (.list done.reverse, rest)
    | text => do
      let (item, rest) ← value depth fuel text
      match skipLines fuel rest with
      | ',' :: rest => arrayItems depth (item :: done) fuel rest
      | ']' :: rest => return (.list (item :: done).reverse, rest)
      | _ => none

/-- The rest of an inline table that has these entries so far. -/
def inlineEntries (depth : Nat) (done : Entries) : Nat → List Char → Option (Toml × List Char)
  | 0, _ => none
  | fuel + 1, text =>
    match skipLines fuel text with
    | '\x7d' :: rest => some (.ofEntries (entriesToToml done), rest)
    | text => do
      let (path, rest) ← keyPath fuel text
      match rest with
      | '=' :: rest => do
        let (entry, rest) ← value depth fuel (skipBlanks rest)
        let (_, done) ← addEntry path entry .header done
        match skipLines fuel rest with
        | ',' :: rest => inlineEntries depth done fuel rest
        | '\x7d' :: rest => return (.ofEntries (entriesToToml done), rest)
        | _ => none
      | _ => none

end

/-! ### Statements -/

/-- The statements of a document, read into `root`; `header` is the path of the table they belong to. -/
def statements (header : List String) (root : Entries) : Nat → List Char → Option Entries
  | 0, _ => none
  | fuel + 1, text =>
    match skipLines fuel text with
    | [] => some root
    | '[' :: '[' :: rest => do
      let (path, rest) ← keyPath fuel rest
      match rest with
      | ']' :: ']' :: rest => do
        let rest ← afterLine? rest
        statements path (← openElement path root) fuel rest
      | _ => none
    | '[' :: rest => do
      let (path, rest) ← keyPath fuel rest
      match rest with
      | ']' :: rest => do
        let rest ← afterLine? rest
        statements path (← openTable path root) fuel rest
      | _ => none
    | text => do
      let (path, rest) ← keyPath fuel text
      match rest with
      | '=' :: rest => do
        let (entry, rest) ← value greatestDepth fuel (skipBlanks rest)
        let rest ← afterLine? rest
        let (_, root) ← changeAt false (addEntry path entry) header .header root
        statements header root fuel rest
      | _ => none

def dropByteOrderMark (text : List Char) : List Char :=
  match text with
  | '\uFEFF' :: rest => rest
  | text => text

def ofText? (text : String) : Option (List (String × Toml)) := do
  let chars := dropByteOrderMark text.toList
  let root ← statements [] [] (2 * chars.length + 2) chars
  match Toml.ofEntries (entriesToToml root) with
  | .table entries => return entries
  | _ => none

end LedgerCapture.Toml
