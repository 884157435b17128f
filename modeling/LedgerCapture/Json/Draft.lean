import LedgerCapture.Json.Token

/-!
The tree of a JSON text, before anything is known of the type it is read at. A draft stands for every
text, also for a faulty one: where the text goes wrong the tree has a `missing` value or an ending that
is not `closed`, and a reader that goes through the draft in order meets the fault where it meets it
in the text.
-/
namespace LedgerCapture.Json

inductive Ending where
  /-- the closing bracket -/
  | closed
  /-- the end of the text, after an item -/
  | textEnds
  /-- anything but a comma or the closing bracket -/
  | stray
  /-- the closing bracket, after a comma -/
  | commaThenClosed
  /-- the end of the text, after a comma -/
  | commaThenTextEnds
  /-- something other than a string, where the name of a member should stand -/
  | keyNotString
  /-- a faulty string, where the name of a member should stand -/
  | brokenKey (key : Scalar String)

inductive Draft where
  | missing (fault : SyntaxError)
  | literal (value : Literal)
  | number (value : Scalar Number)
  | string (value : Scalar String)
  | list (items : List Draft) (ending : Ending)
  | object (members : List (Scalar String × Draft)) (ending : Ending)

namespace Draft

/-- An array or object that is not complete yet, without the part that is being read. The items and
members are listed the last one first. -/
inductive Frame where
  | list (items : List Draft)
  | object (members : List (Scalar String × Draft)) (key : Scalar String)

inductive Phase where
  | value
  | firstItem
  | nextItem (items : List Draft)
  | afterItem (items : List Draft)
  | firstKey
  | nextKey (members : List (Scalar String × Draft))
  | afterKey (members : List (Scalar String × Draft)) (key : Scalar String)
  | afterMember (members : List (Scalar String × Draft))

inductive Progress where
  | reading (frames : List Frame) (phase : Phase)
  /-- The first value of the text is complete, or as complete as it can get. `more` tells whether a token
  follows it. -/
  | complete (value : Draft) (more : Bool)

def place (value : Draft) : List Frame → Progress
  | [] => .complete value false
  | .list items :: frames => .reading frames (.afterItem (value :: items))
  | .object members key :: frames => .reading frames (.afterMember ((key, value) :: members))

/-- Breaks off at a faulty value: all frames end with it. -/
def breakOff (value : Draft) : List Frame → Draft
  | [] => value
  | .list items :: frames => breakOff (.list (value :: items).reverse .textEnds) frames
  | .object members key :: frames => breakOff (.object ((key, value) :: members).reverse .textEnds) frames

def stop (value : Draft) (frames : List Frame) : Progress :=
  .complete (breakOff value frames) false

/-- Places a scalar, or breaks off if not even passing over it is possible. -/
def placeScalar (value : Draft) (skip : Except SyntaxError Unit) (frames : List Frame) : Progress :=
  match skip with
  | .ok _ => place value frames
  | .error _ => stop value frames

def start (frames : List Frame) : Token → Progress
  | .openList => .reading frames .firstItem
  | .openObject => .reading frames .firstKey
  | .literal (.ok value) => place (.literal value) frames
  | .literal (.error fault) => stop (.missing fault) frames
  | .number value => placeScalar (.number value) value.skip frames
  | .string value => placeScalar (.string value) value.skip frames
  | .closeList | .closeObject | .colon | .comma | .stray => stop (.missing .expectedValue) frames

def startKey (frames : List Frame) (members : List (Scalar String × Draft)) : Token → Progress
  | .string key =>
    match key.skip with
    | .ok _ => .reading frames (.afterKey members key)
    | .error _ => stop (.object members.reverse (.brokenKey key)) frames
  | _ => stop (.object members.reverse .keyNotString) frames

def step (progress : Progress) (token : Token) : Progress :=
  match progress with
  | .complete value _ => .complete value true
  | .reading frames phase =>
    match phase with
    | .value => start frames token
    | .firstItem =>
      match token with
      | .closeList => place (.list [] .closed) frames
      | token => start (.list [] :: frames) token
    | .nextItem items =>
      match token with
      | .closeList => stop (.list items.reverse .commaThenClosed) frames
      | token => start (.list items :: frames) token
    | .afterItem items =>
      match token with
      | .comma => .reading frames (.nextItem items)
      | .closeList => place (.list items.reverse .closed) frames
      | _ => stop (.list items.reverse .stray) frames
    | .firstKey =>
      match token with
      | .closeObject => place (.object [] .closed) frames
      | token => startKey frames [] token
    | .nextKey members =>
      match token with
      | .closeObject => stop (.object members.reverse .commaThenClosed) frames
      | token => startKey frames members token
    | .afterKey members key =>
      match token with
      | .colon => .reading (.object members key :: frames) .value
      | _ => stop (.missing .expectedColon) (.object members key :: frames)
    | .afterMember members =>
      match token with
      | .comma => .reading frames (.nextKey members)
      | .closeObject => place (.object members.reverse .closed) frames
      | _ => stop (.object members.reverse .stray) frames

/-- The draft of a text that ends here, and whether a token followed it. -/
def finish : Progress → Draft × Bool
  | .complete value more => (value, more)
  | .reading frames phase =>
    let value :=
      match phase with
      | .value => breakOff (.missing .endInValue) frames
      | .firstItem => breakOff (.list [] .textEnds) frames
      | .nextItem items => breakOff (.list items.reverse .commaThenTextEnds) frames
      | .afterItem items => breakOff (.list items.reverse .textEnds) frames
      | .firstKey => breakOff (.object [] .textEnds) frames
      | .nextKey members => breakOff (.object members.reverse .commaThenTextEnds) frames
      | .afterKey members key => breakOff (.missing .endInObject) (.object members key :: frames)
      | .afterMember members => breakOff (.object members.reverse .textEnds) frames
    (value, false)

/-- The draft of the value at the start of the text, and whether anything but blanks follows it. -/
def ofText (text : String) : Draft × Bool :=
  finish ((tokens text.toList).foldl step (.reading [] .value))

mutual

def ofJson : Json → Draft
  | .null => .literal .null
  | .boolean value => .literal (.boolean value)
  | .number value => .number (.sound value)
  | .string value => .string (.sound value)
  | .list items => .list (ofItems items) .closed
  | .object members => .object (ofMembers members) .closed

def ofItems : List Json → List Draft
  | [] => []
  | item :: rest => ofJson item :: ofItems rest

def ofMembers : List (String × Json) → List (Scalar String × Draft)
  | [] => []
  | (name, value) :: rest => (.sound name, ofJson value) :: ofMembers rest

end

end Draft

end LedgerCapture.Json
