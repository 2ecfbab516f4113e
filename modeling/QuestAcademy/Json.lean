import QuestAcademy.Decimal.Layout
import QuestAcademy.Document.Reading
import QuestAcademy.Keyed
import QuestAcademy.Text.Hexadecimal

namespace QuestAcademy

inductive Json
  | null
  | bool (b : Bool)
  | int (i : Int)
  | float (x : Float)
  | text (s : String)
  | list (items : List Json)
  | object (members : List (String × Json))
  deriving Inhabited

namespace Json

def number (x : Float) : Json :=
  if x.isFinite then float x else null

def ofMeaning : Yaml.Meaning → Option Json
  | .null => some null
  | .bool b => some (bool b)
  | .int i => some (int i)
  | .wide => none
  | .float x => some (number x)
  | .text s => some (text s)

mutual

/-- The JSON value that a document is; of members with one key the last counts. -/
def ofDocument? : Document → Option Json
  | .list items => (ofItems? items).map list
  | .record entries => (ofEntries? entries).map fun members => object (Keyed.ofList members)
  | .tagged tag content =>
    match content with
    | .list _ | .record _ => if Yaml.isLocalTag tag then none else ofDocument? content
    | _ => (Reading.scalarMeaning (.tagged tag content)).bind ofMeaning
  | d => (Reading.scalarMeaning d).bind ofMeaning

def ofItems? : List Document → Option (List Json)
  | [] => some []
  | d :: rest => do return (← ofDocument? d) :: (← ofItems? rest)

def ofEntries? : List (Key × Document) → Option (List (String × Json))
  | [] => some []
  | (key, d) :: rest => do
    return (← Reading.keyText key, ← ofDocument? d) :: (← ofEntries? rest)

end

def read : Reading Json := fun _ d => ofDocument? d

mutual

def toDocument : Json → Document
  | null => .null
  | bool b => .bool b
  | int i => .int i
  | float x => .float x
  | text s => .text s
  | list items => .list (toItems items)
  | object members => .record (toEntries members)

def toItems : List Json → List Document
  | [] => []
  | item :: rest => toDocument item :: toItems rest

def toEntries : List (String × Json) → List (Key × Document)
  | [] => []
  | (key, member) :: rest => (.text key, toDocument member) :: toEntries rest

end

def escaped (c : Char) : List Char :=
  if c = '"' then ['\\', '"']
  else if c = '\\' then ['\\', '\\']
  else if c = '\n' then ['\\', 'n']
  else if c = '\r' then ['\\', 'r']
  else if c = '\t' then ['\\', 't']
  else if c.toNat = 8 then ['\\', 'b']
  else if c.toNat = 12 then ['\\', 'f']
  else if c.toNat < 32 then
    ['\\', 'u', '0', '0', Text.hexDigit (c.toNat / 16), Text.hexDigit (c.toNat % 16)]
  else [c]

def stringText (s : String) : String :=
  String.ofList ('"' :: (s.toList.flatMap escaped ++ ['"']))

mutual

def render : Json → String
  | null => "null"
  | bool b => if b then "true" else "false"
  | int i => Decimal.signedText i
  | float x => Decimal.jsonNumbers.render x
  | text s => stringText s
  | list items => "[" ++ ",".intercalate (renderItems items) ++ "]"
  | object members => "\x7b" ++ ",".intercalate (renderMembers members) ++ "\x7d"

def renderItems : List Json → List String
  | [] => []
  | item :: rest => render item :: renderItems rest

def renderMembers : List (String × Json) → List String
  | [] => []
  | (key, member) :: rest => (stringText key ++ ":" ++ render member) :: renderMembers rest

end

end Json

end QuestAcademy
