import QuestAcademy.Json

/-!
What quests carry: an input for the agent and the output it produced. A payload is a tree of
scalars, lists and maps. A document becomes a payload by the first kind of payload that it fits;
a JSON value becomes one kind by kind. Both ways, integers of 64 bits stay integers and all other
numbers become floating.
-/

namespace QuestAcademy

inductive Payload
  | null
  | bool (b : Bool)
  | int (i : Int)
  | float (x : Float)
  | text (s : String)
  | list (items : List Payload)
  | map (entries : List (String × Payload))
  deriving Inhabited

namespace Payload

def nullOf : Yaml.Meaning → Option Payload
  | .null => some null
  | _ => none

def boolOf : Yaml.Meaning → Option Payload
  | .bool b => some (bool b)
  | _ => none

def intOf : Yaml.Meaning → Option Payload
  | .int i => if Limit.holdsSigned i then some (int i) else none
  | _ => none

def floatOf : Yaml.Meaning → Option Payload
  | .int i => some (float (Decimal.ofInt i))
  | .float x => some (float x)
  | _ => none

def textOf : Yaml.Meaning → Option Payload
  | .text s => some (text s)
  | _ => none

def ofMeaning? (m : Yaml.Meaning) : Option Payload :=
  nullOf m <|> boolOf m <|> intOf m <|> floatOf m <|> textOf m

/-- A key of a map: a text, and not what only looks like one. -/
def mapKey? : Key → Option String
  | .text s => some s
  | .scalar _ | .unusable => none

mutual

/-- The first kind of payload that a document fits. -/
def ofDocument? : Document → Option Payload
  | .list items => (ofItems? items).map list
  | .record entries => (ofEntries? entries).map fun members => map (Keyed.ofList members)
  | .tagged tag content =>
    match content with
    | .list _ | .record _ => if Yaml.isLocalTag tag then none else ofDocument? content
    | _ => (Reading.scalarMeaning (.tagged tag content)).bind ofMeaning?
  | d => (Reading.scalarMeaning d).bind ofMeaning?

def ofItems? : List Document → Option (List Payload)
  | [] => some []
  | d :: rest => do return (← ofDocument? d) :: (← ofItems? rest)

def ofEntries? : List (Key × Document) → Option (List (String × Payload))
  | [] => some []
  | (key, d) :: rest => do return (← mapKey? key, ← ofDocument? d) :: (← ofEntries? rest)

end

def read : Reading Payload := fun _ d => ofDocument? d

mutual

def ofJson : Json → Payload
  | .null => null
  | .bool b => bool b
  | .int i => if Limit.holdsSigned i then int i else float (Decimal.ofInt i)
  | .float x => float x
  | .text s => text s
  | .list items => list (ofJsonItems items)
  | .object members => map (Keyed.ofList (ofMembers members))

def ofJsonItems : List Json → List Payload
  | [] => []
  | item :: rest => ofJson item :: ofJsonItems rest

def ofMembers : List (String × Json) → List (String × Payload)
  | [] => []
  | (key, member) :: rest => (key, ofJson member) :: ofMembers rest

end

mutual

def toJson : Payload → Json
  | null => .null
  | bool b => .bool b
  | int i => .int i
  | float x => Json.number x
  | text s => .text s
  | list items => .list (toJsonItems items)
  | map entries => .object (toMembers entries)

def toJsonItems : List Payload → List Json
  | [] => []
  | item :: rest => toJson item :: toJsonItems rest

def toMembers : List (String × Payload) → List (String × Json)
  | [] => []
  | (key, entry) :: rest => (key, toJson entry) :: toMembers rest

end

def toDocument (p : Payload) : Document :=
  p.toJson.toDocument

def withEntry (p : Payload) (key : String) (value : Payload) : Payload :=
  match p with
  | map entries => map (Keyed.insert key value entries)
  | p => p

def get? (key : String) : Payload → Option Payload
  | map entries => Keyed.find? key entries
  | _ => none

def isNull : Payload → Bool
  | null => true
  | _ => false

def text? : Payload → Option String
  | text s => some s
  | _ => none

def bool? : Payload → Option Bool
  | bool b => some b
  | _ => none

def float? : Payload → Option Float
  | int i => some (Decimal.ofInt i)
  | float x => some x
  | _ => none

end Payload

end QuestAcademy
