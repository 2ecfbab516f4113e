import QuestAcademy.Document
import QuestAcademy.Keyed
import QuestAcademy.Yaml.Scalar

/-!
Nodes: the tree that a YAML text describes, with the aliases still in it. Following the aliases
turns a node into a document.
-/

namespace QuestAcademy.Yaml

inductive Node
  | scalar (plain : Bool) (text : String)
  | list (items : List Node)
  | record (entries : List (Node × Node))
  | reference (anchor : Nat)
  | decorated (anchor : Option Nat) (tag : Option String) (content : Node)

namespace Node

mutual

/-- How many signs a node consists of: one for a scalar or an alias, two for the ends of anything
else. -/
def signs : Node → Nat
  | scalar _ _ => 1
  | list items => 2 + signsOfItems items
  | record entries => 2 + signsOfEntries entries
  | reference _ => 1
  | decorated _ _ content => signs content

def signsOfItems : List Node → Nat
  | [] => 0
  | item :: rest => signs item + signsOfItems rest

def signsOfEntries : List (Node × Node) → Nat
  | [] => 0
  | (key, value) :: rest => signs key + signs value + signsOfEntries rest

end

mutual

def anchored : Node → List (Nat × Node)
  | scalar _ _ => []
  | list items => anchoredItems items
  | record entries => anchoredEntries entries
  | reference _ => []
  | decorated (some anchor) tag content =>
    (anchor, decorated none tag content) :: anchored content
  | decorated none _ content => anchored content

def anchoredItems : List Node → List (Nat × Node)
  | [] => []
  | item :: rest => anchored item ++ anchoredItems rest

def anchoredEntries : List (Node × Node) → List (Nat × Node)
  | [] => []
  | (key, value) :: rest => anchored key ++ anchored value ++ anchoredEntries rest

end

def scalarKey (s : String) : Option Meaning → Key
  | some (.text _) => .text s
  | _ => .scalar s

def keyOf : Document → Key
  | .text s => .text s
  | .bare s => scalarKey s (meaning s)
  | .tagged tag (.text s) => scalarKey s (taggedMeaning? tag s)
  | .tagged tag (.bare s) => scalarKey s (taggedMeaning? tag s)
  | _ => .unusable

def depthLimit : Nat := 128

/-- For every sign of a text that many aliases may be followed. -/
def aliasLimit : Nat := 100

mutual

/-- The document of a node. `links` bounds how many aliases lie on one path, so that no alias is
followed into itself for ever; `left` is how many may still be followed altogether, and is returned
with the document. What lies beyond a bound is unusable. -/
def resolve (table : List (Nat × Node)) (links depth left : Nat) : Node → Document × Nat
  | scalar plain text => (if plain then .bare text else .text text, left)
  | list items =>
    match depth with
    | 0 => (.unusable, left)
    | depth + 1 =>
      let (items, left) := resolveItems table links depth left items
      (.list items, left)
  | record entries =>
    match depth with
    | 0 => (.unusable, left)
    | depth + 1 =>
      let (entries, left) := resolveEntries table links depth left entries
      (.record entries, left)
  | reference anchor =>
    match links, left, table.lookup anchor with
    | links + 1, left + 1, some node => resolve table links depth left node
    | _, left, _ => (.unusable, left)
  | decorated _ none content => resolve table links depth left content
  | decorated _ (some tag) content =>
    let (content, left) := resolve table links depth left content
    (.tagged tag content, left)
termination_by node => (links, sizeOf node)

def resolveItems (table : List (Nat × Node)) (links depth left : Nat) :
    List Node → List Document × Nat
  | [] => ([], left)
  | item :: rest =>
    let (first, left) := resolve table links depth left item
    let (more, left) := resolveItems table links depth left rest
    (first :: more, left)
termination_by items => (links, sizeOf items)

def resolveEntries (table : List (Nat × Node)) (links depth left : Nat) :
    List (Node × Node) → List (Key × Document) × Nat
  | [] => ([], left)
  | (key, value) :: rest =>
    let (key, left) := resolve table links depth left key
    let (value, left) := resolve table links depth left value
    let (more, left) := resolveEntries table links depth left rest
    ((keyOf key, value) :: more, left)
termination_by entries => (links, sizeOf entries)

end

/-- The document that a node describes. When several nodes have one anchor, the last is meant. -/
def toDocument (node : Node) : Document :=
  let table := node.anchored.reverse
  (resolve table table.length depthLimit (aliasLimit * node.signs) node).1

end Node

end QuestAcademy.Yaml
