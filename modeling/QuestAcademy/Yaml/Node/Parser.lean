import QuestAcademy.Yaml.Node
import QuestAcademy.Yaml.Token.Lexer

namespace QuestAcademy.Yaml

/-- The tokens that are left, with what has been agreed on so far. -/
structure Supply where
  tokens : List Token
  anchors : List (String × Nat)
  handles : List (String × String)

namespace Supply

def next? (supply : Supply) : Option Token :=
  supply.tokens.head?

def skip (supply : Supply) : Supply :=
  { supply with tokens := supply.tokens.tail }

def addAnchor (supply : Supply) (name : String) : Nat × Supply :=
  let number := supply.anchors.length
  (number, { supply with anchors := Keyed.insert name number supply.anchors })

def tag? (supply : Supply) (handle suffix : String) : Option String :=
  if handle = "" then some suffix
  else (supply.handles.lookup handle).map (· ++ suffix)

def decorations? (supply : Supply) : Option (Option String × Option String × Supply) :=
  match supply.tokens with
  | .anchor name :: .tag handle suffix :: rest => do
    return (some name, some (← supply.tag? handle suffix), { supply with tokens := rest })
  | .tag handle suffix :: .anchor name :: rest => do
    return (some name, some (← supply.tag? handle suffix), { supply with tokens := rest })
  | .anchor name :: rest => some (some name, none, { supply with tokens := rest })
  | .tag handle suffix :: rest => do
    return (none, some (← supply.tag? handle suffix), { supply with tokens := rest })
  | _ => some (none, none, supply)

end Supply

/-- The scalar that stands where a text leaves a node out. -/
def Node.missing : Node := .scalar true ""

def plainTag : String := "!"

private def endsItem : Option Token → Bool
  | some .item | some .blockEnd | none => true
  | _ => false

private def endsLooseItem : Option Token → Bool
  | some .item | some .key | some .value | some .blockEnd | none => true
  | _ => false

private def endsMember : Option Token → Bool
  | some .key | some .value | some .blockEnd | none => true
  | _ => false

private def endsFlowItem : Option Token → Bool
  | some .value | some .comma | some .closeList | none => true
  | _ => false

private def endsFlowMember : Option Token → Bool
  | some .value | some .comma | some .closeRecord | none => true
  | _ => false

def missing? (anchor : Option Nat) (tag : Option String) (supply : Supply) :
    Option (Node × Supply) :=
  if anchor.isNone && tag.isNone then none
  else some (.decorated anchor tag .missing, supply)

mutual

/-- A node. Where blocks are allowed it may be a block; where loose items are allowed also a list
that is not indented. Every call takes a token or leads to one that does, so three calls for each
token are fuel enough. -/
def node? (block loose : Bool) : Nat → Supply → Option (Node × Supply)
  | 0, _ => none
  | fuel + 1, supply =>
    match supply.next? with
    | some (.reference name) => do
      return (.reference (← Keyed.find? name supply.anchors), supply.skip)
    | _ => do
      let (name, tag, supply) ← supply.decorations?
      let (anchor, supply) := match name with
        | none => (none, supply)
        | some name => let (number, supply) := supply.addAnchor name; (some number, supply)
      let decorate (tag : Option String) (content : Node) : Node :=
        if anchor.isNone && tag.isNone then content else .decorated anchor tag content
      match supply.next? with
      | some (.scalar plain text) =>
        let tag := if tag = some plainTag then none else tag
        return (decorate tag (.scalar plain text), supply.skip)
      | some .openList => do
        let (items, supply) ← flowItems? true fuel supply.skip
        return (decorate tag (.list items), supply)
      | some .openRecord => do
        let (entries, supply) ← flowMembers? true fuel supply.skip
        return (decorate tag (.record entries), supply)
      | some .item =>
        if loose then do
          let (items, supply) ← looseItems? fuel supply
          return (decorate tag (.list items), supply)
        else missing? anchor tag supply
      | some .listBlock =>
        if block then do
          let (items, supply) ← blockItems? fuel supply.skip
          return (decorate tag (.list items), supply)
        else missing? anchor tag supply
      | some .recordBlock =>
        if block then do
          let (entries, supply) ← blockMembers? fuel supply.skip
          return (decorate tag (.record entries), supply)
        else missing? anchor tag supply
      | _ => missing? anchor tag supply

def blockItems? : Nat → Supply → Option (List Node × Supply)
  | 0, _ => none
  | fuel + 1, supply =>
    match supply.next? with
    | some .item => do
      let supply := supply.skip
      let (first, supply) ←
        if endsItem supply.next? then some (Node.missing, supply) else node? true false fuel supply
      let (more, supply) ← blockItems? fuel supply
      return (first :: more, supply)
    | some .blockEnd => some ([], supply.skip)
    | _ => none

def looseItems? : Nat → Supply → Option (List Node × Supply)
  | 0, _ => none
  | fuel + 1, supply =>
    match supply.next? with
    | some .item => do
      let supply := supply.skip
      let (first, supply) ←
        if endsLooseItem supply.next? then some (Node.missing, supply)
        else node? true false fuel supply
      let (more, supply) ← looseItems? fuel supply
      return (first :: more, supply)
    | _ => some ([], supply)

def blockMembers? : Nat → Supply → Option (List (Node × Node) × Supply)
  | 0, _ => none
  | fuel + 1, supply =>
    match supply.next? with
    | some .blockEnd => some ([], supply.skip)
    | some .key => do
      let supply := supply.skip
      let (key, supply) ←
        if endsMember supply.next? then some (Node.missing, supply) else node? true true fuel supply
      let (value, supply) ← blockValue? fuel supply
      let (more, supply) ← blockMembers? fuel supply
      return ((key, value) :: more, supply)
    | _ => none

def blockValue? : Nat → Supply → Option (Node × Supply)
  | 0, _ => none
  | fuel + 1, supply =>
    match supply.next? with
    | some .value =>
      let supply := supply.skip
      if endsMember supply.next? then some (.missing, supply) else node? true true fuel supply
    | _ => some (.missing, supply)

/-- The items of a list between brackets. An item with a key is a record of one entry. -/
def flowItems? (first : Bool) : Nat → Supply → Option (List Node × Supply)
  | 0, _ => none
  | fuel + 1, supply =>
    match supply.next? with
    | some .closeList => some ([], supply.skip)
    | next => do
      let supply ←
        if first then some supply
        else if next = some .comma then some supply.skip
        else none
      match supply.next? with
      | some .closeList => return ([], supply.skip)
      | some .key =>
        let supply := supply.skip
        let (key, supply) ←
          if endsFlowItem supply.next? then some (Node.missing, supply.skip)
          else node? false false fuel supply
        let (value, supply) ← flowItemValue? fuel supply
        let (more, supply) ← flowItems? false fuel supply
        return (.record [(key, value)] :: more, supply)
      | _ =>
        let (item, supply) ← node? false false fuel supply
        let (more, supply) ← flowItems? false fuel supply
        return (item :: more, supply)

def flowItemValue? : Nat → Supply → Option (Node × Supply)
  | 0, _ => none
  | fuel + 1, supply =>
    match supply.next? with
    | some .value =>
      let supply := supply.skip
      match supply.next? with
      | some .comma | some .closeList => some (.missing, supply)
      | _ => node? false false fuel supply
    | _ => some (.missing, supply)

def flowMembers? (first : Bool) : Nat → Supply → Option (List (Node × Node) × Supply)
  | 0, _ => none
  | fuel + 1, supply =>
    match supply.next? with
    | some .closeRecord => some ([], supply.skip)
    | next => do
      let supply ←
        if first then some supply
        else if next = some .comma then some supply.skip
        else none
      match supply.next? with
      | some .closeRecord => return ([], supply.skip)
      | some .key =>
        let supply := supply.skip
        let (key, supply) ←
          if endsFlowMember supply.next? then some (Node.missing, supply)
          else node? false false fuel supply
        let (value, supply) ← flowMemberValue? fuel supply
        let (more, supply) ← flowMembers? false fuel supply
        return ((key, value) :: more, supply)
      | _ =>
        let (key, supply) ← node? false false fuel supply
        let (more, supply) ← flowMembers? false fuel supply
        return ((key, .missing) :: more, supply)

def flowMemberValue? : Nat → Supply → Option (Node × Supply)
  | 0, _ => none
  | fuel + 1, supply =>
    match supply.next? with
    | some .value =>
      let supply := supply.skip
      match supply.next? with
      | some .comma | some .closeRecord => some (.missing, supply)
      | _ => node? false false fuel supply
    | _ => some (.missing, supply)

end

def directives? : Bool → Supply → List Token → Option Supply
  | versioned, supply, .version major minor :: rest =>
    if versioned || major ≠ 1 || (minor ≠ 1 && minor ≠ 2) then none
    else directives? true supply rest
  | versioned, supply, .tagHandle handle start :: rest =>
    if (supply.handles.lookup handle).isSome then none
    else directives? versioned { supply with handles := supply.handles ++ [(handle, start)] } rest
  | _, supply, rest => some { supply with tokens := rest }

/-- What the handles stand for that need no directive. -/
def standardHandles : List (String × String) :=
  [("!", "!"), ("!!", "tag:yaml.org,2002:")]

private def endsDocument : Option Token → Bool
  | some (.version _ _) | some (.tagHandle _ _) | some .documentStart | some .documentEnd => true
  | none => true
  | _ => false

/-- The only document of a text; an empty text is an empty scalar. -/
def Node.ofTokens? (tokens : List Token) : Option Node := do
  let fuel := 3 * tokens.length + 3
  if tokens.isEmpty then return .missing
  else
    let explicit := match tokens with
      | .version _ _ :: _ | .tagHandle _ _ :: _ | .documentStart :: _ => true
      | _ => false
    let declared ← directives? false ⟨tokens, [], []⟩ tokens
    let supply := { declared with handles := declared.handles ++ standardHandles }
    let (node, supply) ←
      if explicit then
        if supply.next? ≠ some .documentStart then none
        else if endsDocument supply.skip.next? then some (Node.missing, supply.skip)
        else node? true false fuel supply.skip
      else node? true false fuel supply
    if (supply.tokens.dropWhile (· = .documentEnd)).isEmpty then return node else none

def parse? (s : String) : Option Document := do
  return (← Node.ofTokens? (← tokens? s)).toDocument

end QuestAcademy.Yaml
