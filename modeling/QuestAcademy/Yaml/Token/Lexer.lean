import QuestAcademy.Yaml.ScalarText
import QuestAcademy.Yaml.Token
import QuestAcademy.Yaml.Token.Tag

/-!
Splitting a YAML text into tokens. A key is known as a key only when its colon comes, so the places
where a key may have begun are remembered, and the tokens that open it are put there afterwards.
-/

namespace QuestAcademy.Yaml

/-- A place where a key may have begun. -/
structure KeyPlace where
  before : Nat
  /-- A key has to begin here, since the place is at the indentation of a record. -/
  required : Bool
  index : Nat
  line : Nat
  column : Nat

/-- How far a key may stretch before its colon. -/
def keyReach : Nat := 1024

structure Lexer where
  cursor : Cursor
  tokens : List Token
  indents : List Nat
  /-- For each open bracket or brace and for the blocks around them the place where a key may have
  begun, the innermost first. -/
  keyPlaces : List (Option KeyPlace)
  keyAllowed : Bool

namespace Lexer

def ofText (s : String) : Lexer :=
  { cursor := Cursor.ofText s
    tokens := []
    indents := []
    keyPlaces := [none]
    keyAllowed := true }

def inFlow (lexer : Lexer) : Bool :=
  1 < lexer.keyPlaces.length

def push (lexer : Lexer) (token : Token) : Lexer :=
  { lexer with tokens := token :: lexer.tokens }

def putAt (lexer : Lexer) (before : Nat) (token : Token) : Lexer :=
  let later := lexer.tokens.length - before
  { lexer with tokens := lexer.tokens.take later ++ token :: lexer.tokens.drop later }

/-- Ends the blocks that are indented further than a column; without a column, all blocks. -/
def closeBlocks (column : Option Nat) : List Nat → List Token → List Nat × List Token
  | [], tokens => ([], tokens)
  | indent :: rest, tokens =>
    if column.all (· < indent) then closeBlocks column rest (.blockEnd :: tokens)
    else (indent :: rest, tokens)

def unindent (lexer : Lexer) (column : Option Nat) : Lexer :=
  if lexer.inFlow then lexer
  else
    let (indents, tokens) := closeBlocks column lexer.indents lexer.tokens
    { lexer with indents, tokens }

/-- Opens a block at a column that is deeper than the innermost open block; its token goes behind so
many of the others. -/
def indent (lexer : Lexer) (column before : Nat) (token : Token) : Lexer :=
  if lexer.inFlow then lexer
  else if lexer.indents.head?.all (· < column) then
    { lexer.putAt before token with indents := column :: lexer.indents }
  else lexer

/-- Gives up the place where a key may have begun, unless a key was required there. -/
def dropKeyPlace? (lexer : Lexer) : Option Lexer :=
  match lexer.keyPlaces with
  | some place :: rest =>
    if place.required then none else some { lexer with keyPlaces := none :: rest }
  | _ => some lexer

def saveKeyPlace? (lexer : Lexer) : Option Lexer :=
  if !lexer.keyAllowed then some lexer
  else
    match lexer.dropKeyPlace? with
    | none => none
    | some lexer =>
      let c := lexer.cursor
      let place : KeyPlace :=
        { before := lexer.tokens.length
          required := !lexer.inFlow && lexer.indents.head? = some c.column
          index := c.index, line := c.line, column := c.column }
      some { lexer with keyPlaces := some place :: lexer.keyPlaces.tail }

/-- The place where the key of a colon here began; `none` when a key required there is out of
reach. -/
def reachableKey? (lexer : Lexer) : Option (Option KeyPlace) :=
  match lexer.keyPlaces with
  | some place :: _ =>
    if place.line = lexer.cursor.line && lexer.cursor.index ≤ place.index + keyReach then
      some (some place)
    else if place.required then none
    else some none
  | _ => some none

def openFlow? (lexer : Lexer) (token : Token) : Option Lexer := do
  let lexer ← lexer.saveKeyPlace?
  return { lexer.push token with
    keyPlaces := none :: lexer.keyPlaces, keyAllowed := true, cursor := lexer.cursor.skip 1 }

def closeFlow? (lexer : Lexer) (token : Token) : Option Lexer := do
  let lexer ← lexer.dropKeyPlace?
  let outer := match lexer.keyPlaces with
    | _ :: place :: rest => place :: rest
    | places => places
  return { lexer.push token with
    keyPlaces := outer, keyAllowed := false, cursor := lexer.cursor.skip 1 }

def comma? (lexer : Lexer) : Option Lexer := do
  let lexer ← lexer.dropKeyPlace?
  return { lexer.push .comma with keyAllowed := true, cursor := lexer.cursor.skip 1 }

/-- Opens a block for a sign that stands by itself; in a block this needs a place where a key may
begin. -/
def openBlock? (lexer : Lexer) (token : Token) : Option Lexer :=
  if lexer.inFlow then some lexer
  else if !lexer.keyAllowed then none
  else some (lexer.indent lexer.cursor.column lexer.tokens.length token)

def item? (lexer : Lexer) : Option Lexer := do
  let lexer ← lexer.openBlock? .listBlock
  let lexer ← lexer.dropKeyPlace?
  return { lexer.push .item with keyAllowed := true, cursor := lexer.cursor.skip 1 }

def key? (lexer : Lexer) : Option Lexer := do
  let lexer ← lexer.openBlock? .recordBlock
  let lexer ← lexer.dropKeyPlace?
  return { lexer.push .key with keyAllowed := !lexer.inFlow, cursor := lexer.cursor.skip 1 }

def value? (lexer : Lexer) : Option Lexer := do
  let lexer ← match ← lexer.reachableKey? with
    | some place =>
      let lexer := (lexer.putAt place.before .key).indent place.column place.before .recordBlock
      some { lexer with keyPlaces := none :: lexer.keyPlaces.tail, keyAllowed := false }
    | none => do
      let lexer ← lexer.openBlock? .recordBlock
      some { lexer with keyAllowed := !lexer.inFlow }
  return { lexer.push .value with cursor := lexer.cursor.skip 1 }

def nameToken? (lexer : Lexer) (make : String → Token) : Option Lexer := do
  let lexer ← lexer.saveKeyPlace?
  let (name, c) := (lexer.cursor.skip 1).span isNameChar
  let ended := atWordEnd c.rest
    || c.rest.head?.any fun d => ['?', ':', ',', ']', endBrace, '%', '@', '\x60'].contains d
  if name.isEmpty || !ended then none
  else return { lexer.push (make (String.ofList name)) with keyAllowed := false, cursor := c }

def tagToken? (lexer : Lexer) : Option Lexer := do
  let lexer ← lexer.saveKeyPlace?
  let ((handle, suffix), c) ← lexer.cursor.tag? lexer.inFlow
  return { lexer.push (.tag handle suffix) with keyAllowed := false, cursor := c }

def plainToken? (lexer : Lexer) : Option Lexer := do
  let lexer ← lexer.saveKeyPlace?
  let floor := match lexer.indents.head? with
    | some column => column + 1
    | none => 0
  let scalar ← lexer.cursor.plain? lexer.inFlow floor
  return { lexer.push (.scalar true (String.ofList scalar.text)) with
    keyAllowed := scalar.brokeLine, cursor := scalar.cursor }

def quotedToken? (lexer : Lexer) (single : Bool) : Option Lexer := do
  let lexer ← lexer.saveKeyPlace?
  let (text, c) ← lexer.cursor.quoted? single
  return { lexer.push (.scalar false (String.ofList text)) with keyAllowed := false, cursor := c }

def blockToken? (lexer : Lexer) (literal : Bool) : Option Lexer := do
  let lexer ← lexer.dropKeyPlace?
  let (text, c) ← lexer.cursor.block? literal lexer.indents.head?
  return { lexer.push (.scalar false (String.ofList text)) with keyAllowed := true, cursor := c }

def endBlocks? (lexer : Lexer) : Option Lexer := do
  let lexer ← (lexer.unindent none).dropKeyPlace?
  return { lexer with keyAllowed := false }

def documentToken? (lexer : Lexer) (token : Token) : Option Lexer := do
  let lexer ← lexer.endBlocks?
  return { lexer.push token with cursor := lexer.cursor.skip 3 }

def directiveToken? (lexer : Lexer) : Option Lexer := do
  let lexer ← lexer.endBlocks?
  let (directive, c) ← lexer.cursor.directive?
  let token := match directive with
    | .version major minor => Token.version major minor
    | .tagHandle handle start => Token.tagHandle handle start
  return { lexer.push token with cursor := c }

/-- To the next token, over blanks, comments and line breaks. Outside brackets a key may begin after
every line break, and tabs are blanks only where none may begin. -/
def advance : Nat → Lexer → Lexer
  | 0, lexer => lexer
  | fuel + 1, lexer =>
    let tabs := lexer.inFlow || !lexer.keyAllowed
    let c := lexer.cursor.skipMark.skipWhile fun d => d = ' ' || (tabs && d = '\t')
    let c := c.skipComment
    match c.break? with
    | some (_, c) =>
      advance fuel { lexer with cursor := c, keyAllowed := lexer.keyAllowed || !lexer.inFlow }
    | none => { lexer with cursor := c }

private def isIndicator (c : Char) : Bool :=
  ['-', '?', ':', ',', '[', ']', startBrace, endBrace, '#', '&', '*', '!', '|', '>', '\'', '"', '%',
    '@', '\x60'].contains c

def token? (lexer : Lexer) (d : Char) (rest : List Char) : Option Lexer :=
  let flow := lexer.inFlow
  if lexer.cursor.column = 0 && d = '%' then lexer.directiveToken?
  else if lexer.cursor.atDocumentMark then
    lexer.documentToken? (if d = '-' then .documentStart else .documentEnd)
  else if d = '[' then lexer.openFlow? .openList
  else if d = startBrace then lexer.openFlow? .openRecord
  else if d = ']' then lexer.closeFlow? .closeList
  else if d = endBrace then lexer.closeFlow? .closeRecord
  else if d = ',' then lexer.comma?
  else if d = '-' && atWordEnd rest then lexer.item?
  else if d = '?' && (flow || atWordEnd rest) then lexer.key?
  else if d = ':' && (flow || atWordEnd rest) then lexer.value?
  else if d = '*' then lexer.nameToken? .reference
  else if d = '&' then lexer.nameToken? .anchor
  else if d = '!' then lexer.tagToken?
  else if d = '|' && !flow then lexer.blockToken? true
  else if d = '>' && !flow then lexer.blockToken? false
  else if d = '\'' then lexer.quotedToken? true
  else if d = '"' then lexer.quotedToken? false
  else if !isGap d && !isIndicator d then lexer.plainToken?
  else if d = '-' && !rest.head?.any isBlank then lexer.plainToken?
  else if !flow && (d = '?' || d = ':') && !atWordEnd rest then lexer.plainToken?
  else none

/-- All tokens from here on. Every step takes at least one character, so the length of the text is
fuel enough. -/
def run : Nat → Lexer → Option Lexer
  | 0, _ => none
  | fuel + 1, lexer =>
    let lexer := lexer.advance (lexer.cursor.rest.length + 1)
    let lexer := lexer.unindent (some lexer.cursor.column)
    match lexer.cursor.rest with
    | [] => lexer.endBlocks?
    | d :: rest =>
      match lexer.token? d rest with
      | none => none
      | some lexer => run fuel lexer

end Lexer

def tokens? (s : String) : Option (List Token) :=
  if s.toList.all isAllowed then
    (Lexer.run (s.toList.length + 1) (Lexer.ofText s)).map fun lexer => lexer.tokens.reverse
  else none

end QuestAcademy.Yaml
