import QuestAcademy.Decimal.Layout
import QuestAcademy.Document
import QuestAcademy.Text.Hexadecimal
import QuestAcademy.Yaml.Cursor
import QuestAcademy.Yaml.Scalar

namespace QuestAcademy.Yaml

inductive Style
  | plain
  | single
  | double
  | literal
  deriving DecidableEq

def isPrintable (c : Char) : Bool :=
  let n := c.toNat
  c = '\n' || (0x20 ≤ n && n ≤ 0x7e) || (0xa0 ≤ n && n ≤ 0xd7ff)
    || (0xe000 ≤ n && n ≤ 0xfffd && n ≠ 0xfeff)

/-- Words, in lower case, that some readers do not take for texts. -/
def ambiguousWords : List String :=
  ["y", "yes", "n", "no", "on", "off", "true", "false", "null", "nil", "~", "nan"]

/-- Whether a reader who meets the text without quotes might take it for something else. -/
def isAmbiguous (s : String) : Bool :=
  let cs := s.toList
  cs.head?.any (fun c => '0' ≤ c && c ≤ '9')
    || ambiguousWords.contains (String.ofList (cs.map Char.toLower))
    || match meaning s with
      | .text _ => false
      | _ => true

structure Features where
  signs : Bool
  multiline : Bool
  looseEnds : Bool
  spaceAtEnd : Bool
  breakThenSpace : Bool
  spaceThenBreak : Bool
  unprintable : Bool

private def hasInnerSigns : List Char → Bool
  | [] => false
  | [_] => false
  | c :: d :: rest =>
    (d = ':' && atWordEnd rest) || (d = '#' && isGap c) || hasInnerSigns (d :: rest)

private def hasFirstSign : List Char → Bool
  | [] => false
  | c :: rest =>
    ['#', ',', '[', ']', startBrace, endBrace, '&', '*', '!', '|', '>', '\'', '"', '%', '@',
      '\x60'].contains c || (['?', ':', '-'].contains c && atWordEnd rest)

private def hasPair (p q : Char → Bool) : List Char → Bool
  | c :: d :: rest => (p c && q d) || hasPair p q (d :: rest)
  | _ => false

def Features.ofText (cs : List Char) : Features :=
  let isSpace (c : Char) : Bool := c = ' '
  let isLoose (c : Char) : Bool := isSpace c || isBreak c
  { signs := ['-', '-', '-'].isPrefixOf cs || ['.', '.', '.'].isPrefixOf cs || hasFirstSign cs
      || hasInnerSigns cs
    multiline := cs.any isBreak
    looseEnds := cs.head?.any isLoose || cs.getLast?.any isLoose
    spaceAtEnd := cs.getLast?.any isSpace
    breakThenSpace := hasPair isBreak isSpace cs
    spaceThenBreak := hasPair isSpace isBreak cs
    unprintable := cs.any fun c => !isPrintable c }

namespace Features

def allowsPlain (f : Features) : Bool :=
  !f.signs && !f.multiline && !f.looseEnds && !f.unprintable

def allowsSingle (f : Features) : Bool :=
  !f.breakThenSpace && !f.spaceThenBreak && !f.unprintable

def allowsLiteral (f : Features) : Bool :=
  !f.spaceAtEnd && !f.spaceThenBreak && !f.unprintable

end Features

/-- The style of a text; `asKey` when it stands before a colon. -/
def styleOf (asKey : Bool) (s : String) : Style :=
  let cs := s.toList
  let f := Features.ofText cs
  if s.isEmpty then .single
  else if cs.contains '\n' then if f.allowsLiteral && !asKey then .literal else .double
  else if asKey && f.multiline then .double
  else if !isAmbiguous s && f.allowsPlain then .plain
  else if f.allowsSingle then .single
  else .double

private def paddedHex (width n : Nat) : List Char :=
  let ds := (Text.hexDigits n).map Char.toUpper
  List.replicate (width - ds.length) '0' ++ ds

def escaped (c : Char) : List Char :=
  if isPrintable c && !isBreak c && c ≠ '"' && c ≠ '\\' then [c]
  else
    '\\' :: match c with
    | '\x00' => ['0']
    | '\x07' => ['a']
    | '\x08' => ['b']
    | '\t' => ['t']
    | '\n' => ['n']
    | '\x0b' => ['v']
    | '\x0c' => ['f']
    | '\r' => ['r']
    | '\x1b' => ['e']
    | '"' => ['"']
    | '\\' => ['\\']
    | '\u0085' => ['N']
    | '\u2028' => ['L']
    | '\u2029' => ['P']
    | c =>
      let n := c.toNat
      if n ≤ 0xff then 'x' :: paddedHex 2 n
      else if n ≤ 0xffff then 'u' :: paddedHex 4 n
      else 'U' :: paddedHex 8 n

private def spaces (n : Nat) : List Char := List.replicate n ' '

private def singleQuoted (indent : Nat) (afterBreak : Bool) : List Char → List Char
  | [] => if afterBreak then spaces indent else []
  | c :: rest =>
    if isBreak c then c :: singleQuoted indent true rest
    else
      (if afterBreak then spaces indent else []) ++ (if c = '\'' then ['\'', '\''] else [c])
        ++ singleQuoted indent false rest

private def literalLines (indent : Nat) (afterBreak : Bool) : List Char → List Char
  | [] => []
  | c :: rest =>
    if isBreak c then c :: literalLines indent true rest
    else (if afterBreak then spaces indent else []) ++ c :: literalLines indent false rest

/-- The marks behind the sign of a literal block: an indentation that cannot be seen, and what its
end is like. -/
private def literalMarks (cs : List Char) : List Char :=
  let indent := if cs.head?.any fun c => c = ' ' || isBreak c then ['2'] else []
  let ending := match cs.reverse with
    | [] => ['-']
    | [c] => if isBreak c then ['+'] else ['-']
    | c :: d :: _ => if !isBreak c then ['-'] else if isBreak d then ['+'] else []
  indent ++ ending

/-- A text on the line where its key or dash stands; lines after the first are indented. -/
def textScalar (asKey : Bool) (indent : Nat) (s : String) : List Char :=
  let cs := s.toList
  match styleOf asKey s with
  | .plain => cs
  | .single => '\'' :: (singleQuoted indent false cs ++ ['\''])
  | .double => '"' :: (cs.flatMap escaped ++ ['"'])
  | .literal => '|' :: (literalMarks cs ++ '\n' :: literalLines indent true cs)

/-- Keys longer than this, in bytes, stand behind a question mark. -/
def keyLimit : Nat := 128

def isSimpleKey (s : String) : Bool :=
  s.utf8ByteSize ≤ keyLimit && !s.toList.any isBreak

private def withBreak (cs : List Char) : List Char :=
  if cs.getLast?.any isBreak then cs else cs ++ ['\n']

mutual

/-- What stands behind a key, from the colon on; nested blocks begin on the next line. The key
stands at `indent`. -/
def writeValue (indent : Nat) : Document → List Char
  | .list [] => [' ', '[', ']', '\n']
  | .list items => '\n' :: writeItems indent items
  | .record [] => [' ', startBrace, endBrace, '\n']
  | .record entries => '\n' :: (spaces (indent + 2) ++ writeEntries (indent + 2) entries)
  | d => ' ' :: withBreak (writeScalar (indent + 2) d)

def writeItem (indent : Nat) : Document → List Char
  | .list [] => ['[', ']', '\n']
  | .list (item :: rest) =>
    '-' :: ' ' :: (writeItem (indent + 2) item
      ++ (if rest.isEmpty then [] else writeItems (indent + 2) rest))
  | .record [] => [startBrace, endBrace, '\n']
  | .record entries => writeEntries (indent + 2) entries
  | d => withBreak (writeScalar (indent + 2) d)

def writeItems (indent : Nat) : List Document → List Char
  | [] => []
  | item :: rest => spaces indent ++ '-' :: ' ' :: (writeItem indent item ++ writeItems indent rest)

def writeEntries (indent : Nat) : List (Key × Document) → List Char
  | [] => []
  | (key, value) :: rest =>
    let text := match key with
      | .text s => s
      | .scalar s => s
      | .unusable => ""
    (if isSimpleKey text then textScalar true indent text ++ ':' :: writeValue indent value
      else
        '?' :: ' ' :: (withBreak (textScalar false (indent + 2) text)
          ++ (spaces indent ++ ':' :: ' ' :: writeItem indent value)))
      ++ (if rest.isEmpty then [] else spaces indent ++ writeEntries indent rest)

def writeScalar (indent : Nat) : Document → List Char
  | .bool b => (if b then "true" else "false").toList
  | .int i => (Decimal.signedText i).toList
  | .float x => (Decimal.yamlNumbers.render x).toList
  | .text s => textScalar false indent s
  | .bare s => s.toList
  | _ => ['n', 'u', 'l', 'l']

end

def render : Document → String
  | .record (entry :: rest) => String.ofList (writeEntries 0 (entry :: rest))
  | .list (item :: rest) => String.ofList (writeItems 0 (item :: rest))
  | .record [] => String.ofList [startBrace, endBrace, '\n']
  | .list [] => String.ofList ['[', ']', '\n']
  | d => String.ofList (withBreak (writeScalar 2 d))

end QuestAcademy.Yaml
