namespace QuestAcademy.Yaml

def isBreak (c : Char) : Bool :=
  c = '\n' || c = '\r' || c = '\u0085' || c = '\u2028' || c = '\u2029'

def isBlank (c : Char) : Bool :=
  c = ' ' || c = '\t'

def isGap (c : Char) : Bool :=
  isBlank c || isBreak c

def isNameChar (c : Char) : Bool :=
  ('0' ≤ c && c ≤ '9') || ('A' ≤ c && c ≤ 'Z') || ('a' ≤ c && c ≤ 'z') || c = '_' || c = '-'

def isAllowed (c : Char) : Bool :=
  let n := c.toNat
  c = '\t' || c = '\n' || c = '\r' || (0x20 ≤ n && n ≤ 0x7e) || n = 0x85 || (0xa0 ≤ n && n ≤ 0xd7ff)
    || (0xe000 ≤ n && n ≤ 0xfffd) || 0x10000 ≤ n

def atLineEnd : List Char → Bool
  | [] => true
  | c :: _ => isBreak c

/-- What follows is a gap or the end of the text. -/
def atWordEnd : List Char → Bool
  | [] => true
  | c :: _ => isGap c

def startBrace : Char := Char.ofNat 0x7b

def endBrace : Char := Char.ofNat 0x7d

def isFlowMark (c : Char) : Bool :=
  c = ',' || c = '[' || c = ']' || c = startBrace || c = endBrace

structure Cursor where
  rest : List Char
  index : Nat
  line : Nat
  column : Nat

namespace Cursor

def ofText (s : String) : Cursor :=
  { rest := s.toList, index := 0, line := 0, column := 0 }

def skip (n : Nat) (c : Cursor) : Cursor :=
  { c with rest := c.rest.drop n, index := c.index + n, column := c.column + n }

def span (p : Char → Bool) (c : Cursor) : List Char × Cursor :=
  let run := c.rest.takeWhile p
  (run, c.skip run.length)

def skipWhile (p : Char → Bool) (c : Cursor) : Cursor :=
  (c.span p).2

/-- A line break and the place behind it. All breaks of the older standards count as line feeds; the
two separators of Unicode stay what they are. -/
def break? (c : Cursor) : Option (Char × Cursor) :=
  let after (n : Nat) : Cursor :=
    { rest := c.rest.drop n, index := c.index + n, line := c.line + 1, column := 0 }
  match c.rest with
  | '\r' :: '\n' :: _ => some ('\n', after 2)
  | b :: _ =>
    if b = '\u2028' || b = '\u2029' then some (b, after 1)
    else if isBreak b then some ('\n', after 1)
    else none
  | [] => none

def skipMark (c : Cursor) : Cursor :=
  if c.column = 0 && c.rest.head? = some '\ufeff' then c.skip 1 else c

def skipComment (c : Cursor) : Cursor :=
  match c.rest with
  | '#' :: _ => c.skipWhile fun d => !isBreak d
  | _ => c

def finishLine? (c : Cursor) : Option Cursor :=
  let c := (c.skipWhile isBlank).skipComment
  match c.break? with
  | some (_, c) => some c
  | none => if c.rest.isEmpty then some c else none

def atDocumentMark (c : Cursor) : Bool :=
  c.column = 0 &&
    match c.rest with
    | '-' :: '-' :: '-' :: rest => atWordEnd rest
    | '.' :: '.' :: '.' :: rest => atWordEnd rest
    | _ => false

end Cursor

/-- What stands between two words: blanks up to the first line break, and line breaks. -/
structure Gap where
  blanks : List Char
  breaks : List Char

namespace Gap

/-- The text that a gap stands for: a single line break becomes a space, and of several the first is
dropped. -/
def folded (gap : Gap) : List Char :=
  match gap.breaks with
  | [] => gap.blanks
  | ['\n'] => [' ']
  | '\n' :: more => more
  | all => all

end Gap

/-- The line breaks from here on, and the blanks after each. A tab may not stand left of `floor` at
the beginning of a line. -/
def breaksFrom (floor : Nat) : Nat → Cursor → Option (List Char × Cursor)
  | 0, c => some ([], c)
  | fuel + 1, c =>
    match c.break? with
    | none => some ([], c)
    | some (b, c) =>
      let (blanks, c) := c.span isBlank
      if (blanks.take floor).contains '\t' then none
      else
        match breaksFrom floor fuel c with
        | none => none
        | some (more, c) => some (b :: more, c)

def Cursor.gap? (floor : Nat) (c : Cursor) : Option (Gap × Cursor) :=
  let (blanks, c) := c.span isBlank
  match breaksFrom floor (c.rest.length + 1) c with
  | none => none
  | some (breaks, c) => some (⟨blanks, breaks⟩, c)

end QuestAcademy.Yaml
