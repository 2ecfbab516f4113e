import QuestAcademy.Text.Hexadecimal
import QuestAcademy.Yaml.Cursor

namespace QuestAcademy.Yaml

/-- A word of a plain scalar. It ends at a gap, at a colon before a gap and, inside brackets and
braces, at their marks; there a colon right before such a mark is an error. -/
def word? (flow : Bool) : List Char → Option (List Char)
  | [] => some []
  | c :: rest =>
    if isGap c then some []
    else if flow && c = ':' && rest.head?.any fun d => d = '?' || isFlowMark d then none
    else if c = ':' && atWordEnd rest then some []
    else if flow && isFlowMark c then some []
    else (word? flow rest).map (c :: ·)

structure ScalarEnd where
  text : List Char
  cursor : Cursor
  brokeLine : Bool

/-- Words from here on, with the gap before the first of them. In a block, words must be indented to
`floor`. -/
def plainFrom (flow : Bool) (floor : Nat) : Nat → Gap → Cursor → Option ScalarEnd
  | 0, _, _ => none
  | fuel + 1, gap, c =>
    let stop : ScalarEnd := { text := [], cursor := c, brokeLine := !gap.breaks.isEmpty }
    if c.atDocumentMark || c.rest.head? = some '#' then some stop
    else
      match word? flow c.rest with
      | none => none
      | some [] => some stop
      | some word =>
        let text := gap.folded ++ word
        let c := c.skip word.length
        if !c.rest.head?.any isGap then some { text, cursor := c, brokeLine := false }
        else
          match c.gap? floor with
          | none => none
          | some (gap, c) =>
            if !flow && c.column < floor then
              some { text, cursor := c, brokeLine := !gap.breaks.isEmpty }
            else
              match plainFrom flow floor fuel gap c with
              | none => none
              | some more => some { more with text := text ++ more.text }

def Cursor.plain? (flow : Bool) (floor : Nat) (c : Cursor) : Option ScalarEnd :=
  plainFrom flow floor (c.rest.length + 1) ⟨[], []⟩ c

def numbered? (width : Nat) (cs : List Char) : Option Char := do
  let digits := cs.take width
  if digits.length < width then none
  else
    let n ← Text.hexValue? digits
    if n.isValidChar then some (Char.ofNat n) else none

/-- What an escape after a backslash stands for, and how many characters it takes. -/
def escape? : List Char → Option (Char × Nat)
  | [] => none
  | c :: rest =>
    match c with
    | '0' => some ('\x00', 1)
    | 'a' => some ('\x07', 1)
    | 'b' => some ('\x08', 1)
    | 't' => some ('\t', 1)
    | '\t' => some ('\t', 1)
    | 'n' => some ('\n', 1)
    | 'v' => some ('\x0b', 1)
    | 'f' => some ('\x0c', 1)
    | 'r' => some ('\r', 1)
    | 'e' => some ('\x1b', 1)
    | ' ' => some (' ', 1)
    | '"' => some ('"', 1)
    | '/' => some ('/', 1)
    | '\\' => some ('\\', 1)
    | 'N' => some ('\u0085', 1)
    | '_' => some ('\u00a0', 1)
    | 'L' => some ('\u2028', 1)
    | 'P' => some ('\u2029', 1)
    | 'x' => (numbered? 2 rest).map (·, 3)
    | 'u' => (numbered? 4 rest).map (·, 5)
    | 'U' => (numbered? 8 rest).map (·, 9)
    | _ => none

/-- The text from here to the closing quote. A line break behind a backslash vanishes together with
the blanks after it. -/
def quotedFrom (single : Bool) : Nat → Cursor → Option (List Char × Cursor)
  | 0, _ => none
  | fuel + 1, c =>
    let onward (text : List Char) (c : Cursor) : Option (List Char × Cursor) :=
      match quotedFrom single fuel c with
      | none => none
      | some (more, c) => some (text ++ more, c)
    if c.atDocumentMark then none
    else
      match c.rest with
      | [] => none
      | d :: rest =>
        if isGap d then
          match c.gap? 0 with
          | none => none
          | some (gap, c) => onward gap.folded c
        else if single then
          if d = '\'' then
            if rest.head? = some '\'' then onward ['\''] (c.skip 2) else some ([], c.skip 1)
          else onward [d] (c.skip 1)
        else if d = '"' then some ([], c.skip 1)
        else if d = '\\' then
          match (c.skip 1).break? with
          | some (_, c) =>
            match c.rest.head? with
            | some '"' => onward [] c
            | _ =>
              match c.gap? 0 with
              | none => none
              | some (gap, c) => onward gap.breaks c
          | none =>
            match escape? rest with
            | none => none
            | some (e, width) => onward [e] (c.skip (width + 1))
        else onward [d] (c.skip 1)

def Cursor.quoted? (single : Bool) (c : Cursor) : Option (List Char × Cursor) :=
  quotedFrom single (c.rest.length + 1) (c.skip 1)

/-- What is done with the line breaks at the end of a block. -/
inductive Chomping
  | clip
  | strip
  | keep
  deriving DecidableEq

structure BlockHeader where
  chomping : Chomping
  indent : Option Nat

private def chomping? : List Char → Option Chomping
  | '+' :: _ => some .keep
  | '-' :: _ => some .strip
  | _ => none

/-- A digit that says how far a block is indented; `some none` when there is no digit. -/
private def indentDigit? : List Char → Option (Option Nat)
  | d :: _ =>
    if d = '0' then none
    else if '1' ≤ d ∧ d ≤ '9' then some (some (d.toNat - 48))
    else some none
  | [] => some none

def Cursor.blockHeader? (c : Cursor) : Option (BlockHeader × Cursor) :=
  match chomping? c.rest with
  | some chomping =>
    let c := c.skip 1
    match indentDigit? c.rest with
    | none => none
    | some none => some (⟨chomping, none⟩, c)
    | some indent => some (⟨chomping, indent⟩, c.skip 1)
  | none =>
    match indentDigit? c.rest with
    | none => none
    | some none => some (⟨.clip, none⟩, c)
    | some indent =>
      let c := c.skip 1
      match chomping? c.rest with
      | some chomping => some (⟨chomping, indent⟩, c.skip 1)
      | none => some (⟨.clip, indent⟩, c)

private def indentSpaces (indent : Option Nat) (c : Cursor) : Cursor :=
  let spaces := (c.rest.takeWhile (· = ' ')).length
  match indent with
  | none => c.skip spaces
  | some column => c.skip (min spaces (column - c.column))

/-- The empty lines from here on, and the deepest column of their spaces. A tab may not stand where
indentation is expected. -/
def emptyLines (indent : Option Nat) : Nat → Nat → Cursor → Option (List Char × Nat × Cursor)
  | 0, deepest, c => some ([], deepest, c)
  | fuel + 1, deepest, c =>
    let c := indentSpaces indent c
    let deepest := max deepest c.column
    let inIndent := match indent with
      | none => true
      | some column => c.column < column
    if inIndent && c.rest.head? = some '\t' then none
    else
      match c.break? with
      | none => some ([], deepest, c)
      | some (b, c) =>
        match emptyLines indent fuel deepest c with
        | none => none
        | some (more, deepest, c) => some (b :: more, deepest, c)

/-- The lines of a block from here on: the text up to the last line, the break after it, and the
breaks of the empty lines behind. `before` is the break before this line, `empty` those of the empty
lines since, and `indented` tells that the line before began with a blank. -/
def blockLines (literal : Bool) (indent : Nat) :
    Nat → List Char → List Char → Bool → Cursor →
      Option (List Char × List Char × List Char × Cursor)
  | 0, _, _, _, _ => none
  | fuel + 1, before, empty, indented, c =>
    if c.column ≠ indent || c.rest.isEmpty then some ([], before, empty, c)
    else
      let indentedNow := c.rest.head?.any isBlank
      let joint :=
        if !literal && before.head? = some '\n' && !indented && !indentedNow then
          if empty.isEmpty then [' '] else empty
        else before ++ empty
      let (line, c) := c.span fun d => !isBreak d
      let (ending, c) := match c.break? with
        | some (b, c) => ([b], c)
        | none => ([], c)
      match emptyLines (some indent) (c.rest.length + 1) 0 c with
      | none => none
      | some (breaks, _, c) =>
        match blockLines literal indent fuel ending breaks indentedNow c with
        | none => none
        | some (text, last, trailing, c) => some (joint ++ line ++ text, last, trailing, c)

def Cursor.block? (literal : Bool) (parent : Option Nat) (c : Cursor) :
    Option (List Char × Cursor) :=
  match (c.skip 1).blockHeader? with
  | none => none
  | some (header, c) =>
    match c.finishLine? with
    | none => none
    | some c =>
      let given := header.indent.map fun n => n + parent.getD 0
      match emptyLines given (c.rest.length + 1) 0 c with
      | none => none
      | some (breaks, deepest, c) =>
        let floor := match parent with
          | some column => column + 1
          | none => 1
        let indent := given.getD (max deepest floor)
        match blockLines literal indent (c.rest.length + 1) [] breaks false c with
        | none => none
        | some (text, last, trailing, c) =>
          match header.chomping with
          | .strip => some (text, c)
          | .clip => some (text ++ last, c)
          | .keep => some (text ++ last ++ trailing, c)

end QuestAcademy.Yaml
