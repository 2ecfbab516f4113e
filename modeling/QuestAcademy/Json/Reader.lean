import QuestAcademy.Decimal.Digits
import QuestAcademy.Decimal.Binary
import QuestAcademy.Document
import QuestAcademy.Limit
import QuestAcademy.Text.Hexadecimal

/-!
Reading JSON text. The grammar is strict: no comments, no trailing commas, no superfluous zeros.
A part that is well formed but stands for no value is marked unusable instead of refused, because
fields that nobody reads may hold such parts.
-/

namespace QuestAcademy.Json

def isSpace (c : Char) : Bool :=
  c = ' ' || c = '\t' || c = '\n' || c = '\r'

def skipSpace (cs : List Char) : List Char :=
  cs.dropWhile isSpace

/-- Digits appended to a significand as long as it fits 64 bits: the significand, and how many
digits were taken. -/
private def significand (start : Nat) : List Char → Nat × Nat
  | [] => (start, 0)
  | c :: rest =>
    let next := 10 * start + (c.toNat - 48)
    if Limit.long < next then (start, 0)
    else
      let (total, taken) := significand next rest
      (total, taken + 1)

private def exponentValue (cs : List Char) : Int :=
  match cs with
  | '-' :: ds => -(((Decimal.value? ds).getD 0 : Nat) : Int)
  | '+' :: ds => ((Decimal.value? ds).getD 0 : Nat)
  | ds => ((Decimal.value? ds).getD 0 : Nat)

/-- The value of a number from its parts. Whole numbers of 64 bits stay integers, but minus zero
is not one. Digits that no longer fit the significand are dropped; those of the whole part still
count for the magnitude. -/
private def numberValue (negative : Bool) (whole : List Char) (fraction : Option (List Char))
    (exponent : Option (List Char)) : Document :=
  let sized (x : Option Float) : Document :=
    match x with
    | some x => .float (if negative then -x else x)
    | none => .unusable
  let (head, taken) := significand 0 whole
  match fraction, exponent with
  | none, none =>
    if taken = whole.length then
      if negative then
        if head = 0 then .float (-0.0)
        else if head ≤ Limit.signed + 1 then .int (-(head : Int))
        else sized (Decimal.scaled? head 0)
      else .int head
    else sized (Decimal.scaled? head ((whole.length : Int) - taken))
  | _, _ =>
    let (total, places) := significand head (fraction.getD [])
    sized (Decimal.scaled? total
      ((whole.length : Int) - taken - places + ((exponent.map exponentValue).getD 0)))

private def readNumber? (cs : List Char) : Option (Document × List Char) := do
  let (negative, cs) := match cs with
    | '-' :: rest => (true, rest)
    | _ => (false, cs)
  let whole := cs.takeWhile Decimal.isDigit
  let cs := cs.dropWhile Decimal.isDigit
  if whole.isEmpty || (whole.length > 1 && whole.head? = some '0') then none
  else
    let (fraction, cs) ← match cs with
      | '.' :: rest =>
        let ds := rest.takeWhile Decimal.isDigit
        if ds.isEmpty then none else some (some ds, rest.dropWhile Decimal.isDigit)
      | _ => some (none, cs)
    let (exponent, cs) ← match cs with
      | c :: rest =>
        if c = 'e' || c = 'E' then
          let (sign, rest) := match rest with
            | '+' :: more => (['+'], more)
            | '-' :: more => (['-'], more)
            | _ => ([], rest)
          let ds := rest.takeWhile Decimal.isDigit
          if ds.isEmpty then none else some (some (sign ++ ds), rest.dropWhile Decimal.isDigit)
        else some (none, cs)
      | [] => some (none, cs)
    return (numberValue negative whole fraction exponent, cs)

private def fourHex? : List Char → Option (Nat × List Char)
  | a :: b :: c :: d :: rest => do return (← Text.hexValue? [a, b, c, d], rest)
  | _ => none

/-- The characters of a string up to its closing quote, last one first. The flag is false once an
unpaired surrogate has been met: such a string is no text. -/
private def stringBody : Nat → List Char → List Char → Bool → Option (Option String × List Char)
  | 0, _, _, _ => none
  | fuel + 1, cs, seen, usable =>
    match cs with
    | [] => none
    | '"' :: rest => some (if usable then some (String.ofList seen.reverse) else none, rest)
    | '\\' :: c :: rest =>
      let plain (e : Char) := stringBody fuel rest (e :: seen) usable
      if c = '"' then plain '"'
      else if c = '\\' then plain '\\'
      else if c = '/' then plain '/'
      else if c = 'b' then plain (Char.ofNat 8)
      else if c = 'f' then plain (Char.ofNat 12)
      else if c = 'n' then plain '\n'
      else if c = 'r' then plain '\r'
      else if c = 't' then plain '\t'
      else if c = 'u' then
        match fourHex? rest with
        | none => none
        | some (unit, rest) =>
          if 0xdc00 ≤ unit ∧ unit < 0xe000 then stringBody fuel rest seen false
          else if 0xd800 ≤ unit ∧ unit < 0xdc00 then
            match rest with
            | '\\' :: 'u' :: more =>
              match fourHex? more with
              | none => none
              | some (low, after) =>
                if 0xdc00 ≤ low ∧ low < 0xe000 then
                  let code := (unit - 0xd800) * 0x400 + (low - 0xdc00) + 0x10000
                  stringBody fuel after (Char.ofNat code :: seen) usable
                else stringBody fuel after seen false
            | _ => stringBody fuel rest seen false
          else stringBody fuel rest (Char.ofNat unit :: seen) usable
      else none
    | c :: rest => if c.toNat < 32 ∨ c = '\\' then none else stringBody fuel rest (c :: seen) usable

private def string? (cs : List Char) : Option (Option String × List Char) :=
  stringBody (cs.length + 1) cs [] true

def depthLimit : Nat := 127

private def word? (word : List Char) (value : Document) (cs : List Char) :
    Option (Document × List Char) :=
  if word.isPrefixOf cs then some (value, cs.drop word.length) else none

mutual

/-- Splits a value off the front. Every nested value starts further into the text, so the length
of the text is fuel enough. -/
private def value? : Nat → Nat → List Char → Option (Document × List Char)
  | 0, _, _ => none
  | fuel + 1, depth, cs =>
    match skipSpace cs with
    | [] => none
    | '"' :: rest =>
      (string? rest).map fun (s, rest) =>
        (match s with | some s => .text s | none => .unusable, rest)
    | '[' :: rest =>
      match skipSpace rest with
      | ']' :: rest => some (if depth = 0 then .unusable else .list [], rest)
      | rest => (items? fuel (depth - 1) rest).map fun (ds, rest) =>
          (if depth = 0 then .unusable else .list ds, rest)
    | c :: rest =>
      if c = Char.ofNat 0x7b then
        match skipSpace rest with
        | '"' :: _ => (members? fuel (depth - 1) rest).map fun (es, rest) =>
            (if depth = 0 then .unusable else .record es, rest)
        | d :: rest =>
          if d = Char.ofNat 0x7d then some (if depth = 0 then .unusable else .record [], rest)
          else none
        | [] => none
      else if c = 'n' then word? ['n', 'u', 'l', 'l'] .null (c :: rest)
      else if c = 't' then word? ['t', 'r', 'u', 'e'] (.bool true) (c :: rest)
      else if c = 'f' then word? ['f', 'a', 'l', 's', 'e'] (.bool false) (c :: rest)
      else readNumber? (c :: rest)

private def items? : Nat → Nat → List Char → Option (List Document × List Char)
  | 0, _, _ => none
  | fuel + 1, depth, cs => do
    let (d, cs) ← value? fuel depth cs
    match skipSpace cs with
    | ',' :: rest =>
      let (ds, rest) ← items? fuel depth rest
      return (d :: ds, rest)
    | ']' :: rest => return ([d], rest)
    | _ => none

private def members? : Nat → Nat → List Char → Option (List (Key × Document) × List Char)
  | 0, _, _ => none
  | fuel + 1, depth, cs =>
    match skipSpace cs with
    | '"' :: rest => do
      let (key, cs) ← string? rest
      match skipSpace cs with
      | ':' :: rest =>
        let (d, cs) ← value? fuel depth rest
        let entry := (match key with | some s => Key.text s | none => Key.unusable, d)
        match skipSpace cs with
        | ',' :: rest =>
          let (es, rest) ← members? fuel depth rest
          return (entry :: es, rest)
        | c :: rest => if c = Char.ofNat 0x7d then return ([entry], rest) else none
        | [] => none
      | _ => none
    | _ => none

end

def parse? (s : String) : Option Document := do
  let cs := s.toList
  let (d, rest) ← value? (cs.length + 1) depthLimit cs
  if (skipSpace rest).isEmpty then some d else none

end QuestAcademy.Json
