import QuestAcademy.Decimal.Digits
import QuestAcademy.Decimal.Binary
import QuestAcademy.Limit

namespace QuestAcademy.Yaml

def isNullWord (s : String) : Bool :=
  s = "null" || s = "Null" || s = "NULL" || s = "~"

def bool? (s : String) : Option Bool :=
  if s = "true" || s = "True" || s = "TRUE" then some true
  else if s = "false" || s = "False" || s = "FALSE" then some false
  else none

private def digitOf? (base : Nat) (c : Char) : Option Nat :=
  let d :=
    if '0' ≤ c ∧ c ≤ '9' then c.toNat - 48
    else if 'a' ≤ c ∧ c ≤ 'z' then c.toNat - 87
    else if 'A' ≤ c ∧ c ≤ 'Z' then c.toNat - 55
    else 36
  if d < base then some d else none

private def numeral? (base : Nat) : List Char → Option Nat
  | [] => none
  | cs => cs.foldl (fun total c => do return base * (← total) + (← digitOf? base c)) (some 0)

private def basedNumeral? : List Char → Option Nat
  | '0' :: 'x' :: cs => numeral? 16 cs
  | '0' :: 'o' :: cs => numeral? 8 cs
  | '0' :: 'b' :: cs => numeral? 2 cs
  | cs => numeral? 10 cs

private def withoutSign : List Char → List Char
  | '-' :: cs => cs
  | '+' :: cs => cs
  | cs => cs

/-- Digits with a superfluous zero in front are a text, not a number. -/
def isPadded (s : String) : Bool :=
  match withoutSign s.toList with
  | '0' :: c :: cs => (c :: cs).all fun d => '0' ≤ d && d ≤ '9'
  | _ => false

def nat? (limit : Nat) (s : String) : Option Nat := do
  if isPadded s then none
  else
    let n ← match s.toList with
      | '+' :: cs => basedNumeral? cs
      | cs => basedNumeral? cs
    if n ≤ limit then some n else none

def negative? (limit : Nat) (s : String) : Option Int := do
  if isPadded s then none
  else
    match s.toList with
    | '-' :: cs =>
      let n ← basedNumeral? cs
      if n ≤ limit then some (-(n : Int)) else none
    | _ => none

def int? (s : String) : Option Int :=
  match nat? Limit.signed s with
  | some n => some n
  | none => negative? (Limit.signed + 1) s

private def exponent? : List Char → Option Int
  | '-' :: cs => (Decimal.value? cs).map fun n => -(n : Int)
  | '+' :: cs => (Decimal.value? cs).map fun n => (n : Int)
  | cs => (Decimal.value? cs).map fun n => (n : Int)

/-- A decimal with an optional fraction and exponent; digits on one side of the point suffice. -/
private def decimal? (cs : List Char) : Option (Nat × Int) := do
  let whole := cs.takeWhile Decimal.isDigit
  let afterWhole := cs.dropWhile Decimal.isDigit
  let (fraction, rest) := match afterWhole with
    | '.' :: more => (more.takeWhile Decimal.isDigit, more.dropWhile Decimal.isDigit)
    | _ => ([], afterWhole)
  let significand ← Decimal.value? (whole ++ fraction)
  let exponent ← match rest with
    | [] => some 0
    | 'e' :: more => exponent? more
    | 'E' :: more => exponent? more
    | _ => none
  return (significand, exponent - fraction.length)

/-- A number; its decimal value is rounded once. Numbers too large for a double are texts. -/
def float? (s : String) : Option Float :=
  let unsigned := match s.toList with
    | '+' :: cs => cs
    | cs => cs
  let word := String.ofList unsigned
  if word = ".inf" || word = ".Inf" || word = ".INF" then some (1 / 0)
  else if s = "-.inf" || s = "-.Inf" || s = "-.INF" then some (-1 / 0)
  else if s = ".nan" || s = ".NaN" || s = ".NAN" then some (0 / 0)
  else
    let (negative, digits) := match s.toList with
      | '+' :: cs => (false, cs)
      | '-' :: cs => (true, cs)
      | cs => (false, cs)
    match decimal? digits with
    | none => none
    | some (significand, exponent) =>
      let x := Decimal.nearest significand exponent
      if x.isFinite then some (if negative then -x else x) else none

inductive Meaning
  | null
  | bool (b : Bool)
  | int (i : Int)
  /-- An integer of more than 64 bits. -/
  | wide
  | float (x : Float)
  | text (s : String)

def meaning (s : String) : Meaning :=
  if s.isEmpty || isNullWord s then .null
  else
    match bool? s with
    | some b => .bool b
    | none =>
      match nat? Limit.long s, negative? (Limit.signed + 1) s with
      | some n, _ => .int n
      | none, some i => .int i
      | none, none =>
        if (nat? (Decimal.twoTo 128 - 1) s).isSome || (negative? (Decimal.twoTo 127) s).isSome then .wide
        else if isPadded s then .text s
        else
          match float? s with
          | some x => .float x
          | none => .text s

def isLocalTag (tag : String) : Bool :=
  tag.toList.head? = some '!'

def nullTag : String := "tag:yaml.org,2002:null"

/-- The meaning of a scalar under a tag. The tags of the standard types ask for these types; under
any other tag a scalar is a text, unless the tag makes it something of its own. -/
def taggedMeaning? (tag s : String) : Option Meaning :=
  if isLocalTag tag then none
  else if tag = "tag:yaml.org,2002:bool" then (bool? s).map .bool
  else if tag = "tag:yaml.org,2002:int" then
    match meaning s with
    | .int i => some (.int i)
    | .wide => some .wide
    | _ => none
  else if tag = "tag:yaml.org,2002:float" then (float? s).map .float
  else if tag = nullTag then if isNullWord s then some .null else none
  else some (.text s)

end QuestAcademy.Yaml
