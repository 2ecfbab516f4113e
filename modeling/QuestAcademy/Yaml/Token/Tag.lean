import QuestAcademy.Text.Hexadecimal
import QuestAcademy.Yaml.Cursor

namespace QuestAcademy.Yaml

private def isUriChar (lists : Bool) (c : Char) : Bool :=
  isNameChar c || [';', '/', '?', ':', '@', '&', '=', '+', '$', '.', '!', '~', '*', '\'', '(',
    ')'].contains c || (lists && [',', '[', ']'].contains c)

private def percentBytes? : Nat → List Char → Option (List UInt8)
  | 0, _ => some []
  | n + 1, '%' :: high :: low :: rest => do
    let byte ← Text.hexValue? [high, low]
    return byte.toUInt8 :: (← percentBytes? n rest)
  | _ + 1, _ => none

private def percentChar? (cs : List Char) : Option (Char × Nat) := do
  let first := (← percentBytes? 1 cs).headD 0
  let count :=
    if first < 0x80 then 1
    else if 0xc0 ≤ first && first < 0xe0 then 2
    else if 0xe0 ≤ first && first < 0xf0 then 3
    else if 0xf0 ≤ first && first < 0xf8 then 4
    else 0
  let bytes ← percentBytes? count cs
  match (← String.fromUTF8? (ByteArray.mk bytes.toArray)).toList with
  | [c] => some (c, count)
  | _ => none

private def uriFrom (lists : Bool) : Nat → Cursor → Option (List Char × Cursor)
  | 0, c => some ([], c)
  | fuel + 1, c =>
    match c.rest with
    | '%' :: _ => do
      let (d, count) ← percentChar? c.rest
      let (more, c) ← uriFrom lists fuel (c.skip (3 * count))
      return (d :: more, c)
    | d :: _ =>
      if isUriChar lists d then do
        let (more, c) ← uriFrom lists fuel (c.skip 1)
        return (d :: more, c)
      else some ([], c)
    | [] => some ([], c)

private def uri? (lists : Bool) (c : Cursor) : Option (List Char × Cursor) :=
  uriFrom lists (c.rest.length + 1) c

private def handle? (c : Cursor) : Option (List Char × Cursor) :=
  match c.rest with
  | '!' :: _ =>
    let (name, c) := (c.skip 1).span isNameChar
    match c.rest with
    | '!' :: _ => some ('!' :: (name ++ ['!']), c.skip 1)
    | _ => some ('!' :: name, c)
  | _ => none

/-- A tag: in angle brackets as it is, with the handle of a directive, or local. A lone exclamation
mark is a tag of its own. -/
def Cursor.tag? (flow : Bool) (c : Cursor) : Option ((String × String) × Cursor) := do
  let (handle, suffix, c) ← match c.rest with
    | _ :: '<' :: _ => do
      let (name, c) ← uri? true (c.skip 2)
      match c.rest with
      | '>' :: _ => if name.isEmpty then none else some ("", name, c.skip 1)
      | _ => none
    | _ => do
      let (handle, c) ← handle? c
      if handle.length > 1 && handle.getLast? = some '!' then
        let (suffix, c) ← uri? false c
        if suffix.isEmpty then none else some (String.ofList handle, suffix, c)
      else
        let (more, c) ← uri? false c
        let suffix := handle.tail ++ more
        if suffix.isEmpty then some ("", ['!'], c) else some ("!", suffix, c)
  if atWordEnd c.rest || (flow && c.rest.head? = some ',') then
    some ((handle, String.ofList suffix), c)
  else none

inductive Directive
  | version (major minor : Nat)
  | tagHandle (handle start : String)

private def number? (c : Cursor) : Option (Nat × Cursor) :=
  let (ds, c) := c.span fun d => '0' ≤ d && d ≤ '9'
  if ds.isEmpty || 9 < ds.length then none
  else some (ds.foldl (fun n d => 10 * n + (d.toNat - 48)) 0, c)

def Cursor.directive? (c : Cursor) : Option (Directive × Cursor) := do
  let (name, c) := (c.skip 1).span isNameChar
  if !atWordEnd c.rest then none
  else
    let c := c.skipWhile isBlank
    let (directive, c) ←
      if name = ['Y', 'A', 'M', 'L'] then do
        let (major, c) ← number? c
        match c.rest with
        | '.' :: _ => do
          let (minor, c) ← number? (c.skip 1)
          some (Directive.version major minor, c)
        | _ => none
      else if name = ['T', 'A', 'G'] then do
        let (handle, c) ← handle? c
        if handle ≠ ['!'] && handle.getLast? ≠ some '!' then none
        else if !c.rest.head?.any isBlank then none
        else
          let (start, c) ← uri? true (c.skipWhile isBlank)
          if start.isEmpty || !atWordEnd c.rest then none
          else some (Directive.tagHandle (String.ofList handle) (String.ofList start), c)
      else none
    return (directive, ← c.finishLine?)

end QuestAcademy.Yaml
