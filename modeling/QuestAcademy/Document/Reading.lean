import QuestAcademy.Document
import QuestAcademy.Keyed
import QuestAcademy.Yaml.Scalar

namespace QuestAcademy

/-- What a document of a given notation stands for at some place. -/
abbrev Reading (α : Type) := Form → Document → Option α

namespace Reading

variable {α β : Type}

def text : Reading String := fun _ d =>
  match d.untagged with
  | .text s => some s
  | .bare s => some s
  | _ => none

def bool : Reading Bool := fun _ d =>
  match d.untagged with
  | .bool b => some b
  | .bare s => Yaml.bool? s
  | _ => none

def nat (limit : Nat) : Reading Nat := fun _ d =>
  match d.untagged with
  | .int i => if 0 ≤ i ∧ i ≤ limit then some i.toNat else none
  | .bare s => Yaml.nat? limit s
  | _ => none

def byte : Reading Nat := nat Limit.byte

def word : Reading Nat := nat Limit.word

def long : Reading Nat := nat Limit.long

def signed : Reading Int := fun _ d =>
  match d.untagged with
  | .int i => if Limit.holdsSigned i then some i else none
  | .bare s => Yaml.int? s
  | _ => none

def float : Reading Float := fun _ d =>
  match d.untagged with
  | .int i => some (Decimal.ofInt i)
  | .float x => some x
  | .bare s => Yaml.float? s
  | _ => none

def optional (read : Reading α) : Reading (Option α) := fun form d =>
  match d with
  | .null => some none
  | .bare s => if s.isEmpty || Yaml.isNullWord s then some none else (read form d).map some
  | .tagged tag (.bare s) =>
    if tag = Yaml.nullTag then if Yaml.isNullWord s then some none else none
    else (read form d).map some
  | _ => (read form d).map some

/-- The items of a list; a scalar left empty is an empty list. -/
def items (d : Document) : Option (List Document) :=
  match d.untagged with
  | .list ds => some ds
  | .bare "" => some []
  | _ => none

def list (read : Reading α) : Reading (List α) := fun form d => do
  (← items d).mapM (read form)

def entries (d : Document) : Option (List (Key × Document)) :=
  match d.untagged with
  | .record es => some es
  | .bare "" => some []
  | _ => none

def keyText : Key → Option String
  | .text s => some s
  | .scalar s => some s
  | .unusable => none

def textEntries (d : Document) : Option (List (String × Document)) := do
  (← entries d).mapM fun entry => do return (← keyText entry.1, entry.2)

def names : Reading (List String) := fun form d =>
  (list text form d).map Names.ofList

/-- A map with text keys; of entries with one key the last counts. -/
def keyed (read : Reading α) : Reading (List (String × α)) := fun form d => do
  let entries ← (← textEntries d).mapM fun entry => do return (entry.1, ← read form entry.2)
  return Keyed.ofList entries

/-- One of several words. In JSON it may also be the only key of a record, over null; in YAML also
a tag, over null. -/
def choice (words : List (String × α)) : Reading α := fun form d =>
  match form, d with
  | .json, .record [(.text s, .null)] => words.lookup s
  | .yaml, .tagged tag content =>
    match tag.toList with
    | '!' :: c :: cs =>
      match content with
      | .bare s =>
        if s.isEmpty || Yaml.isNullWord s then words.lookup (String.ofList (c :: cs)) else none
      | _ => none
    | _ => (text form content).bind fun s => words.lookup s
  | _, _ => (text form d).bind fun s => words.lookup s

structure Fields where
  form : Form
  given : List (String × Document)
  others : Bool

/-- Finds the fields of a record among the names it may have, each at most once. -/
def fields (names : List String) : Reading Fields := fun form d => do
  let all ← match form, d.untagged with
    | .json, .list ds => if ds.length ≤ names.length then some (names.zip ds) else none
    | _, _ => textEntries d
  let given := all.filter fun entry => names.contains entry.1
  if (given.map Prod.fst).Nodup then some ⟨form, given, given.length < all.length⟩ else none

def Fields.required (fields : Fields) (name : String) (read : Reading α) : Option α := do
  read fields.form (← fields.given.lookup name)

def Fields.withDefault (fields : Fields) (name : String) (default : α) (read : Reading α) :
    Option α :=
  match fields.given.lookup name with
  | some d => read fields.form d
  | none => some default

def Fields.optional (fields : Fields) (name : String) (read : Reading α) : Option (Option α) :=
  fields.withDefault name none (Reading.optional read)

/-- The scalar that a document is where nothing in particular is expected; a tag that is not one
of the notation's own makes it something else altogether. -/
def scalarMeaning (d : Document) : Option Yaml.Meaning :=
  match d with
  | .null => some .null
  | .bool b => some (.bool b)
  | .int i => some (.int i)
  | .float x => some (.float x)
  | .text s => some (.text s)
  | .bare s => some (Yaml.meaning s)
  | .tagged tag content =>
    match content with
    | .text s | .bare s => Yaml.taggedMeaning? tag s
    | _ => none
  | _ => none

end Reading

end QuestAcademy
