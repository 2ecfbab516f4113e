/-!
Documents: what a configuration, a template file or a record says once its text has been read and
before anything is made of it. Two notations lead here. In one of them scalars may be bare: written
without quotes, so that their type is decided by the place where they are read.
-/

namespace QuestAcademy

inductive Key
  | text (s : String)
  /-- A scalar of another type. It names a field all the same, but is no key of a map. -/
  | scalar (s : String)
  | unusable
  deriving DecidableEq

inductive Document
  | null
  | bool (b : Bool)
  | int (i : Int)
  | float (x : Float)
  | text (s : String)
  | bare (s : String)
  | list (items : List Document)
  | record (entries : List (Key × Document))
  | tagged (tag : String) (content : Document)
  /-- Something well formed that stands for no value: a number out of range, a text that is not
  Unicode, a part nested too deeply. It does no harm where nobody reads it. -/
  | unusable

/-- The notation a document was written in. Only in JSON may a list stand for a record, its fields
in order, and a record of one entry for a choice. -/
inductive Form
  | json
  | yaml
  deriving DecidableEq

namespace Document

def untagged : Document → Document
  | tagged _ content => content
  | d => d

def fields (entries : List (String × Document)) : Document :=
  record (entries.map fun entry => (Key.text entry.1, entry.2))

def present (name : String) : Option Document → List (String × Document)
  | some d => [(name, d)]
  | none => []

def orNull : Option Document → Document
  | some d => d
  | none => null

def texts (items : List String) : Document :=
  list (items.map text)

def nat (n : Nat) : Document :=
  int n

end Document

end QuestAcademy
