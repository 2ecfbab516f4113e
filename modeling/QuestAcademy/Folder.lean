namespace QuestAcademy

inductive FolderEntry
  | text (content : String)
  | bytes (content : List UInt8)
  | directory

/-- Entries by their paths inside the folder, the parts of a path between slashes. -/
abbrev Folder := List (List String × FolderEntry)

inductive ReadFailure
  | notFound
  | notDirectory
  | isDirectory
  | nameTooLong
  | nulInName
  | invalidText
  deriving DecidableEq

def ReadFailure.message : ReadFailure → String
  | notFound => "No such file or directory (os error 2)"
  | notDirectory => "Not a directory (os error 20)"
  | isDirectory => "Is a directory (os error 21)"
  | nameTooLong => "File name too long (os error 36)"
  | nulInName => "file name contained an unexpected NUL byte"
  | invalidText => "stream did not contain valid UTF-8"

namespace Folder

def ofList (entries : List (String × FolderEntry)) : Folder :=
  entries.map fun entry =>
    ((entry.1.splitOn "/").filter fun part => part ≠ "" ∧ part ≠ ".", entry.2)

/-- What stands under a path; the directories on the way to a file are there with it. -/
def find? (folder : Folder) (path : List String) : Option FolderEntry :=
  if path.isEmpty then some .directory
  else
    match folder.lookup path with
    | some entry => some entry
    | none =>
      if folder.any fun entry => path.isPrefixOf entry.1 then some .directory else none

/-- The longest name of a file, and the longest path, in bytes. -/
def nameLimit : Nat := 255

def pathLimit : Nat := 4095

/-- Parts of a path that lead to a folder wherever they stand. -/
def leadsToFolder (part : String) : Bool :=
  part = "" || part = "." || part = ".."

/-- Walks from a place inside the folder along the parts of a path. Of what lies outside it is only
known that the folder is inside other folders. -/
def walk (folder : Folder) (here : List String) : List String → Except ReadFailure FolderEntry
  | [] =>
    match folder.find? here with
    | some entry => .ok entry
    | none => .error .notFound
  | part :: rest =>
    match folder.find? here with
    | none => .error .notFound
    | some .directory =>
      if part = "" ∨ part = "." then walk folder here rest
      else if nameLimit < part.utf8ByteSize then .error .nameTooLong
      else if part = ".." then
        if here.isEmpty then if rest.all leadsToFolder then .ok .directory else .error .notFound
        else walk folder here.dropLast rest
      else walk folder (here ++ [part]) rest
    | some _ => .error .notDirectory

/-- The content of a file as text. -/
def read (folder : Folder) (path : String) : Except ReadFailure String :=
  if path.toList.any (· = '\x00') then .error .nulInName
  else if path = "" then .error .notFound
  else if pathLimit < path.utf8ByteSize then .error .nameTooLong
  else if path.toList.head? = some '/' then
    if path.toList.all (· = '/') then .error .isDirectory else .error .notFound
  else
    match folder.walk [] (path.splitOn "/") with
    | .error e => .error e
    | .ok (.text content) => .ok content
    | .ok .directory => .error .isDirectory
    | .ok (.bytes content) =>
      match String.fromUTF8? (ByteArray.mk content.toArray) with
      | some text => .ok text
      | none => .error .invalidText

end Folder

end QuestAcademy
