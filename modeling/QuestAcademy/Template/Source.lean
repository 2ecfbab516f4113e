import QuestAcademy.Folder
import QuestAcademy.Json.Reader
import QuestAcademy.Template.Bundled
import QuestAcademy.Template.Curriculum

namespace QuestAcademy

inductive TemplateSource
  | bundled (domain : String)
  | file (path : String)

inductive TemplateError
  | unknownDomain (domain : String)
  | unreadable (path : String) (failure : ReadFailure)
  | malformed (origin : String)

def TemplateError.message : TemplateError → String
  | unknownDomain domain => "Unknown quest domain: " ++ domain
  | unreadable path failure => "Failed to read quest file " ++ path ++ ": " ++ failure.message
  | malformed origin => "Malformed quest templates in " ++ origin

namespace TemplateSource

/-- A file takes precedence over a domain. -/
def choose (domain : String) (file : Option String) : TemplateSource :=
  match file with
  | some path => .file path
  | none => .bundled domain

def load (folder : Folder) : TemplateSource → Except TemplateError Curriculum
  | bundled domain =>
    match Bundled.find? domain with
    | some collection => .ok (.ofCollection collection)
    | none => .error (.unknownDomain domain)
  | file path =>
    match folder.read path with
    | .error failure => .error (.unreadable path failure)
    | .ok text =>
      match (Json.parse? text).bind (Collection.read .json) with
      | some collection => .ok (.ofCollection collection)
      | none => .error (.malformed path)

end TemplateSource

end QuestAcademy
