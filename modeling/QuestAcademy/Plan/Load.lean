import QuestAcademy.Json.Reader
import QuestAcademy.Plan
import QuestAcademy.Yaml.Node.Parser
import QuestAcademy.Yaml.Writer

namespace QuestAcademy.SeedPlan

def ofJson (text : String) : Except PlanFault SeedPlan :=
  match (Json.parse? text).bind (read .json) with
  | some plan => .ok plan
  | none => .error .invalidJson

def ofYaml (text : String) : Except PlanFault SeedPlan :=
  match (Yaml.parse? text).bind (read .yaml) with
  | some plan => .ok plan
  | none => .error .invalidYaml

def extension? (path : String) : Option String := do
  let name ← ((path.splitOn "/").filter fun part => part ≠ "" ∧ part ≠ ".").getLast?
  let reversed := name.toList.reverse
  let extension := (reversed.takeWhile (· ≠ '.')).reverse
  let before := reversed.drop (extension.length + 1)
  if name = ".." || before.isEmpty then none else some (String.ofList extension)

/-- Files named as JSON are read as JSON, all others as YAML. -/
def ofFile (folder : Folder) (path : String) : Except PlanFault SeedPlan :=
  match folder.read path with
  | .error failure => .error (.unreadable path failure)
  | .ok text => if extension? path = some "json" then ofJson text else ofYaml text

def toYaml (plan : SeedPlan) : String :=
  Yaml.render plan.toDocument

end QuestAcademy.SeedPlan
