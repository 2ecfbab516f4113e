import QuestAcademy.Document.Reading

namespace QuestAcademy

/-- The part of a run that an event belongs to. -/
inductive Phase
  | agents
  | guilds
  | training
  deriving DecidableEq, Inhabited

namespace Phase

def name : Phase → String
  | agents => "agents"
  | guilds => "guilds"
  | training => "training"

def label : Phase → String
  | agents => "Agents"
  | guilds => "Guilds"
  | training => "Training"

def words : List (String × Phase) :=
  [agents, guilds, training].map fun phase => (phase.name, phase)

def read : Reading Phase := Reading.choice words

def toDocument (phase : Phase) : Document := .text phase.name

end Phase

structure ProgressEvent where
  phase : Phase
  current : Nat
  total : Nat
  percent : Float32
  message : String
  agentName : Option String
  questTitle : Option String

/-- The share of the items that has been reached, in percent. Nothing to do is all done. -/
def percentage (current total : Nat) : Float32 :=
  if total = 0 then 100
  else
    let share := current.toUInt32.toFloat32 / total.toUInt32.toFloat32 * 100
    if share < 100 then share else 100

namespace ProgressEvent

def create (phase : Phase) (current total : Nat) (message : String)
    (agentName questTitle : Option String) : ProgressEvent :=
  { phase, current, total, percent := percentage current total, message, agentName, questTitle }

def readPercent : Reading Float32 := fun form d =>
  match d.untagged with
  | .int i =>
    let size := i.natAbs.toUInt64.toFloat32
    some (if i < 0 then -size else size)
  | _ => (Reading.float form d).map Float.toFloat32

def read : Reading ProgressEvent := fun form d => do
  let fields ← Reading.fields ["phase", "current", "total", "percent", "message", "agent_name",
    "quest_title"] form d
  return {
    phase := ← fields.required "phase" Phase.read
    current := ← fields.required "current" Reading.word
    total := ← fields.required "total" Reading.word
    percent := ← fields.required "percent" readPercent
    message := ← fields.required "message" Reading.text
    agentName := ← fields.optional "agent_name" Reading.text
    questTitle := ← fields.optional "quest_title" Reading.text }

def toDocument (event : ProgressEvent) : Document :=
  .fields ([("phase", event.phase.toDocument), ("current", .nat event.current),
    ("total", .nat event.total), ("percent", .float event.percent.toFloat),
    ("message", .text event.message)]
    ++ Document.present "agent_name" (event.agentName.map .text)
    ++ Document.present "quest_title" (event.questTitle.map .text))

/-- The log entry of an event; what an event lacks is an empty text there. -/
def logEntry (event : ProgressEvent) : Document :=
  .fields [("phase", .text event.phase.label), ("current", .nat event.current),
    ("total", .nat event.total), ("percent", .float event.percent.toFloat),
    ("agent", .text (event.agentName.getD "")), ("quest", .text (event.questTitle.getD "")),
    ("message", .text event.message)]

end ProgressEvent

end QuestAcademy
