import QuestAcademy.Difficulty
import QuestAcademy.Payload
import QuestAcademy.Timestamp

namespace QuestAcademy

inductive QuestStatus
  | posted
  | claimed
  | inProgress
  | completed
  | failed
  deriving DecidableEq, Inhabited

namespace QuestStatus

def name : QuestStatus → String
  | posted => "posted"
  | claimed => "claimed"
  | inProgress => "in_progress"
  | completed => "completed"
  | failed => "failed"

def label : QuestStatus → String
  | posted => "Posted"
  | claimed => "Claimed"
  | inProgress => "InProgress"
  | completed => "Completed"
  | failed => "Failed"

def all : List QuestStatus :=
  [posted, claimed, inProgress, completed, failed]

def isActive : QuestStatus → Bool
  | claimed | inProgress => true
  | posted | completed | failed => false

def words : List (String × QuestStatus) :=
  all.map fun status => (status.name, status)

def read : Reading QuestStatus := Reading.choice words

def toDocument (status : QuestStatus) : Document := .text status.name

end QuestStatus

/-- What is asked of whoever takes the quest, and what it is worth. -/
structure Draft where
  templateId : String
  title : String
  description : String
  difficulty : Difficulty
  requiredSkills : List String
  input : Payload
  /-- The reward before it is judged, any multiplier included. -/
  baseExperience : Nat
  mentor : Option String

namespace Draft

def read : Reading Draft := fun form d => do
  let fields ← Reading.fields ["template_id", "title", "description", "difficulty",
    "required_skills", "input", "base_xp", "mentor"] form d
  return {
    templateId := ← fields.required "template_id" Reading.text
    title := ← fields.required "title" Reading.text
    description := ← fields.required "description" Reading.text
    difficulty := ← fields.required "difficulty" Difficulty.read
    requiredSkills := ← fields.required "required_skills" Reading.names
    input := ← fields.required "input" Payload.read
    baseExperience := ← fields.required "base_xp" Reading.long
    mentor := ← fields.optional "mentor" Reading.text }

def toDocument (draft : Draft) : Document :=
  .fields ([("template_id", .text draft.templateId), ("title", .text draft.title),
    ("description", .text draft.description), ("difficulty", draft.difficulty.toDocument),
    ("required_skills", .texts draft.requiredSkills), ("input", draft.input.toDocument),
    ("base_xp", .nat draft.baseExperience)]
    ++ Document.present "mentor" (draft.mentor.map .text))

end Draft

structure Quest where
  id : String
  draft : Draft
  status : QuestStatus
  claimedBy : Option String

structure QuestRecord where
  quest : Quest
  postedAt : Timestamp

namespace Quest

def toFields (quest : Quest) : List (String × Document) :=
  [("id", .text quest.id), ("draft", quest.draft.toDocument), ("status", quest.status.toDocument),
    ("claimed_by", .orNull (quest.claimedBy.map .text))]

def toDocument (quest : Quest) : Document := .fields quest.toFields

end Quest

namespace QuestRecord

def read : Reading QuestRecord := fun form d => do
  let fields ← Reading.fields ["id", "draft", "status", "claimed_by", "posted_at"] form d
  let quest : Quest := {
    id := ← fields.required "id" Reading.text
    draft := ← fields.required "draft" Draft.read
    status := ← fields.required "status" QuestStatus.read
    claimedBy := ← fields.optional "claimed_by" Reading.text }
  return { quest, postedAt := ← fields.required "posted_at" Timestamp.read }

def toDocument (record : QuestRecord) : Document :=
  .fields (record.quest.toFields ++ [("posted_at", record.postedAt.toDocument)])

end QuestRecord

/-- What a judge awards or takes for the result of a quest. -/
structure Verdict where
  passed : Bool
  quality : Float
  award : Nat
  penalty : Nat
  feedback : String

namespace Verdict

def read : Reading Verdict := fun form d => do
  let fields ← Reading.fields ["passed", "quality_score", "xp_awarded", "xp_penalty",
    "feedback"] form d
  return {
    passed := ← fields.required "passed" Reading.bool
    quality := ← fields.required "quality_score" Reading.float
    award := ← fields.required "xp_awarded" Reading.long
    penalty := ← fields.required "xp_penalty" Reading.long
    feedback := ← fields.required "feedback" Reading.text }

def toDocument (verdict : Verdict) : Document :=
  .fields [("passed", .bool verdict.passed), ("quality_score", .float verdict.quality),
    ("xp_awarded", .nat verdict.award), ("xp_penalty", .nat verdict.penalty),
    ("feedback", .text verdict.feedback)]

def finalStatus (verdict : Verdict) : QuestStatus :=
  if verdict.passed then .completed else .failed

/-- The change of experience that a receipt tells: the award, or the penalty taken off. It is kept
in 64 bits with a sign, and amounts from `2 ^ 63` on wrap around. -/
def change (verdict : Verdict) : Int :=
  if verdict.passed then (verdict.award : Int).bmod (Limit.long + 1)
  else (-(verdict.penalty : Int).bmod (Limit.long + 1)).bmod (Limit.long + 1)

end Verdict

/-- What the board reports once a verdict has been applied. -/
structure Receipt where
  questId : String
  agentId : String
  status : QuestStatus
  change : Int
  levelBefore : Nat
  levelAfter : Nat
  deriving DecidableEq

namespace Receipt

def leveledUp (receipt : Receipt) : Bool :=
  receipt.levelBefore < receipt.levelAfter

def read : Reading Receipt := fun form d => do
  let fields ← Reading.fields ["quest_id", "agent_id", "status", "xp_delta", "level_before",
    "level_after"] form d
  return {
    questId := ← fields.required "quest_id" Reading.text
    agentId := ← fields.required "agent_id" Reading.text
    status := ← fields.required "status" QuestStatus.read
    change := ← fields.required "xp_delta" Reading.signed
    levelBefore := ← fields.required "level_before" Reading.byte
    levelAfter := ← fields.required "level_after" Reading.byte }

def toFields (receipt : Receipt) : List (String × Document) :=
  [("quest_id", .text receipt.questId), ("agent_id", .text receipt.agentId),
    ("status", receipt.status.toDocument), ("xp_delta", .int receipt.change),
    ("level_before", .nat receipt.levelBefore), ("level_after", .nat receipt.levelAfter)]

def toDocument (receipt : Receipt) : Document := .fields receipt.toFields

end Receipt

end QuestAcademy
