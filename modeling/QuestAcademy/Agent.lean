import QuestAcademy.Difficulty
import QuestAcademy.InstanceKey
import QuestAcademy.Json
import QuestAcademy.Proficiency
import QuestAcademy.Timestamp

/-!
Agents and their progression: level, tier and experience, and what they know. The dates of an agent
are kept beside it in a record, since no rule of progression looks at them.
-/

namespace QuestAcademy

inductive Availability
  | idle
  | busy
  | resting
  | retired
  deriving DecidableEq, Inhabited

namespace Availability

def name : Availability → String
  | idle => "idle"
  | busy => "busy"
  | resting => "resting"
  | retired => "retired"

def words : List (String × Availability) :=
  [idle, busy, resting, retired].map fun status => (status.name, status)

def read : Reading Availability := Reading.choice words

def toDocument (status : Availability) : Document := .text status.name

end Availability

structure Agent where
  id : String
  name : String
  level : Nat
  tier : Tier
  /-- Experience earned inside the present level. -/
  experience : Nat
  experienceToNext : Nat
  status : Availability
  skills : List String
  proficiencies : List (String × Proficiency)
  guilds : List String
  isNpc : Bool
  modelSettings : Option Json

structure AgentSummary where
  id : String
  name : String
  level : Nat
  tier : Tier
  experience : Nat
  isNpc : Bool
  guilds : List String
  deriving DecidableEq

def trainingSkill : String := "training"

namespace Agent

def create (id name : String) (level : Nat) : Agent :=
  { id, name
    level := Level.clamp level
    tier := Tier.ofLevel (Level.clamp level)
    experience := 0
    experienceToNext := Level.experienceToNext (Level.clamp level)
    status := .idle
    skills := []
    proficiencies := []
    guilds := []
    isNpc := false
    modelSettings := none }

def withSkills (agent : Agent) (skills : List String) : Agent :=
  { agent with skills := Names.ofList skills }

def withNoviceProficiencies (agent : Agent) : Agent :=
  { agent with
    proficiencies := agent.skills.foldl (fun known skill =>
      match Keyed.find? skill known with
      | some _ => known
      | none => Keyed.insert skill .novice known) agent.proficiencies }

def hasSkill (agent : Agent) (skill : String) : Bool :=
  agent.skills.contains skill

def isIdle (agent : Agent) : Bool :=
  agent.status = .idle

/-- Trades experience for levels as long as it pays for the next one. Above the highest level there
is nothing to earn. -/
def rollOver (level experience needed : Nat) : Nat × Nat × Nat :=
  if level < Level.highest ∧ needed ≤ experience then
    rollOver (level + 1) (experience - needed) (Level.experienceToNext (level + 1))
  else (level, experience, needed)
termination_by Level.highest - level

def grant (agent : Agent) (amount : Nat) : Agent :=
  let (level, experience, needed) :=
    rollOver agent.level (agent.experience + amount) agent.experienceToNext
  { agent with
    level
    experience := if Level.highest ≤ level then 0 else experience
    experienceToNext := needed
    tier := Tier.ofLevel level }

def levelsGained (agent : Agent) (amount : Nat) : Nat :=
  (agent.grant amount).level - agent.level

/-- Takes experience inside the present level; no level is ever lost. -/
def deduct (agent : Agent) (amount : Nat) : Agent :=
  { agent with experience := agent.experience - amount }

def practise (agent : Agent) (experience : Nat) (skill : String) : Agent :=
  { agent with
    proficiencies := Keyed.insert skill
      (((Keyed.find? skill agent.proficiencies).getD .novice).record experience)
      agent.proficiencies }

def summary (agent : Agent) : AgentSummary :=
  { id := agent.id, name := agent.name, level := agent.level, tier := agent.tier
    experience := agent.experience, isNpc := agent.isNpc, guilds := agent.guilds }

/-- Idle agents who can train and are beyond the first tier may be mentors. -/
def isQualifiedMentor (agent : Agent) : Bool :=
  agent.hasSkill trainingSkill && Tier.journeyman.rank ≤ agent.tier.rank && agent.isIdle

end Agent

namespace AgentSummary

def read : Reading AgentSummary := fun form d => do
  let fields ← Reading.fields ["id", "name", "level", "tier", "xp", "is_npc", "guilds"] form d
  return {
    id := ← fields.required "id" Reading.text
    name := ← fields.required "name" Reading.text
    level := ← fields.required "level" Reading.byte
    tier := ← fields.required "tier" Tier.read
    experience := ← fields.required "xp" Reading.long
    isNpc := ← fields.required "is_npc" Reading.bool
    guilds := ← fields.required "guilds" (Reading.list Reading.text) }

def toDocument (summary : AgentSummary) : Document :=
  .fields [("id", .text summary.id), ("name", .text summary.name), ("level", .nat summary.level),
    ("tier", summary.tier.toDocument), ("xp", .nat summary.experience),
    ("is_npc", .bool summary.isNpc), ("guilds", .texts summary.guilds)]

end AgentSummary

structure AgentRecord where
  agent : Agent
  createdAt : Timestamp
  updatedAt : Timestamp

namespace Agent

def toFields (agent : Agent) : List (String × Document) :=
  [("id", .text agent.id), ("name", .text agent.name), ("level", .nat agent.level),
    ("tier", agent.tier.toDocument), ("xp", .nat agent.experience),
    ("xp_to_next_level", .nat agent.experienceToNext), ("status", agent.status.toDocument),
    ("skills", .texts agent.skills),
    ("skill_proficiencies",
      .fields (Keyed.mapValues Proficiency.toDocument agent.proficiencies)),
    ("guilds", .texts agent.guilds), ("is_npc", .bool agent.isNpc)]
    ++ Document.present "llm_config" (agent.modelSettings.map Json.toDocument)

def toDocument (agent : Agent) : Document := .fields agent.toFields

end Agent

namespace AgentRecord

def read : Reading AgentRecord := fun form d => do
  let fields ← Reading.fields ["id", "name", "level", "tier", "xp", "xp_to_next_level", "status",
    "skills", "skill_proficiencies", "guilds", "is_npc", "llm_config", "created_at",
    "updated_at"] form d
  let agent : Agent := {
    id := ← fields.required "id" Reading.text
    name := ← fields.required "name" Reading.text
    level := ← fields.required "level" Reading.byte
    tier := ← fields.required "tier" Tier.read
    experience := ← fields.required "xp" Reading.long
    experienceToNext := ← fields.required "xp_to_next_level" Reading.long
    status := ← fields.required "status" Availability.read
    skills := ← fields.required "skills" Reading.names
    proficiencies := ← fields.required "skill_proficiencies" (Reading.keyed Proficiency.read)
    guilds := ← fields.required "guilds" Reading.names
    isNpc := ← fields.required "is_npc" Reading.bool
    modelSettings := ← fields.optional "llm_config" Json.read }
  return {
    agent
    createdAt := ← fields.required "created_at" Timestamp.read
    updatedAt := ← fields.required "updated_at" Timestamp.read }

def toDocument (record : AgentRecord) : Document :=
  .fields (record.agent.toFields ++ [("created_at", record.createdAt.toDocument),
    ("updated_at", record.updatedAt.toDocument)])

end AgentRecord

end QuestAcademy
