import QuestAcademy.InstanceKey
import QuestAcademy.Json
import QuestAcademy.Plan.Targets
import QuestAcademy.Rubric
import QuestAcademy.Selection
import QuestAcademy.Text.Blank

namespace QuestAcademy

structure TraineeProfile where
  name : String
  skills : List String
  modelSettings : Option Json

namespace TraineeProfile

/-- The name of the trainee made from a profile: the key of the profile's name, if it has one, and
the place of the profile, counted from one. -/
def traineeName (profile : TraineeProfile) (ordinal : Nat) : String :=
  let key := instanceKey profile.name
  (if key = "" then "trainee" else key) ++ "-" ++ Decimal.text ordinal

def read : Reading TraineeProfile := fun form d => do
  let fields ← Reading.fields ["name", "skills", "llm_config"] form d
  return {
    name := ← fields.required "name" Reading.text
    skills := ← fields.withDefault "skills" [] (Reading.list Reading.text)
    modelSettings := ← fields.optional "llm_config" Json.read }

def toDocument (profile : TraineeProfile) : Document :=
  .fields ([("name", .text profile.name), ("skills", .texts profile.skills)]
    ++ Document.present "llm_config" (profile.modelSettings.map Json.toDocument))

end TraineeProfile

structure ArenaPlan where
  profiles : List TraineeProfile
  targets : LevelTargets
  /-- How many quests may be tried for each trainee. -/
  questsPerTrainee : Nat
  multiplier : Float
  domain : String
  questFile : Option String
  strictness : Strictness
  /-- How many mentors to create when there are none. -/
  bootstrapMentors : Nat
  mentored : Bool
  traineesPerMentor : Nat
  selection : SelectionMode
  /-- How many trainees may be at work at once. -/
  concurrency : Nat

namespace ArenaPlan

def default : ArenaPlan :=
  { profiles := []
    targets := .default
    questsPerTrainee := 50
    multiplier := 1
    domain := "general"
    questFile := none
    strictness := .standard
    bootstrapMentors := 0
    mentored := false
    traineesPerMentor := 3
    selection := .first
    concurrency := 1 }

def validate (plan : ArenaPlan) : Except PlanFault Unit :=
  if plan.profiles.isEmpty then .error .noProfiles
  else
    match plan.profiles.find? fun profile => Text.isBlank profile.name with
    | some profile => .error (.namelessProfile profile.skills)
    | none =>
      if plan.questsPerTrainee = 0 then .error .noQuests
      else if !plan.multiplier.isFinite || plan.multiplier ≤ 0 then
        .error (.badMultiplier plan.multiplier)
      else if plan.mentored && plan.traineesPerMentor = 0 then .error .noTraineesPerMentor
      else if plan.concurrency = 0 then .error .noConcurrency
      else plan.targets.validate plan.profiles.length

def read : Reading ArenaPlan := fun form d => do
  let fields ← Reading.fields ["agents", "target_levels", "max_training_quests", "xp_multiplier",
    "quest_domain", "quest_file", "judge_profile", "bootstrap_mentors", "mentored_training",
    "trainees_per_mentor", "selection", "round_concurrency"] form d
  return {
    profiles := ← fields.withDefault "agents" [] (Reading.list TraineeProfile.read)
    targets := ← fields.withDefault "target_levels" .default LevelTargets.read
    questsPerTrainee :=
      ← fields.withDefault "max_training_quests" default.questsPerTrainee Reading.word
    multiplier := ← fields.withDefault "xp_multiplier" default.multiplier Reading.float
    domain := ← fields.withDefault "quest_domain" default.domain Reading.text
    questFile := ← fields.optional "quest_file" Reading.text
    strictness := ← fields.withDefault "judge_profile" default.strictness Strictness.read
    bootstrapMentors :=
      ← fields.withDefault "bootstrap_mentors" default.bootstrapMentors Reading.word
    mentored := ← fields.withDefault "mentored_training" default.mentored Reading.bool
    traineesPerMentor :=
      ← fields.withDefault "trainees_per_mentor" default.traineesPerMentor Reading.word
    selection := ← fields.withDefault "selection" default.selection SelectionMode.read
    concurrency := ← fields.withDefault "round_concurrency" default.concurrency Reading.long }

def toDocument (plan : ArenaPlan) : Document :=
  .fields ([("agents", .list (plan.profiles.map TraineeProfile.toDocument)),
    ("target_levels", plan.targets.toDocument),
    ("max_training_quests", .nat plan.questsPerTrainee),
    ("xp_multiplier", .float plan.multiplier),
    ("quest_domain", .text plan.domain)]
    ++ Document.present "quest_file" (plan.questFile.map .text)
    ++ [("judge_profile", plan.strictness.toDocument),
      ("bootstrap_mentors", .nat plan.bootstrapMentors),
      ("mentored_training", .bool plan.mentored),
      ("trainees_per_mentor", .nat plan.traineesPerMentor),
      ("selection", plan.selection.toDocument),
      ("round_concurrency", .nat plan.concurrency)])

end ArenaPlan

end QuestAcademy
