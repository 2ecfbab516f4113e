import QuestAcademy.Decimal.Layout
import QuestAcademy.Folder
import QuestAcademy.Level
import QuestAcademy.Text.Quoted

namespace QuestAcademy

inductive PlanFault
  | noProfiles
  | namelessProfile (skills : List String)
  | noQuests
  | badMultiplier (multiplier : Float)
  | noTraineesPerMentor
  | noConcurrency
  | minLevelOutside (level : Nat)
  | maxLevelOutside (level : Nat)
  | levelsReversed (minLevel maxLevel : Nat)
  | tooManyAssigned (assigned agents : Nat)
  | emptyRoster (name : String)
  | emptyPattern
  | unnumberedPattern (pattern : String)
  | emptyBatch (pattern : String)
  | batchLevelOutside (pattern : String) (level : Nat)
  | guildWithoutId (name : String)
  | guildLevelOutside (id : String) (level : Nat)
  | noArena
  | noRoster
  | invalidJson
  | invalidYaml
  | unreadable (path : String) (failure : ReadFailure)
  | stated (text : String)

def numberMark : List Char := [Char.ofNat 0x7b, 'n', Char.ofNat 0x7d]

private def levelRange : String :=
  Decimal.text Level.lowest ++ "..=" ++ Decimal.text Level.highest

private def outside (what : String) (level : Nat) : String :=
  what ++ " " ++ Decimal.text level ++ " outside " ++ levelRange

def PlanFault.message : PlanFault → String
  | noProfiles => "arena requires at least one agent profile"
  | namelessProfile skills =>
    "agent profile with skills " ++ Text.quotedList skills ++ " has an empty name"
  | noQuests => "max_training_quests must be positive"
  | badMultiplier multiplier => "xp_multiplier must be positive, got " ++ Decimal.plain multiplier
  | noTraineesPerMentor => "trainees_per_mentor must be positive"
  | noConcurrency => "round_concurrency must be positive"
  | minLevelOutside level => outside "min_level" level
  | maxLevelOutside level => outside "max_level" level
  | levelsReversed minLevel maxLevel =>
    "min_level " ++ Decimal.text minLevel ++ " exceeds max_level " ++ Decimal.text maxLevel
  | tooManyAssigned assigned agents =>
    "tier counts assign " ++ Decimal.text assigned ++ " agents but only " ++ Decimal.text agents
      ++ " are configured"
  | emptyRoster name => "roster " ++ Text.quoted name ++ " declares no agents or guilds"
  | emptyPattern => "roster agent name_pattern is empty"
  | unnumberedPattern pattern =>
    "name_pattern " ++ Text.quoted pattern ++ " must contain " ++ String.ofList numberMark
      ++ " exactly once"
  | emptyBatch pattern => "name_pattern " ++ Text.quoted pattern ++ " has a zero count"
  | batchLevelOutside pattern level =>
    "name_pattern " ++ Text.quoted pattern ++ " has " ++ outside "level" level
  | guildWithoutId name => "guild " ++ Text.quoted name ++ " has an empty id"
  | guildLevelOutside id level => "guild " ++ id ++ " has " ++ outside "min_level" level
  | noArena => "training_arena mode requires an arena section"
  | noRoster => "tiered_roster mode requires a roster section"
  | invalidJson => "invalid JSON"
  | invalidYaml => "invalid YAML"
  | unreadable path failure => "cannot read " ++ path ++ ": " ++ failure.message
  | stated text => text

end QuestAcademy
