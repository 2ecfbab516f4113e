import QuestAcademy.Json
import QuestAcademy.Plan.Fault
import QuestAcademy.Text.Blank

namespace QuestAcademy

/-- The largest number that a batch or its ordinals may have. -/
def ordinalLimit : Nat := Limit.word

/-- Agents of one level whose names differ only in a number. -/
structure AgentBatch where
  /-- The name of each agent, with a mark in the place of its number. -/
  pattern : String
  count : Nat
  level : Nat
  skills : List String
  modelSettings : Option Json
  isNpc : Bool
  guildId : Option String
  firstOrdinal : Nat

namespace AgentBatch

def fill (filling : List Char) : List Char → List Char
  | [] => []
  | c :: rest =>
    if numberMark.isPrefixOf (c :: rest) then
      filling ++ fill filling (rest.drop (numberMark.length - 1))
    else c :: fill filling rest
termination_by cs => cs.length
decreasing_by
  · simp only [List.length_drop, List.length_cons]
    omega
  · simp

def countMarks : List Char → Nat
  | [] => 0
  | c :: rest => (if numberMark.isPrefixOf (c :: rest) then 1 else 0) + countMarks rest

/-- The number of the agent at a place in the batch; numbers do not grow beyond their limit. -/
def ordinal (batch : AgentBatch) (place : Nat) : Nat :=
  min ordinalLimit (batch.firstOrdinal + place)

def nameAt (batch : AgentBatch) (place : Nat) : String :=
  String.ofList (fill (Decimal.digits (batch.ordinal place)) batch.pattern.toList)

def names (batch : AgentBatch) : List String :=
  (List.range batch.count).map batch.nameAt

def validate (batch : AgentBatch) : Except PlanFault Unit :=
  if Text.isBlank batch.pattern then .error .emptyPattern
  else if countMarks batch.pattern.toList ≠ 1 then .error (.unnumberedPattern batch.pattern)
  else if batch.count = 0 then .error (.emptyBatch batch.pattern)
  else if !Level.isValid batch.level then .error (.batchLevelOutside batch.pattern batch.level)
  else .ok ()

def read : Reading AgentBatch := fun form d => do
  let fields ← Reading.fields ["name_pattern", "count", "level", "skills", "llm_config", "is_npc",
    "guild_id", "first_ordinal"] form d
  return {
    pattern := ← fields.required "name_pattern" Reading.text
    count := ← fields.required "count" Reading.word
    level := ← fields.required "level" Reading.byte
    skills := ← fields.withDefault "skills" [] (Reading.list Reading.text)
    modelSettings := ← fields.optional "llm_config" Json.read
    isNpc := ← fields.withDefault "is_npc" false Reading.bool
    guildId := ← fields.optional "guild_id" Reading.text
    firstOrdinal := ← fields.withDefault "first_ordinal" 1 Reading.word }

def toDocument (batch : AgentBatch) : Document :=
  .fields ([("name_pattern", .text batch.pattern), ("count", .nat batch.count),
    ("level", .nat batch.level), ("skills", .texts batch.skills)]
    ++ Document.present "llm_config" (batch.modelSettings.map Json.toDocument)
    ++ [("is_npc", .bool batch.isNpc)]
    ++ Document.present "guild_id" (batch.guildId.map .text)
    ++ [("first_ordinal", .nat batch.firstOrdinal)])

end AgentBatch

structure GuildCharter where
  id : String
  name : String
  description : String
  culture : String
  minLevel : Nat

namespace GuildCharter

def validate (charter : GuildCharter) : Except PlanFault Unit :=
  if Text.isBlank charter.id then .error (.guildWithoutId charter.name)
  else if !Level.isValid charter.minLevel then
    .error (.guildLevelOutside charter.id charter.minLevel)
  else .ok ()

def read : Reading GuildCharter := fun form d => do
  let fields ← Reading.fields ["id", "name", "description", "culture", "min_level"] form d
  return {
    id := ← fields.required "id" Reading.text
    name := ← fields.required "name" Reading.text
    description := ← fields.withDefault "description" "" Reading.text
    culture := ← fields.withDefault "culture" "" Reading.text
    minLevel := ← fields.withDefault "min_level" Level.lowest Reading.byte }

def toDocument (charter : GuildCharter) : Document :=
  .fields [("id", .text charter.id), ("name", .text charter.name),
    ("description", .text charter.description), ("culture", .text charter.culture),
    ("min_level", .nat charter.minLevel)]

end GuildCharter

structure RosterPlan where
  name : String
  description : String
  batches : List AgentBatch
  charters : List GuildCharter

namespace RosterPlan

/-- How many agents the plan names; the count stops at its limit. -/
def agentCount (plan : RosterPlan) : Nat :=
  plan.batches.foldl (fun total batch => min ordinalLimit (total + batch.count)) 0

def validateAll {α : Type} (check : α → Except PlanFault Unit) : List α → Except PlanFault Unit
  | [] => .ok ()
  | item :: rest =>
    match check item with
    | .error fault => .error fault
    | .ok () => validateAll check rest

def validate (plan : RosterPlan) : Except PlanFault Unit :=
  if plan.batches.isEmpty && plan.charters.isEmpty then .error (.emptyRoster plan.name)
  else
    match validateAll AgentBatch.validate plan.batches with
    | .error fault => .error fault
    | .ok () => validateAll GuildCharter.validate plan.charters

def read : Reading RosterPlan := fun form d => do
  let fields ← Reading.fields ["name", "description", "agents", "guilds"] form d
  return {
    name := ← fields.required "name" Reading.text
    description := ← fields.withDefault "description" "" Reading.text
    batches := ← fields.withDefault "agents" [] (Reading.list AgentBatch.read)
    charters := ← fields.withDefault "guilds" [] (Reading.list GuildCharter.read) }

def toDocument (plan : RosterPlan) : Document :=
  .fields [("name", .text plan.name), ("description", .text plan.description),
    ("agents", .list (plan.batches.map AgentBatch.toDocument)),
    ("guilds", .list (plan.charters.map GuildCharter.toDocument))]

end RosterPlan

end QuestAcademy
