import QuestAcademy.Agent

namespace QuestAcademy

structure Guild where
  id : String
  name : String
  description : String
  culture : String
  minLevel : Nat
  members : List String
  maxMembers : Nat
  reputation : Float

namespace Guild

def defaultCapacity : Nat := 20

def baselineReputation : Float := 0.5

def found (id name description culture : String) (minLevel : Nat) : Guild :=
  { id, name, description, culture
    minLevel := Level.clamp minLevel
    members := []
    maxMembers := defaultCapacity
    reputation := baselineReputation }

def hasMember (guild : Guild) (agentId : String) : Bool :=
  guild.members.contains agentId

/-- Appends a member that the guild does not have yet. -/
def addMember (guild : Guild) (agentId : String) : Guild :=
  if guild.hasMember agentId then guild
  else { guild with members := guild.members ++ [agentId] }

def toFields (guild : Guild) : List (String × Document) :=
  [("id", .text guild.id), ("name", .text guild.name), ("description", .text guild.description),
    ("culture", .text guild.culture), ("min_level", .nat guild.minLevel),
    ("members", .texts guild.members), ("max_members", .nat guild.maxMembers),
    ("reputation", .float guild.reputation)]

def toDocument (guild : Guild) : Document := .fields guild.toFields

end Guild

structure GuildRecord where
  guild : Guild
  createdAt : Timestamp

namespace GuildRecord

def read : Reading GuildRecord := fun form d => do
  let fields ← Reading.fields ["id", "name", "description", "culture", "min_level", "members",
    "max_members", "reputation", "created_at"] form d
  let guild : Guild := {
    id := ← fields.required "id" Reading.text
    name := ← fields.required "name" Reading.text
    description := ← fields.required "description" Reading.text
    culture := ← fields.required "culture" Reading.text
    minLevel := ← fields.required "min_level" Reading.byte
    members := ← fields.required "members" (Reading.list Reading.text)
    maxMembers := ← fields.required "max_members" Reading.long
    reputation := ← fields.required "reputation" Reading.float }
  return { guild, createdAt := ← fields.required "created_at" Timestamp.read }

def toDocument (record : GuildRecord) : Document :=
  .fields (record.guild.toFields ++ [("created_at", record.createdAt.toDocument)])

end GuildRecord

end QuestAcademy
