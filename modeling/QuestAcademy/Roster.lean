import QuestAcademy.Environment
import QuestAcademy.Report

/-!
Seeding a roster: the guilds are founded first, then the agents are placed one by one. An agent or
guild that fails is noted in the report and does not stop the run; only the end of the permit does.
-/

namespace QuestAcademy

inductive Founding
  | founded
  | refused (id : String) (error : StoreError)

/-- What went wrong with the membership of an agent that was stored. -/
inductive MembershipError
  | join (name guildId : String) (error : StoreError)
  | drop (name : String) (error : StoreError)

def MembershipError.message : MembershipError → String
  | join name guildId error => "agent " ++ name ++ ": join " ++ guildId ++ ": " ++ error.message
  | drop name error => "agent " ++ name ++ ": drop membership: " ++ error.message

/-- What came of one name of a roster. -/
inductive Placement
  | skipped (agent : Agent)
  | lookupFailed (name : String) (error : StoreError)
  | refused (name : String) (error : StoreError)
  | placed (agent : Agent) (errors : List MembershipError)

namespace Report

def noteFounding (report : Report) : Founding → Report
  | .founded => { report with guildsCreated := report.guildsCreated + 1 }
  | .refused id error =>
    report.noteError ("guild " ++ id ++ ": " ++ (SeedError.creation id error).message)

def notePlacement (report : Report) : Placement → Report
  | .skipped agent =>
    { report with
      agentsSkipped := report.agentsSkipped + 1
      agents := report.agents ++ [agent.summary] }
  | .lookupFailed name error =>
    report.noteError ("agent " ++ name ++ ": lookup failed: " ++ error.message)
  | .refused name error => report.noteError (SeedError.creation name error).message
  | .placed agent errors =>
    { report with
      agentsCreated := report.agentsCreated + 1
      npcsSpawned := report.npcsSpawned + (if agent.isNpc then 1 else 0)
      errors := report.errors ++ errors.map MembershipError.message
      agents := report.agents ++ [agent.summary] }

end Report

namespace GuildCharter

def toGuild (charter : GuildCharter) : Guild :=
  Guild.found charter.id charter.name charter.description charter.culture charter.minLevel

end GuildCharter

namespace AgentBatch

/-- The agent of a batch that has this name and the given id; it is in no guild yet. -/
def build (batch : AgentBatch) (id name : String) : Agent :=
  { ((Agent.create id name batch.level).withSkills batch.skills).withNoviceProficiencies with
    isNpc := batch.isNpc
    modelSettings := batch.modelSettings }

end AgentBatch

def RosterPlan.items (plan : RosterPlan) : List (AgentBatch × String) :=
  plan.batches.flatMap fun batch => batch.names.map fun name => (batch, name)

namespace Roster

variable {ω : Type}

def found (store : StoreAccess ω) (charter : GuildCharter) (world : ω) : Founding × ω :=
  match store.putGuild charter.id charter.toGuild world with
  | (.ok (), world) => (.founded, world)
  | (.error e, world) => (.refused charter.id e, world)

/-- Stores an agent, and only then lets it join its guild. When it cannot join, it is stored once
more without the guild. -/
def place (store : StoreAccess ω) (batch : AgentBatch) (name : String) (world : ω) :
    Placement × ω :=
  let key := instanceKey name
  let agent := batch.build (store.agentId key) name
  match batch.guildId with
  | none =>
    match store.putAgent key agent world with
    | (.error e, world) => (.refused name e, world)
    | (.ok (), world) => (.placed agent [], world)
  | some guildId =>
    let member := { agent with guilds := Names.insert guildId agent.guilds }
    match store.putAgent key member world with
    | (.error e, world) => (.refused name e, world)
    | (.ok (), world) =>
      match store.updateGuild guildId (fun guild => guild.addMember member.id) world with
      | (.ok (), world) => (.placed member [], world)
      | (.error joinError, world) =>
        let outsider := { member with guilds := Names.erase guildId member.guilds }
        match store.putAgent key outsider world with
        | (.ok (), world) => (.placed outsider [.join name guildId joinError], world)
        | (.error dropError, world) =>
          (.placed outsider [.join name guildId joinError, .drop name dropError], world)

/-- Places an agent, unless one of its name is there and shall be left alone. -/
def placeNew (store : StoreAccess ω) (idempotent : Bool) (batch : AgentBatch) (name : String)
    (world : ω) : Placement × ω :=
  if idempotent then
    match store.findByName name world with
    | (.error e, world) => (.lookupFailed name e, world)
    | (.ok (some agent), world) => (.skipped agent, world)
    | (.ok none, world) => place store batch name world
  else place store batch name world

def foundingEvent (charter : GuildCharter) (current total : Nat) : ProgressEvent :=
  .create .guilds current total ("Founding guild " ++ charter.name) none none

def placingEvent (name : String) (current total : Nat) : ProgressEvent :=
  .create .agents current total "Placing agent" (some name) none

/-- Founds the guilds whose charters are left; `done` is how many were tried before. In a dry run a
guild counts as founded without being written. -/
def seedGuilds (env : Environment ω) (dryRun : Bool) (total : Nat) :
    Nat → List GuildCharter → Report → ω → Except Halt Unit × Report × ω
  | _, [], report, world => (.ok (), report, world)
  | done, charter :: rest, report, world =>
    match env.check world with
    | (.error halt, world) => (.error halt, report, world)
    | (.ok (), world) =>
      let world := env.report (foundingEvent charter (done + 1) total) world
      let (founding, world) :=
        if dryRun then (.founded, world) else found env.store charter world
      seedGuilds env dryRun total (done + 1) rest (report.noteFounding founding) world

/-- Places the agents that are left; `done` is how many were tried before. In a dry run an agent
counts as placed without being written. -/
def seedAgents (env : Environment ω) (dryRun idempotent : Bool) (total : Nat) :
    Nat → List (AgentBatch × String) → Report → ω → Except Halt Unit × Report × ω
  | _, [], report, world => (.ok (), report, world)
  | done, (batch, name) :: rest, report, world =>
    match env.check world with
    | (.error halt, world) => (.error halt, report, world)
    | (.ok (), world) =>
      let world := env.report (placingEvent name (done + 1) total) world
      let (placement, world) :=
        if dryRun then
          (.placed (batch.build (env.store.agentId (instanceKey name)) name) [], world)
        else placeNew env.store idempotent batch name world
      seedAgents env dryRun idempotent total (done + 1) rest (report.notePlacement placement) world

def seed (env : Environment ω) (plan : RosterPlan) (dryRun idempotent : Bool) (world : ω) :
    Except Failure Report × ω :=
  let report := Report.start .tieredRoster dryRun
  match plan.validate with
  | .error fault => (.error (report.fail (.plan fault)), world)
  | .ok () =>
    match seedGuilds env dryRun plan.charters.length 0 plan.charters report world with
    | (.error halt, report, world) => (.error (report.fail (.halted halt)), world)
    | (.ok (), report, world) =>
      match seedAgents env dryRun idempotent plan.agentCount 0 plan.items report world with
      | (.error halt, report, world) => (.error (report.fail (.halted halt)), world)
      | (.ok (), report, world) => (.ok report, world)

def outcome (env : Environment ω) (plan : RosterPlan) (dryRun idempotent : Bool) (world : ω) :
    Option (Except Failure Report × ω) :=
  Report.outcome [plan.charters.length, plan.items.length] (seed env plan dryRun idempotent world)

end Roster

end QuestAcademy
