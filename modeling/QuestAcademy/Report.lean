import QuestAcademy.Agent
import QuestAcademy.Permit
import QuestAcademy.Plan
import QuestAcademy.Store
import QuestAcademy.Template.Source

/-!
Reports on seeding runs: what was created and tried, and which errors were met. A run that had to
stop fails with the error and with the report of what it did before.
-/

namespace QuestAcademy

/-- What a run did. Its counts have 32 bits each, in the run as well as on record: here they go on
beyond that, and `Report.outcome` says what comes of a run whose counts do. -/
structure Report where
  mode : SeedMode
  success : Bool
  dryRun : Bool
  agentsCreated : Nat
  agentsSkipped : Nat
  guildsCreated : Nat
  npcsSpawned : Nat
  questsCompleted : Nat
  /-- Attempts at quests, failed ones included. -/
  questsRun : Nat
  errors : List String
  agents : List AgentSummary

/-- What stops a run. -/
inductive SeedError
  | plan (fault : PlanFault)
  | templates (error : TemplateError)
  | creation (name : String) (error : StoreError)
  | halted (halt : Halt)

def SeedError.message : SeedError → String
  | plan fault => "Configuration error: " ++ fault.message
  | templates error => "Template load error: " ++ error.message
  | creation name error => "Failed to create " ++ name ++ ": " ++ error.message
  | halted halt => "Run cancelled: " ++ halt.message

structure Failure where
  error : SeedError
  partialReport : Report

namespace Report

def start (mode : SeedMode) (dryRun : Bool) : Report :=
  { mode, success := true, dryRun
    agentsCreated := 0, agentsSkipped := 0, guildsCreated := 0, npcsSpawned := 0
    questsCompleted := 0, questsRun := 0, errors := [], agents := [] }

def noteError (report : Report) (text : String) : Report :=
  { report with errors := report.errors ++ [text] }

def hasErrors (report : Report) : Bool := !report.errors.isEmpty

/-- Adds the counts, errors and agents of a run inside this one. -/
def absorb (report other : Report) : Report :=
  { report with
    agentsCreated := report.agentsCreated + other.agentsCreated
    agentsSkipped := report.agentsSkipped + other.agentsSkipped
    guildsCreated := report.guildsCreated + other.guildsCreated
    npcsSpawned := report.npcsSpawned + other.npcsSpawned
    questsCompleted := report.questsCompleted + other.questsCompleted
    questsRun := report.questsRun + other.questsRun
    errors := report.errors ++ other.errors
    agents := report.agents ++ other.agents }

/-- Closes a report with the error that stopped the run. -/
def fail (report : Report) (error : SeedError) : Failure :=
  { error, partialReport := { report.noteError error.message with success := false } }

def counts (report : Report) : List Nat :=
  [report.agentsCreated, report.agentsSkipped, report.guildsCreated, report.npcsSpawned,
    report.questsCompleted, report.questsRun]

def fits (report : Report) : Bool :=
  report.counts.all fun count => count ≤ Limit.word

/-- Whether the numbers of a run had room: the counts of its report and, if it came to its end, the
numbers that it gave to the items of some lists of these lengths. -/
def hasRoom (lengths : List Nat) : Except Failure Report → Bool
  | .ok report => report.fits && lengths.all fun length => length ≤ Limit.word
  | .error failure => failure.partialReport.fits

/-- What comes of a run. No number goes down during it, so one that has passed 32 bits in the end did
so at some step. The run broke down there, and nothing comes of it. -/
def outcome {ω : Type} (lengths : List Nat) (ended : Except Failure Report × ω) :
    Option (Except Failure Report × ω) :=
  if hasRoom lengths ended.1 then some ended else none

end Report

structure Elapsed where
  seconds : Nat
  nanoseconds : Nat
  deriving DecidableEq

namespace Elapsed

def billion : Nat := 1000000000

/-- Whole seconds among the nanoseconds are carried over. No other field may be given, and the
seconds must fit 64 bits in the end. -/
def read : Reading Elapsed := fun form d => do
  let fields ← Reading.fields ["secs", "nanos"] form d
  let seconds ← fields.required "secs" Reading.long
  let nanoseconds ← fields.required "nanos" Reading.word
  if fields.others then none
  else
    let total := seconds + nanoseconds / billion
    if total ≤ Limit.long then return ⟨total, nanoseconds % billion⟩ else none

def toDocument (elapsed : Elapsed) : Document :=
  .fields [("secs", .nat elapsed.seconds), ("nanos", .nat elapsed.nanoseconds)]

end Elapsed

structure ReportRecord where
  report : Report
  duration : Elapsed

namespace Report

def toDocument (report : Report) (duration : Option Elapsed) : Document :=
  .fields ([("mode", report.mode.toDocument), ("success", .bool report.success),
    ("dry_run", .bool report.dryRun), ("agents_created", .nat report.agentsCreated),
    ("agents_skipped", .nat report.agentsSkipped), ("guilds_created", .nat report.guildsCreated),
    ("npcs_spawned", .nat report.npcsSpawned), ("quests_completed", .nat report.questsCompleted),
    ("quests_run", .nat report.questsRun), ("errors", .texts report.errors)]
    ++ Document.present "duration" (duration.map Elapsed.toDocument)
    ++ [("agents", .list (report.agents.map AgentSummary.toDocument))])

end Report

namespace ReportRecord

def read : Reading ReportRecord := fun form d => do
  let fields ← Reading.fields ["mode", "success", "dry_run", "agents_created", "agents_skipped",
    "guilds_created", "npcs_spawned", "quests_completed", "quests_run", "errors", "duration",
    "agents"] form d
  let report : Report := {
    mode := ← fields.required "mode" SeedMode.read
    success := ← fields.required "success" Reading.bool
    dryRun := ← fields.required "dry_run" Reading.bool
    agentsCreated := ← fields.required "agents_created" Reading.word
    agentsSkipped := ← fields.required "agents_skipped" Reading.word
    guildsCreated := ← fields.required "guilds_created" Reading.word
    npcsSpawned := ← fields.required "npcs_spawned" Reading.word
    questsCompleted := ← fields.required "quests_completed" Reading.word
    questsRun := ← fields.required "quests_run" Reading.word
    errors := ← fields.required "errors" (Reading.list Reading.text)
    agents := ← fields.required "agents" (Reading.list AgentSummary.read) }
  return { report, duration := ← fields.required "duration" Elapsed.read }

def toDocument (record : ReportRecord) : Document :=
  record.report.toDocument (some record.duration)

end ReportRecord

end QuestAcademy
