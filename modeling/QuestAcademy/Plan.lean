import QuestAcademy.Plan.Arena
import QuestAcademy.Plan.Roster

namespace QuestAcademy

inductive SeedMode
  | trainingArena
  | tieredRoster
  deriving DecidableEq, Inhabited

namespace SeedMode

def name : SeedMode → String
  | trainingArena => "training_arena"
  | tieredRoster => "tiered_roster"

def words : List (String × SeedMode) :=
  [trainingArena, tieredRoster].map fun mode => (mode.name, mode)

def read : Reading SeedMode := Reading.choice words

def toDocument (mode : SeedMode) : Document := .text mode.name

end SeedMode

structure SeedPlan where
  mode : SeedMode
  dryRun : Bool
  /-- Leave agents alone whose names are there already. -/
  idempotent : Bool
  arena : Option ArenaPlan
  roster : Option RosterPlan

inductive SeedTask
  | train (plan : ArenaPlan)
  | place (plan : RosterPlan)

namespace SeedPlan

def task (plan : SeedPlan) : Except PlanFault SeedTask :=
  match plan.mode with
  | .trainingArena =>
    match plan.arena with
    | none => .error .noArena
    | some arena =>
      match arena.validate with
      | .error fault => .error fault
      | .ok () => .ok (.train arena)
  | .tieredRoster =>
    match plan.roster with
    | none => .error .noRoster
    | some roster =>
      match roster.validate with
      | .error fault => .error fault
      | .ok () => .ok (.place roster)

def validate (plan : SeedPlan) : Except PlanFault Unit :=
  match plan.task with
  | .error fault => .error fault
  | .ok _ => .ok ()

def read : Reading SeedPlan := fun form d => do
  let fields ← Reading.fields ["mode", "dry_run", "idempotent", "arena", "roster"] form d
  return {
    mode := ← fields.required "mode" SeedMode.read
    dryRun := ← fields.withDefault "dry_run" false Reading.bool
    idempotent := ← fields.withDefault "idempotent" true Reading.bool
    arena := ← fields.optional "arena" ArenaPlan.read
    roster := ← fields.optional "roster" RosterPlan.read }

def toDocument (plan : SeedPlan) : Document :=
  .fields ([("mode", plan.mode.toDocument), ("dry_run", .bool plan.dryRun),
    ("idempotent", .bool plan.idempotent)]
    ++ Document.present "arena" (plan.arena.map ArenaPlan.toDocument)
    ++ Document.present "roster" (plan.roster.map RosterPlan.toDocument))

end SeedPlan

end QuestAcademy
