import QuestAcademy.Plan.Fault
import QuestAcademy.Tier

namespace QuestAcademy

structure LevelTargets where
  minLevel : Nat
  maxLevel : Option Nat
  /-- How many trainees each tier is meant to have; tiers may be left open. -/
  tierCounts : Tier → Option Nat

namespace LevelTargets

def default : LevelTargets :=
  { minLevel := 5, maxLevel := none, tierCounts := fun _ => none }

def cap (targets : LevelTargets) : Nat :=
  targets.maxLevel.getD Level.highest

/-- The level at which a trainee has been trained enough. -/
def convergenceLevel (targets : LevelTargets) : Nat :=
  min targets.minLevel targets.cap

def tierGoal (targets : LevelTargets) (tier : Tier) : Nat :=
  min (max tier.minLevel targets.minLevel) targets.cap

/-- One level for each of so many trainees: the floors of the tiers by their counts, the highest
tier first, and the level of convergence for the others. Training does not wait for these goals. -/
def tierGoals (targets : LevelTargets) (agents : Nat) : List Nat :=
  let assigned := Tier.descending.foldl (fun goals tier =>
    goals ++ List.replicate (min ((targets.tierCounts tier).getD 0) (agents - goals.length))
      (targets.tierGoal tier)) []
  assigned ++ List.replicate (agents - assigned.length) targets.convergenceLevel

def assigned (targets : LevelTargets) : Nat :=
  Tier.ascending.foldl (fun total tier => total + (targets.tierCounts tier).getD 0) 0

def validate (targets : LevelTargets) (agents : Nat) : Except PlanFault Unit :=
  if !Level.isValid targets.minLevel then .error (.minLevelOutside targets.minLevel)
  else if !Level.isValid targets.cap then .error (.maxLevelOutside targets.cap)
  else if targets.cap < targets.minLevel then
    .error (.levelsReversed targets.minLevel targets.cap)
  else if agents < targets.assigned then .error (.tooManyAssigned targets.assigned agents)
  else .ok ()

/-- Counts by tier; of counts for one tier the last is taken. -/
def readCounts : Reading (Tier → Option Nat) := fun form d => do
  let counts ← (← Reading.textEntries d).mapM fun entry => do
    return (← Tier.words.lookup entry.1, ← Reading.word form entry.2)
  return fun tier => counts.reverse.lookup tier

def read : Reading LevelTargets := fun form d => do
  let fields ← Reading.fields ["min_level", "max_level", "tier_counts"] form d
  return {
    minLevel := ← fields.withDefault "min_level" default.minLevel Reading.byte
    maxLevel := ← fields.optional "max_level" Reading.byte
    tierCounts := ← fields.withDefault "tier_counts" default.tierCounts readCounts }

def toDocument (targets : LevelTargets) : Document :=
  .fields [("min_level", .nat targets.minLevel),
    ("max_level", .orNull (targets.maxLevel.map .nat)),
    ("tier_counts", .fields (Tier.ascending.filterMap fun tier =>
      (targets.tierCounts tier).map fun count => (tier.name, .nat count)))]

end LevelTargets

end QuestAcademy
