import QuestAcademy.Plan.Roster
import QuestAcademy.Store

namespace QuestAcademy.Mentors

variable {ω : Type}

def startLevel : Nat := 8

def mentoringSkill : String := "mentoring"

def keyStart : List Char := ['m', 'e', 'n', 't', 'o', 'r', '-']

def namePattern : String :=
  String.ofList (keyStart ++ numberMark)

/-- The agents that may be mentors, in the order of the store, trainees excluded. -/
def find (store : StoreAccess ω) (excluded : List String) (world : ω) :
    Except StoreError (List Agent) × ω :=
  match store.listAgents world with
  | (.error e, world) => (.error e, world)
  | (.ok agents, world) =>
    (.ok (agents.filter fun agent => !excluded.contains agent.id && agent.isQualifiedMentor), world)

/-- The number in a name whose key is that of a new mentor. -/
def ordinal? (name : String) : Option Nat := do
  let key := (instanceKey name).toList
  if keyStart.isPrefixOf key then
    let n ← Decimal.value? (key.drop keyStart.length)
    if n ≤ ordinalLimit then some n else none
  else none

/-- The first number above those of the names that are taken. -/
def nextOrdinal (taken : List String) : Nat :=
  match (taken.filterMap ordinal?).max? with
  | none => 1
  | some n => min ordinalLimit (n + 1)

/-- A roster of so many new mentors, numbered from an ordinal on. -/
def roster (count firstOrdinal : Nat) : RosterPlan :=
  { name := "arena-mentors"
    description := ""
    batches := [{
      pattern := namePattern
      count
      level := startLevel
      skills := [trainingSkill, mentoringSkill]
      modelSettings := none
      isNpc := true
      guildId := none
      firstOrdinal }]
    charters := [] }

/-- For each trainee its mentor. The mentors take turns; each takes so many trainees and no more,
and the trainees beyond have no mentor. -/
def assign (trainees : Nat) (mentors : List String) (perMentor : Nat) : List (Option String) :=
  (List.range trainees).map fun place =>
    if place < mentors.length * perMentor then mentors[place % mentors.length]? else none

end QuestAcademy.Mentors
