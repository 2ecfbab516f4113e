import QuestAcademy.Document.Reading

namespace QuestAcademy

inductive Band
  | novice
  | apprentice
  | journeyman
  | expert
  | master
  deriving DecidableEq, Inhabited

namespace Band

def rank : Band → Nat
  | novice => 1
  | apprentice => 2
  | journeyman => 3
  | expert => 4
  | master => 5

def name : Band → String
  | novice => "novice"
  | apprentice => "apprentice"
  | journeyman => "journeyman"
  | expert => "expert"
  | master => "master"

def next? : Band → Option Band
  | novice => some apprentice
  | apprentice => some journeyman
  | journeyman => some expert
  | expert => some master
  | master => none

def ascending : List Band :=
  [novice, apprentice, journeyman, expert, master]

def words : List (String × Band) :=
  ascending.map fun band => (band.name, band)

def read : Reading Band := Reading.choice words

def toDocument (band : Band) : Document := .text band.name

end Band

structure Proficiency where
  band : Band
  progress : Nat
  totalExperience : Nat
  questsUsed : Nat
  deriving DecidableEq

namespace Proficiency

def bandWidth : Nat := 100

def countLimit : Nat := Limit.word

def experienceLimit : Nat := Limit.long

def novice : Proficiency := ⟨.novice, 0, 0, 0⟩

/-- Points for an award: one for every ten of experience, and at least one. -/
def gain (experience : Nat) : Nat :=
  min countLimit (max (experience / 10) 1)

/-- Trades full widths of progress for bands. At the top the progress stays at one full width. -/
def promote (band : Band) (progress : Nat) : Band × Nat :=
  if progress < bandWidth then (band, progress)
  else
    match band.next? with
    | some above => promote above (progress - bandWidth)
    | none => (band, bandWidth)
termination_by progress
decreasing_by
  simp only [bandWidth] at *
  omega

/-- The proficiency after a quest that used the skill. Counts stop at their limits. -/
def record (p : Proficiency) (experience : Nat) : Proficiency :=
  let promoted := promote p.band (min countLimit (p.progress + gain experience))
  { band := promoted.1
    progress := promoted.2
    totalExperience := min experienceLimit (p.totalExperience + experience)
    questsUsed := min countLimit (p.questsUsed + 1) }

def read : Reading Proficiency := fun form d => do
  let fields ← Reading.fields ["proficiency_level", "progress", "total_xp", "quests_used"] form d
  return {
    band := ← fields.required "proficiency_level" Band.read
    progress := ← fields.required "progress" Reading.word
    totalExperience := ← fields.required "total_xp" Reading.long
    questsUsed := ← fields.required "quests_used" Reading.word }

def toDocument (p : Proficiency) : Document :=
  .fields [("proficiency_level", p.band.toDocument), ("progress", .nat p.progress),
    ("total_xp", .nat p.totalExperience), ("quests_used", .nat p.questsUsed)]

end Proficiency

end QuestAcademy
