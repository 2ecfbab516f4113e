import QuestAcademy.Document.Reading
import QuestAcademy.Level

namespace QuestAcademy

inductive Tier
  | apprentice
  | journeyman
  | expert
  | master
  | grandmaster
  deriving DecidableEq, Inhabited

namespace Tier

def rank : Tier → Nat
  | apprentice => 1
  | journeyman => 2
  | expert => 3
  | master => 4
  | grandmaster => 5

/-- The tier of a level; levels outside the range count as the nearest inside. -/
def ofLevel (level : Nat) : Tier :=
  let level := Level.clamp level
  if level ≤ 5 then apprentice
  else if level ≤ 10 then journeyman
  else if level ≤ 15 then expert
  else if level ≤ 18 then master
  else grandmaster

def minLevel : Tier → Nat
  | apprentice => 1
  | journeyman => 6
  | expert => 11
  | master => 16
  | grandmaster => 19

def maxLevel : Tier → Nat
  | apprentice => 5
  | journeyman => 10
  | expert => 15
  | master => 18
  | grandmaster => Level.highest

def name : Tier → String
  | apprentice => "apprentice"
  | journeyman => "journeyman"
  | expert => "expert"
  | master => "master"
  | grandmaster => "grandmaster"

def descending : List Tier :=
  [grandmaster, master, expert, journeyman, apprentice]

def ascending : List Tier :=
  [apprentice, journeyman, expert, master, grandmaster]

def words : List (String × Tier) :=
  ascending.map fun tier => (tier.name, tier)

def read : Reading Tier := Reading.choice words

def toDocument (tier : Tier) : Document := .text tier.name

end Tier

end QuestAcademy
