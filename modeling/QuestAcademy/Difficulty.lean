import QuestAcademy.Tier

namespace QuestAcademy

inductive Difficulty
  | trivial
  | easy
  | moderate
  | hard
  | epic
  deriving DecidableEq, Inhabited

namespace Difficulty

def rank : Difficulty → Nat
  | trivial => 0
  | easy => 1
  | moderate => 2
  | hard => 3
  | epic => 4

def baseExperience : Difficulty → Nat
  | trivial => 25
  | easy => 50
  | moderate => 100
  | hard => 200
  | epic => 400

def name : Difficulty → String
  | trivial => "trivial"
  | easy => "easy"
  | moderate => "moderate"
  | hard => "hard"
  | epic => "epic"

def descending : List Difficulty :=
  [epic, hard, moderate, easy, trivial]

/-- A difficulty and all below it, the hardest first. -/
def atOrBelow (top : Difficulty) : List Difficulty :=
  descending.filter fun d => d.rank ≤ top.rank

def target : Tier → Difficulty
  | .apprentice => trivial
  | .journeyman => moderate
  | .expert => hard
  | .master => epic
  | .grandmaster => epic

def words : List (String × Difficulty) :=
  descending.map fun d => (d.name, d)

def read : Reading Difficulty := Reading.choice words

def toDocument (d : Difficulty) : Document := .text d.name

end Difficulty

end QuestAcademy
