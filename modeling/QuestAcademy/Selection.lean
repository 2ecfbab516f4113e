import QuestAcademy.Random
import QuestAcademy.Template.Curriculum

namespace QuestAcademy

inductive SelectionMode
  | first
  | seeded (seed : Nat)
  deriving DecidableEq, Inhabited

namespace SelectionMode

def readNothing : Reading Unit := fun form d => do
  match ← Reading.optional (fun _ _ => some ()) form d with
  | none => some ()
  | some () => none

def words : List (String × Bool) :=
  [("first", false), ("seeded_random", true)]

/-- The mode by its name. Only the seeded mode has a seed; in a list the place of the seed must be
there, and be null for the other. -/
def read : Reading SelectionMode := fun form d => do
  let fields ← Reading.fields ["mode", "seed"] form d
  if ← fields.required "mode" (Reading.choice words) then
    return seeded (← fields.required "seed" Reading.long)
  else
    match d.untagged with
    | .list _ => fields.required "seed" readNothing
    | _ => fields.withDefault "seed" () readNothing
    return first

def toDocument : SelectionMode → Document
  | first => .fields [("mode", .text "first")]
  | seeded seed => .fields [("mode", .text "seeded_random"), ("seed", .nat seed)]

end SelectionMode

structure Selector where
  curriculum : Curriculum
  mode : SelectionMode
  random : Random

namespace Selector

def create (curriculum : Curriculum) (mode : SelectionMode) : Selector :=
  { curriculum, mode
    random := Random.ofSeed (match mode with | .first => 0 | .seeded seed => seed) }

/-- The place of the choice in a bucket of that many templates. -/
def place (selector : Selector) (count : Nat) : Nat × Selector :=
  match selector.mode with
  | .first => (0, selector)
  | .seeded _ =>
    let (place, random) := selector.random.draw count
    (place, { selector with random })

/-- The first bucket that holds templates. -/
def bucket? (curriculum : Curriculum) : List Difficulty → Option (List Template)
  | [] => none
  | d :: rest =>
    match curriculum.ofDifficulty d with
    | [] => bucket? curriculum rest
    | templates => some templates

/-- A template for agents of a level. When every template is too hard it is the first of all. -/
def choose (selector : Selector) (level : Nat) : Option Template × Selector :=
  match bucket? selector.curriculum (Difficulty.target (Tier.ofLevel level)).atOrBelow with
  | some templates =>
    let (place, selector) := selector.place templates.length
    (templates[place]?, selector)
  | none => (selector.curriculum.all.head?, selector)

end Selector

end QuestAcademy
