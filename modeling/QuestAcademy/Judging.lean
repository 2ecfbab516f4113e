import QuestAcademy.Quest
import QuestAcademy.Rubric

namespace QuestAcademy

abbrev Scorer := Template → Payload → Criterion → Except JudgeError Float

/-- Scores an output on one criterion in a world that its answers depend on and that each question
may change, as a live model does. -/
abbrev LiveScorer (ω : Type) := Template → Payload → Criterion → ω → Except JudgeError Float × ω

namespace Scorer

def fixed (score : Float) : Scorer := fun _ _ _ => .ok score

def baseline : Float := 0.8

def default : Scorer := fixed baseline

def scripted (scores : List (String × Float)) (fallback : Option Float) : Scorer :=
  fun _ _ criterion =>
    match Keyed.find? criterion.name scores <|> fallback with
    | some score => .ok score
    | none => .error (.scorerFailed criterion.name "no scripted score")

def live (scorer : Scorer) : LiveScorer Unit :=
  fun template output criterion world => (scorer template output criterion, world)

end Scorer

/-- The outcome of judging one output. -/
structure Judgement where
  passed : Bool
  quality : Float
  scores : List (String × Float)
  marks : List (String × Bool)
  feedback : String

namespace Judgement

def read : Reading Judgement := fun form d => do
  let fields ← Reading.fields ["passed", "quality_score", "per_criterion_score",
    "per_criterion_passed", "feedback"] form d
  return {
    passed := ← fields.required "passed" Reading.bool
    quality := ← fields.required "quality_score" Reading.float
    scores := ← fields.required "per_criterion_score" (Reading.keyed Reading.float)
    marks := ← fields.required "per_criterion_passed" (Reading.keyed Reading.bool)
    feedback := ← fields.required "feedback" Reading.text }

def toDocument (judgement : Judgement) : Document :=
  .fields [("passed", .bool judgement.passed), ("quality_score", .float judgement.quality),
    ("per_criterion_score", .fields (Keyed.mapValues .float judgement.scores)),
    ("per_criterion_passed", .fields (Keyed.mapValues .bool judgement.marks)),
    ("feedback", .text judgement.feedback)]

def clampUnit (x : Float) : Float :=
  if x < 0 then 0 else if 1 < x then 1 else x

/-- Every output passes when there is nothing to judge it by. -/
def baseline (template : Template) : Judgement :=
  { passed := true
    quality := Scorer.baseline
    scores := Keyed.ofList (template.criteria.map fun name => (name, Scorer.baseline))
    marks := Keyed.ofList (template.criteria.map fun name => (name, true))
    feedback := template.title ++ ": accepted by baseline evaluation" }

structure Tally where
  total : Float
  scores : List (String × Float)
  marks : List (String × Bool)
  failures : List String

namespace Tally

def empty : Tally := ⟨0, [], [], []⟩

def add (tally : Tally) (criterion : Criterion) (score : Float) : Tally :=
  let passed := criterion.threshold ≤ score
  { total := tally.total + score * criterion.weight
    scores := Keyed.insert criterion.name score tally.scores
    marks := Keyed.insert criterion.name passed tally.marks
    failures :=
      if passed then tally.failures
      else tally.failures ++ [criterion.name ++ " " ++ Decimal.twoPlaces score ++ " < "
        ++ Decimal.twoPlaces criterion.threshold] }

/-- The outcome when every criterion of the rubric has been counted. An output passes when it passes
on every criterion, whatever the mean. -/
def judgement (counted : Tally) (template : Template) (rubric : Rubric) : Judgement :=
  let quality := counted.total / rubric.totalWeight
  let passed := counted.failures.isEmpty
  { passed
    quality
    scores := counted.scores
    marks := counted.marks
    feedback :=
      if passed then
        template.title ++ ": all criteria met (quality " ++ Decimal.twoPlaces quality ++ ")"
      else template.title ++ ": below threshold on " ++ ", ".intercalate counted.failures }

end Tally

/-- Scores one criterion after the other up to the first that cannot be scored. -/
def tally {ω : Type} (scorer : LiveScorer ω) (template : Template) (output : Payload) :
    List Criterion → Tally → ω → Except JudgeError Tally × ω
  | [], sofar, world => (.ok sofar, world)
  | criterion :: rest, sofar, world =>
    match scorer template output criterion world with
    | (.error e, world) => (.error e, world)
    | (.ok score, world) =>
      tally scorer template output rest (sofar.add criterion (clampUnit score)) world

def byLive {ω : Type} (scorer : LiveScorer ω) (template : Template) (output : Payload)
    (rubric : Rubric) (world : ω) : Except JudgeError Judgement × ω :=
  match tally scorer template output rubric.criteria .empty world with
  | (.error e, world) => (.error e, world)
  | (.ok counted, world) => (.ok (counted.judgement template rubric), world)

def byRubric (scorer : Scorer) (template : Template) (output : Payload) (rubric : Rubric) :
    Except JudgeError Judgement :=
  (byLive scorer.live template output rubric ()).1

def byTemplate (scorer : Scorer) (strictness : Strictness) (template : Template)
    (output : Payload) : Except JudgeError Judgement :=
  match strictness.rubricFor template with
  | some rubric => byRubric scorer template output rubric
  | none => .ok (baseline template)

/-- A product that is a whole number but for rounding shall not lose one when it is rounded down. -/
def roundingSlack : Float := 1e-9

/-- The award for an output that passed: as much of the base as its quality, rounded down. -/
def award (judgement : Judgement) (base : Nat) : Nat :=
  (base.toUInt64.toFloat * clampUnit judgement.quality + roundingSlack).toUInt64.toNat

/-- The verdict for a judged output: an award when it passed, a quarter of the base as a penalty
when it failed. Where there is a base at all, neither is nothing. -/
def toVerdict (judgement : Judgement) (base : Nat) : Verdict :=
  let least := if 0 < base then 1 else 0
  { passed := judgement.passed
    quality := judgement.quality
    award := if judgement.passed then max (judgement.award base) least else 0
    penalty := if judgement.passed then 0 else max (base / 4) least
    feedback := judgement.feedback }

end Judgement

end QuestAcademy
