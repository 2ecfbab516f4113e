import QuestAcademy.Decimal.Layout
import QuestAcademy.Document.Reading
import QuestAcademy.Template

namespace QuestAcademy

structure Criterion where
  name : String
  weight : Float
  threshold : Float

namespace Criterion

def read : Reading Criterion := fun form d => do
  let fields ← Reading.fields ["name", "weight", "threshold"] form d
  return {
    name := ← fields.required "name" Reading.text
    weight := ← fields.required "weight" Reading.float
    threshold := ← fields.required "threshold" Reading.float }

def toDocument (criterion : Criterion) : Document :=
  .fields [("name", .text criterion.name), ("weight", .float criterion.weight),
    ("threshold", .float criterion.threshold)]

def hasValidWeight (criterion : Criterion) : Bool :=
  criterion.weight.isFinite && 0 < criterion.weight

def hasValidThreshold (criterion : Criterion) : Bool :=
  0 ≤ criterion.threshold && criterion.threshold ≤ 1

end Criterion

inductive JudgeError
  | emptyRubric
  | invalidWeight (criterion : String) (weight : Float)
  | invalidThreshold (criterion : String) (threshold : Float)
  | noTotalWeight
  | scorerFailed (criterion reason : String)

def JudgeError.message : JudgeError → String
  | emptyRubric => "Rubric has no criteria"
  | invalidWeight criterion weight =>
    "Criterion " ++ criterion ++ " has invalid weight " ++ Decimal.plain weight
  | invalidThreshold criterion threshold =>
    "Criterion " ++ criterion ++ " has threshold " ++ Decimal.plain threshold ++ " outside [0, 1]"
  | noTotalWeight => "Rubric total weight must be nonzero"
  | scorerFailed criterion reason => "Scorer failed on " ++ criterion ++ ": " ++ reason

structure Rubric where
  criteria : List Criterion
  totalWeight : Float

namespace Rubric

/-- The first fault of the first faulty criterion; its weight is looked at before its threshold. -/
def checkAll : List Criterion → Except JudgeError Unit
  | [] => .ok ()
  | criterion :: rest =>
    if !criterion.hasValidWeight then .error (.invalidWeight criterion.name criterion.weight)
    else if !criterion.hasValidThreshold then
      .error (.invalidThreshold criterion.name criterion.threshold)
    else checkAll rest

def create (criteria : List Criterion) : Except JudgeError Rubric :=
  if criteria.isEmpty then .error .emptyRubric
  else
    match checkAll criteria with
    | .error e => .error e
    | .ok () =>
      let totalWeight := criteria.foldl (fun total criterion => total + criterion.weight) 0
      if totalWeight ≤ 0 || !totalWeight.isFinite then .error .noTotalWeight
      else .ok { criteria, totalWeight }

def toDocument (rubric : Rubric) : Document :=
  .fields [("criteria", .list (rubric.criteria.map Criterion.toDocument)),
    ("total_weight", .float rubric.totalWeight)]

end Rubric

inductive Strictness
  | lenient
  | standard
  | strict
  deriving DecidableEq, Inhabited

namespace Strictness

def name : Strictness → String
  | lenient => "lenient"
  | standard => "standard"
  | strict => "strict"

def words : List (String × Strictness) :=
  [lenient, standard, strict].map fun strictness => (strictness.name, strictness)

def read : Reading Strictness := Reading.choice words

def toDocument (strictness : Strictness) : Document := .text strictness.name

def threshold : Strictness → Float
  | lenient => 0.5
  | standard => 0.7
  | strict => 0.85

/-- The criteria of a template with equal weights; there is no rubric for a template without
criteria. -/
def rubricFor (strictness : Strictness) (template : Template) : Option Rubric :=
  if template.criteria.isEmpty then none
  else
    (Rubric.create (template.criteria.map fun name =>
      { name, weight := 1, threshold := strictness.threshold })).toOption

end Strictness

end QuestAcademy
