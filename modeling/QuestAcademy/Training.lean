import QuestAcademy.Environment
import QuestAcademy.Report
import QuestAcademy.Selection

/-!
Training rounds. In each round every trainee below its target tries one quest, the same for all. An
attempt that fails costs a quest like any other; only the end of the permit stops the training.
-/

namespace QuestAcademy

/-- A trainee as it was last seen. -/
structure Trainee where
  agent : Agent
  key : String
  target : Nat
  mentor : Option String

namespace Trainee

def atTarget (trainee : Trainee) : Bool :=
  trainee.target ≤ trainee.agent.level

def averageLevel (trainees : List Trainee) : Nat :=
  if trainees.isEmpty then Level.lowest
  else trainees.foldl (fun total trainee => total + trainee.agent.level) 0 / trainees.length

end Trainee

/-- What a run knows, and the world around it. -/
structure Session (ω : Type) where
  trainees : List Trainee
  report : Report
  world : ω

namespace Training

variable {ω : Type}

def baseExperience (difficulty : Difficulty) (multiplier : Float) : Nat :=
  (difficulty.baseExperience.toUInt64.toFloat * multiplier).toUInt64.toNat

def draft (plan : ArenaPlan) (trainee : Trainee) (template : Template) : Draft :=
  { templateId := template.id
    title := template.title
    description := template.description
    difficulty := template.difficulty
    requiredSkills := template.skills
    input := template.input
    baseExperience := baseExperience template.difficulty plan.multiplier
    mentor := trainee.mentor }

def complete (env : Environment ω) (plan : ArenaPlan) (trainee : Trainee) (template : Template)
    (quest : Quest) (world : ω) : Except AttemptError Receipt × ω :=
  match env.board.start quest.id world with
  | (.error e, world) => (.error (.board e), world)
  | (.ok (), world) =>
    match env.execute trainee.agent quest world with
    | (.error e, world) => (.error e, world)
    | (.ok output, world) =>
      match env.judge plan.strictness template output world with
      | (.error e, world) => (.error (.judge e), world)
      | (.ok judgement, world) =>
        let verdict := judgement.toVerdict (baseExperience template.difficulty plan.multiplier)
        match env.board.submit quest.id output verdict world with
        | (.error e, world) => (.error (.board e), world)
        | (.ok receipt, world) => (.ok receipt, world)

/-- One attempt of one trainee. A quest that was claimed and could not be completed is given up. -/
def attempt (env : Environment ω) (plan : ArenaPlan) (template : Template) (trainee : Trainee)
    (world : ω) : Except AttemptError Receipt × ω :=
  match env.check world with
  | (.error halt, world) => (.error (.halted halt), world)
  | (.ok (), world) =>
    match env.board.post (draft plan trainee template) world with
    | (.error e, world) => (.error (.board e), world)
    | (.ok quest, world) =>
      match env.board.claim quest.id trainee.agent.id world with
      | (.error e, world) => (.error (.board e), world)
      | (.ok (), world) =>
        match complete env plan trainee template quest world with
        | (.ok receipt, world) => (.ok receipt, world)
        | (.error e, world) => (.error e, (env.board.abandon quest.id world).2)

/-- Reads a trainee again; when that fails it stays as it was last seen. -/
def refresh (store : StoreAccess ω) (trainee : Trainee) (world : ω) : Trainee × ω :=
  match store.getAgent trainee.key world with
  | (.ok agent, world) => ({ trainee with agent }, world)
  | (.error _, world) => (trainee, world)

def roundEvent (trainee : Trainee) (template : Template) (current budget : Nat) : ProgressEvent :=
  .create .training current budget ("Round quest " ++ template.title) (some trainee.agent.name)
    (some template.title)

/-- The report after an attempt, or why the run has to stop. -/
def noteAttempt (report : Report) (trainee : Trainee) (template : Template) :
    Except AttemptError Receipt → Except Halt Unit × Report
  | .ok _ =>
    (.ok (), { report with
      questsRun := report.questsRun + 1, questsCompleted := report.questsCompleted + 1 })
  | .error (.halted halt) => (.error halt, { report with questsRun := report.questsRun + 1 })
  | .error e =>
    let text := trainee.agent.name ++ " on " ++ template.id ++ ": " ++ e.message
    (.ok (), { report.noteError text with questsRun := report.questsRun + 1 })

/-- Counts an attempt of the trainee at a place, reports it, and reads the trainee again. -/
def settle (env : Environment ω) (template : Template) (budget : Nat) (trainee : Trainee)
    (place : Nat) (outcome : Except AttemptError Receipt) (session : Session ω) :
    Except Halt Unit × Session ω :=
  match noteAttempt session.report trainee template outcome with
  | (.error halt, report) => (.error halt, { session with report })
  | (.ok (), report) =>
    let world := env.report (roundEvent trainee template report.questsRun budget) session.world
    let (trainee, world) := refresh env.store trainee world
    (.ok (), { trainees := session.trainees.set place trainee, report, world })

def pending (trainees : List Trainee) : List (Trainee × Nat) :=
  trainees.zipIdx.filter fun (trainee, _) => !trainee.atTarget

/-- A round in which each attempt is settled before the next begins. -/
def roundInTurn (env : Environment ω) (plan : ArenaPlan) (template : Template) (budget : Nat) :
    List (Trainee × Nat) → Session ω → Except Halt Unit × Session ω
  | [], session => (.ok (), session)
  | (trainee, place) :: rest, session =>
    let (outcome, world) := attempt env plan template trainee session.world
    match settle env template budget trainee place outcome { session with world } with
    | (.error halt, session) => (.error halt, session)
    | (.ok (), session) => roundInTurn env plan template budget rest session

/-- The attempts of some trainees, with their outcomes. Each attempt is taken as one step, and they
are made in the order of the trainees; attempts that are at work at the same time may also mix and
end in another order. -/
def attemptAll (env : Environment ω) (plan : ArenaPlan) (template : Template) :
    List (Trainee × Nat) → ω → List ((Trainee × Nat) × Except AttemptError Receipt) × ω
  | [], world => ([], world)
  | (trainee, place) :: rest, world =>
    let (outcome, world) := attempt env plan template trainee world
    let (more, world) := attemptAll env plan template rest world
    (((trainee, place), outcome) :: more, world)

def settleAll (env : Environment ω) (template : Template) (budget : Nat) :
    List ((Trainee × Nat) × Except AttemptError Receipt) → Session ω →
      Except Halt Unit × Session ω
  | [], session => (.ok (), session)
  | ((trainee, place), outcome) :: rest, session =>
    match settle env template budget trainee place outcome session with
    | (.error halt, session) => (.error halt, session)
    | (.ok (), session) => settleAll env template budget rest session

/-- A round of some trainees. With several at work at once, all attempts are made before any is
settled; they are made, and then settled, in the order of the trainees, which is one of the orders
that they may come in. -/
def round (env : Environment ω) (plan : ArenaPlan) (template : Template) (budget : Nat)
    (trainees : List (Trainee × Nat)) (session : Session ω) : Except Halt Unit × Session ω :=
  if plan.concurrency ≤ 1 then roundInTurn env plan template budget trainees session
  else
    let (outcomes, world) := attemptAll env plan template trainees session.world
    settleAll env template budget outcomes { session with world }

/-- Rounds until every trainee is at its target, there is nothing to try, or the budget is spent.
Every round spends at least one quest, so there are no more rounds than the budget. -/
def rounds (env : Environment ω) (plan : ArenaPlan) (budget : Nat) :
    Nat → Selector → Session ω → Except Halt Unit × Session ω
  | 0, _, session => (.ok (), session)
  | fuel + 1, selector, session =>
    if budget ≤ session.report.questsRun then (.ok (), session)
    else
      match env.check session.world with
      | (.error halt, world) => (.error halt, { session with world })
      | (.ok (), world) =>
        let session := { session with world }
        if session.trainees.all Trainee.atTarget then (.ok (), session)
        else
          let level := Trainee.averageLevel session.trainees
          match selector.choose level with
          | (none, _) =>
            (.ok (), { session with
              report := session.report.noteError
                ("no quest template available for level " ++ Decimal.text level) })
          | (some template, selector) =>
            match round env plan template budget (pending session.trainees) session with
            | (.error halt, session) => (.error halt, session)
            | (.ok (), session) => rounds env plan budget fuel selector session

/-- How many quests may be tried for so many trainees together; the count stops at its limit. -/
def budget (plan : ArenaPlan) (trainees : Nat) : Nat :=
  min ordinalLimit (plan.questsPerTrainee * trainees)

def train (env : Environment ω) (plan : ArenaPlan) (curriculum : Curriculum) (session : Session ω) :
    Except Halt Unit × Session ω :=
  let budget := budget plan session.trainees.length
  rounds env plan budget budget (Selector.create curriculum plan.selection) session

end Training

end QuestAcademy
