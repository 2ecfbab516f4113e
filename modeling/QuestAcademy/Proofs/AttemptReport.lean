import Mathlib.Algebra.GroupWithZero.Nat
import QuestAcademy.Proofs.TrainingCourse

namespace QuestAcademy

variable {ω : Type}

/-- Why an attempt came to nothing, if it did. -/
def Training.failure? : Except AttemptError Receipt → Option AttemptError
  | .ok _ => none
  | .error e => some e

/-- What is noted of an attempt that came to nothing. A halt is not noted here, it ends the run. -/
def Training.entry? (trainee : Trainee) (template : Template) : Option AttemptError → Option String
  | none => none
  | some (.halted _) => none
  | some e => some (trainee.agent.name ++ " on " ++ template.id ++ ": " ++ e.message)

def Training.unservedText (level : Nat) : String :=
  "no quest template available for level " ++ Decimal.text level

namespace Attempt

def failure? (attempt : Attempt ω) : Option AttemptError := Training.failure? attempt.outcome

def upshot (attempt : Attempt ω) : Trainee × Option AttemptError :=
  (attempt.trainee, attempt.failure?)

def completed (attempt : Attempt ω) : Bool := attempt.failure?.isNone

def error? (template : Template) (attempt : Attempt ω) : Option String :=
  Training.entry? attempt.trainee template attempt.failure?

def Halted (attempt : Attempt ω) : Prop :=
  ∃ halt, attempt.failure? = some (.halted halt)

theorem length_eq (template : Template) {attempts : List (Attempt ω)}
    (h : ∀ attempt ∈ attempts, ¬ attempt.Halted) :
    attempts.length =
      attempts.countP completed + (attempts.filterMap (error? template)).length := by
  induction attempts with
  | nil => rfl
  | cons attempt rest ih =>
      have hrest := ih fun later hlater => h later (List.mem_cons_of_mem attempt hlater)
      have hfirst := h attempt List.mem_cons_self
      obtain ⟨trainee, place, before, outcome, after⟩ := attempt
      rw [List.length_cons, hrest, List.countP_cons, List.filterMap_cons]
      cases outcome with
      | ok receipt =>
          simp only [completed, error?, failure?, Training.failure?, Training.entry?,
            Option.isNone_none, if_true]
          omega
      | error e =>
          cases e with
          | halted halt => exact absurd ⟨halt, rfl⟩ hfirst
          | board e | execution text | judge e =>
              simp only [completed, error?, failure?, Training.failure?, Training.entry?,
                Option.isNone_some, Bool.false_eq_true, if_false, List.length_cons]
              omega

end Attempt

namespace Report

def noteUpshots (report : Report) (template : Template)
    (upshots : List (Trainee × Option AttemptError)) : Report :=
  { report with
    questsRun := report.questsRun + upshots.length
    questsCompleted := report.questsCompleted + upshots.countP fun upshot => upshot.2.isNone
    errors := report.errors ++
      upshots.filterMap fun upshot => Training.entry? upshot.1 template upshot.2 }

theorem noteUpshots_nil (report : Report) (template : Template) :
    report.noteUpshots template [] = report := by
  simp [noteUpshots]

theorem noteUpshots_append (report : Report) (template : Template)
    (upshots later : List (Trainee × Option AttemptError)) :
    report.noteUpshots template (upshots ++ later) =
      (report.noteUpshots template upshots).noteUpshots template later := by
  simp only [noteUpshots, List.length_append, List.countP_append, List.filterMap_append,
    Nat.add_assoc, List.append_assoc]

def noteAttempts (report : Report) (template : Template) (attempts : List (Attempt ω)) : Report :=
  report.noteUpshots template (attempts.map Attempt.upshot)

theorem noteAttempts_append (report : Report) (template : Template)
    (attempts later : List (Attempt ω)) :
    report.noteAttempts template (attempts ++ later) =
      (report.noteAttempts template attempts).noteAttempts template later := by
  rw [noteAttempts, List.map_append, noteUpshots_append]
  rfl

theorem noteAttempts_eq (report : Report) (template : Template) (attempts : List (Attempt ω)) :
    report.noteAttempts template attempts =
      { report with
        questsRun := report.questsRun + attempts.length
        questsCompleted := report.questsCompleted + attempts.countP Attempt.completed
        errors := report.errors ++ attempts.filterMap (Attempt.error? template) } := by
  simp only [noteAttempts, noteUpshots, List.length_map, List.countP_map, List.filterMap_map]
  rfl

def noteRounds (report : Report) : List (TrainingRound ω) → Report
  | [] => report
  | round :: rest => (report.noteAttempts round.template round.attempts).noteRounds rest

end Report

namespace TrainingRound

def errors (round : TrainingRound ω) : List String :=
  round.attempts.filterMap (Attempt.error? round.template)

def completed (round : TrainingRound ω) : Nat :=
  round.attempts.countP Attempt.completed

theorem sum_completed_le (log : List (TrainingRound ω)) :
    (log.map completed).sum ≤ (log.map fun round => round.attempts.length).sum := by
  induction log with
  | nil => exact Nat.le_refl _
  | cons round rest ih =>
      have hfirst : round.completed ≤ round.attempts.length := List.countP_le_length
      simp only [List.map_cons, List.sum_cons]
      omega

theorem sum_attempts_eq {log : List (TrainingRound ω)}
    (h : ∀ round ∈ log, ∀ attempt ∈ round.attempts, ¬ attempt.Halted) :
    (log.map fun round => round.attempts.length).sum =
      (log.map completed).sum + (log.flatMap errors).length := by
  induction log with
  | nil => rfl
  | cons round rest ih =>
      have hrest := ih fun later hlater => h later (List.mem_cons_of_mem round hlater)
      have hfirst := Attempt.length_eq round.template (h round List.mem_cons_self)
      simp only [List.map_cons, List.sum_cons, List.flatMap_cons, List.length_append, hrest,
        completed, errors] at hfirst ⊢
      omega

end TrainingRound

theorem Report.noteRounds_eq (report : Report) (log : List (TrainingRound ω)) :
    report.noteRounds log =
      { report with
        questsRun := report.questsRun + (log.map fun round => round.attempts.length).sum
        questsCompleted := report.questsCompleted + (log.map TrainingRound.completed).sum
        errors := report.errors ++ log.flatMap TrainingRound.errors } := by
  induction log generalizing report with
  | nil => simp [noteRounds]
  | cons round rest ih =>
      rw [noteRounds, ih]
      simp only [noteAttempts_eq, List.map_cons, List.sum_cons, List.flatMap_cons, Nat.add_assoc,
        List.append_assoc, TrainingRound.completed, TrainingRound.errors]

namespace Training

variable {env : Environment ω} {plan : ArenaPlan} {template : Template} {budget : Nat}
  {session last : Session ω} {result : Except Halt Unit} {attempts : List (Attempt ω)}

/-- The report notes an attempt, and a run goes on unless the attempt was halted. -/
theorem report_settle {trainee : Trainee} {place : Nat} {outcome : Except AttemptError Receipt}
    (h : settle env template budget trainee place outcome session = (result, last)) :
    last.report = session.report.noteUpshots template [(trainee, failure? outcome)] ∧
      (result = .ok () → ∀ halt, failure? outcome ≠ some (.halted halt)) := by
  cases outcome with
  | ok receipt =>
      cases h
      refine ⟨?_, fun _ => by simp [failure?]⟩
      simp [Report.noteUpshots, entry?, failure?]
  | error e =>
      cases e with
      | halted halt =>
          cases h
          refine ⟨?_, nofun⟩
          simp [Report.noteUpshots, entry?, failure?]
      | board e | execution text | judge e =>
          cases h
          refine ⟨?_, fun _ => by simp [failure?]⟩
          simp [Report.noteUpshots, Report.noteError, entry?, failure?]

theorem InTurn.report {due : List (Trainee × Nat)}
    (h : InTurn env plan template budget due session attempts result last) :
    last.report = session.report.noteAttempts template attempts ∧
      (result = .ok () → ∀ attempt ∈ attempts, ¬ attempt.Halted) := by
  induction h with
  | done session => exact ⟨(session.report.noteUpshots_nil template).symm, by simp⟩
  | halted hattempt hsettle => exact ⟨(report_settle hsettle).1, nofun⟩
  | @next trainee place _ session _ _ outcome after attempts _ hattempt hsettle hrest ih =>
      obtain ⟨hfirst, hgoes⟩ := report_settle hsettle
      constructor
      · rw [ih.1, hfirst]
        exact (session.report.noteAttempts_append template
          [⟨trainee, place, session.world, outcome, after⟩] attempts).symm
      · intro hok attempt hmem
        rcases List.mem_cons.mp hmem with rfl | hlater
        · rintro ⟨halt, hhalt⟩
          exact hgoes rfl halt hhalt
        · exact ih.2 hok attempt hlater

theorem Made.eachInTurn {due : List (Trainee × Nat)}
    (h : Made env plan template budget due session attempts result last)
    (hturn : plan.concurrency ≤ 1) :
    InTurn env plan template budget due session attempts result last := by
  cases h with
  | inTurn _ hmade => exact hmade
  | atOnce hmany => exact absurd hturn hmany

/-- In a training that settles each attempt before the next, the report notes all rounds, and
perhaps that there was no quest to try. -/
theorem Course.report (hturn : plan.concurrency ≤ 1) {selector : Selector}
    {log : List (TrainingRound ω)}
    (h : Course env plan budget selector session log result last) :
    (∃ unserved, (unserved = [] ∨ ∃ level, unserved = [unservedText level]) ∧
      last.report = { session.report.noteRounds log with
        errors := (session.report.noteRounds log).errors ++ unserved }) ∧
      (result = .ok () → ∀ round ∈ log, ∀ attempt ∈ round.attempts, ¬ attempt.Halted) := by
  induction h with
  | spent | halted | converged =>
      exact ⟨⟨[], .inl rfl, by simp [Report.noteRounds]⟩, by simp⟩
  | unserved => exact ⟨⟨_, .inr ⟨_, rfl⟩, rfl⟩, by simp⟩
  | cut _ _ _ _ hmade =>
      refine ⟨⟨[], .inl rfl, ?_⟩, nofun⟩
      rw [(hmade.eachInTurn hturn).report.1, List.append_nil]
      rfl
  | next _ _ _ _ hmade hrest ih =>
      obtain ⟨hreport, hgoes⟩ := (hmade.eachInTurn hturn).report
      rw [hreport] at ih
      refine ⟨ih.1, ?_⟩
      intro hok round hmem
      rcases List.mem_cons.mp hmem with rfl | hlater
      · exact hgoes rfl
      · exact ih.2 hok round hlater

end Training

end QuestAcademy
