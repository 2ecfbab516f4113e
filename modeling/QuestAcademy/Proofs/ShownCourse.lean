import QuestAcademy.Proofs.ArenaCourse
import QuestAcademy.Proofs.Shadowing

namespace QuestAcademy

variable {σ ω : Type}

def Attempt.shown (shown : σ → ω) (attempt : Attempt σ) : Attempt ω :=
  { trainee := attempt.trainee, place := attempt.place, before := shown attempt.before
    outcome := attempt.outcome, after := shown attempt.after }

def TrainingRound.shown (shown : σ → ω) (round : TrainingRound σ) : TrainingRound ω :=
  { template := round.template
    opening := round.opening.shown shown
    attempts := round.attempts.map (Attempt.shown shown) }

namespace Environment

variable {shown : σ → ω} {env : Environment σ} {other : Environment ω} {plan : ArenaPlan}

section Trainings

variable {template : Template} {budget : Nat} {due : List (Trainee × Nat)}
  {session last : Session σ} {attempts : List (Attempt σ)} {result : Except Halt Unit}

theorem Shows.attempt_eq (h : env.Shows shown other) {trainee : Trainee} {world after : σ}
    {outcome : Except AttemptError Receipt}
    (hattempt : Training.attempt env plan template trainee world = (outcome, after)) :
    Training.attempt other plan template trainee (shown world) = (outcome, shown after) := by
  rw [h.attempt plan template trainee world, hattempt]

theorem Shows.settle_eq (h : env.Shows shown other) {trainee : Trainee} {place : Nat} {world : σ}
    {outcome : Except AttemptError Receipt}
    (hsettle : Training.settle env template budget trainee place outcome
      { session with world } = (result, last)) :
    Training.settle other template budget trainee place outcome
      { session.shown shown with world := shown world } = (result, last.shown shown) := by
  have hsettled := h.settle template budget trainee place outcome { session with world }
  rw [hsettle] at hsettled
  exact hsettled

theorem Shows.check_eq (h : env.Shows shown other) {world after : σ} {answer : Except Halt Unit}
    (hcheck : env.check world = (answer, after)) :
    other.check (shown world) = (answer, shown after) := by
  rw [h.check world, hcheck]

theorem Shows.inTurn (h : env.Shows shown other)
    (hmade : Training.InTurn env plan template budget due session attempts result last) :
    Training.InTurn other plan template budget due (session.shown shown)
      (attempts.map (Attempt.shown shown)) result (last.shown shown) := by
  induction hmade with
  | done session => exact .done _
  | halted hattempt hsettle => exact .halted (h.attempt_eq hattempt) (h.settle_eq hsettle)
  | next hattempt hsettle hrest ih => exact .next (h.attempt_eq hattempt) (h.settle_eq hsettle) ih

theorem Shows.atOnce (h : env.Shows shown other) {world after : σ}
    (hmade : Training.AtOnce env plan template due world attempts after) :
    Training.AtOnce other plan template due (shown world) (attempts.map (Attempt.shown shown))
      (shown after) := by
  induction hmade with
  | done world => exact .done _
  | next hattempt hrest ih => exact .next (h.attempt_eq hattempt) ih

theorem Shows.made (h : env.Shows shown other)
    (hmade : Training.Made env plan template budget due session attempts result last) :
    Training.Made other plan template budget due (session.shown shown)
      (attempts.map (Attempt.shown shown)) result (last.shown shown) := by
  cases hmade with
  | inTurn hturn hmade => exact .inTurn hturn (h.inTurn hmade)
  | @atOnce world hmany hmade hsettle =>
      refine .atOnce hmany (h.atOnce hmade) ?_
      have hsettled := h.settleAll template budget (attempts.map Attempt.result)
        { session with world }
      rw [hsettle] at hsettled
      rw [List.map_map]
      exact hsettled

theorem Shows.course (h : env.Shows shown other) {selector : Selector} {log : List (TrainingRound σ)}
    (hcourse : Training.Course env plan budget selector session log result last) :
    Training.Course other plan budget selector (session.shown shown)
      (log.map (TrainingRound.shown shown)) result (last.shown shown) := by
  induction hcourse with
  | spent hspent => exact .spent hspent
  | halted hbudget hcheck => exact .halted hbudget (h.check_eq hcheck)
  | converged hbudget hcheck htargets => exact .converged hbudget (h.check_eq hcheck) htargets
  | unserved hbudget hcheck htargets hchoose =>
      exact .unserved hbudget (h.check_eq hcheck) htargets hchoose
  | cut hbudget hcheck htargets hchoose hround =>
      exact .cut hbudget (h.check_eq hcheck) htargets hchoose (h.made hround)
  | next hbudget hcheck htargets hchoose hround hrest ih =>
      exact .next hbudget (h.check_eq hcheck) htargets hchoose (h.made hround) ih

end Trainings

section Arenas

variable (plan) (dryRun idempotent : Bool)

theorem Shows.ready (h : env.Shows shown other) (session : Session σ) :
    Arena.ready other plan dryRun idempotent (session.shown shown) =
      Prod.map id (Session.shown shown) (Arena.ready env plan dryRun idempotent session) := by
  simp only [Arena.ready, Session.shown, h.folder]
  rw [h.check session.world]
  obtain ⟨_ | _, checked⟩ := env.check session.world
  · rfl
  · simp only
    split
    · rfl
    · have hprepared := h.prepare plan dryRun idempotent 0
        (plan.profiles.zip (plan.targets.tierGoals plan.profiles.length))
        { session with world := checked }
      simp only [Session.shown] at hprepared
      rw [hprepared]
      obtain ⟨_ | _, prepared⟩ := Arena.prepare env plan dryRun idempotent 0
        (plan.profiles.zip (plan.targets.tierGoals plan.profiles.length))
        { session with world := checked }
      · rfl
      · have hmentored := h.mentored plan dryRun prepared
        simp only [Session.shown] at hmentored ⊢
        rw [hmentored]
        obtain ⟨_ | _, _⟩ :=
          if plan.mentored then Arena.ensureMentors env plan dryRun prepared else (.ok (), prepared)
          <;> rfl

variable {plan dryRun idempotent} {world : σ} {log : List (TrainingRound σ)} {last : Session σ}

theorem Shows.ready_eq (h : env.Shows shown other) {answer : Except SeedError Curriculum}
    (hready : Arena.ready env plan dryRun idempotent (.start dryRun world) = (answer, last)) :
    Arena.ready other plan dryRun idempotent (.start dryRun (shown world)) =
      (answer, last.shown shown) := by
  have heq := h.ready plan dryRun idempotent (.start dryRun world)
  rw [hready] at heq
  exact heq

theorem Shows.arenaCourse (h : env.Shows shown other) {result : Except SeedError Unit}
    (hcourse : Arena.Course env plan dryRun idempotent world log result last) :
    Arena.Course other plan dryRun idempotent (shown world) (log.map (TrainingRound.shown shown))
      result (last.shown shown) := by
  cases hcourse with
  | unready hready => exact .unready (h.ready_eq hready)
  | dry hdry hready => exact .dry hdry (h.ready_eq hready)
  | trained hdry hready hcourse => exact .trained hdry (h.ready_eq hready) (h.course hcourse)

/-- What a run does over the richer worlds, it does over those that are shown. -/
theorem Shows.arenaRun (h : env.Shows shown other) {result : Except Failure Report} {after : σ}
    (hrun : Arena.Run env plan dryRun idempotent world log result after) :
    Arena.Run other plan dryRun idempotent (shown world) (log.map (TrainingRound.shown shown))
      result (shown after) := by
  cases hrun with
  | refused hvalid => exact .refused hvalid
  | failed hvalid hcourse => exact .failed hvalid (h.arenaCourse hcourse)
  | @completed _ last trainees _ hvalid hcourse hread =>
      refine .completed hvalid (h.arenaCourse hcourse) ?_
      cases dryRun with
      | true =>
          cases hread
          rfl
      | false =>
          have hrefreshed := h.refreshAll last.trainees last.world
          simp only [Bool.false_eq_true, if_false] at hread ⊢
          rw [hread] at hrefreshed
          exact hrefreshed

end Arenas

end Environment

end QuestAcademy
