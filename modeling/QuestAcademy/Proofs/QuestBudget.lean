import QuestAcademy.Proofs.ArenaCourse
import QuestAcademy.Proofs.StoreMirror

namespace QuestAcademy

variable {ω : Type}

namespace TrainingRound

def due (round : TrainingRound ω) : Nat :=
  round.opening.trainees.countP fun trainee => !trainee.atTarget

def attemptsIn : List (TrainingRound ω) → Nat
  | [] => 0
  | round :: rest => round.attempts.length + attemptsIn rest

theorem attemptsIn_concat (earlier : List (TrainingRound ω)) (round : TrainingRound ω) :
    attemptsIn (earlier ++ [round]) = attemptsIn earlier + round.attempts.length := by
  induction earlier with
  | nil => exact Nat.add_comm _ _
  | cons first rest ih =>
      rw [List.cons_append, attemptsIn, attemptsIn, ih]
      exact (Nat.add_assoc _ _ _).symm

theorem attemptsIn_of_length {log : List (TrainingRound ω)} {trainees : Nat}
    (h : ∀ round ∈ log, round.attempts.length = trainees) :
    attemptsIn log = log.length * trainees := by
  induction log with
  | nil => exact (Nat.zero_mul trainees).symm
  | cons round rest ih =>
      rw [attemptsIn, h round List.mem_cons_self, ih fun later hlater =>
        h later (List.mem_cons_of_mem round hlater), List.length_cons, Nat.succ_mul, Nat.add_comm]

end TrainingRound

namespace Training

open TrainingRound (attemptsIn)

section Spending

variable {env : Environment ω} {plan : ArenaPlan} {budget : Nat} {selector : Selector}
  {session last : Session ω} {log : List (TrainingRound ω)}

theorem Course.questsRun_eq (h : Course env plan budget selector session log (.ok ()) last) :
    last.report.questsRun = session.report.questsRun + attemptsIn log := by
  generalize hresult : (Except.ok () : Except Halt Unit) = result at h
  induction h with
  | spent | converged | unserved => rfl
  | halted | cut => cases hresult
  | next hbudget hcheck htargets hchoose hround hrest ih =>
      have hexact := hround.counted.exact rfl
      rw [ih hresult, hexact, attemptsIn]
      exact Nat.add_assoc _ _ _

/-- A round is begun below the budget, with all trainees, and tries every one that is due. -/
theorem Course.begun (h : Course env plan budget selector session log (.ok ()) last)
    {earlier later : List (TrainingRound ω)} {round : TrainingRound ω}
    (hlog : log = earlier ++ round :: later) :
    session.report.questsRun + attemptsIn earlier < budget ∧
      round.attempts.length = round.due ∧
      round.opening.trainees.length = session.trainees.length := by
  generalize hresult : (Except.ok () : Except Halt Unit) = result at h
  induction h generalizing earlier with
  | spent | converged | unserved => exact absurd hlog (by simp)
  | halted | cut => cases hresult
  | next hbudget hcheck htargets hchoose hround hrest ih =>
      have hcounted := hround.counted
      cases earlier with
      | nil =>
          cases hlog
          have hall := congrArg List.length (hcounted.all rfl)
          rw [List.length_map, length_pending] at hall
          exact ⟨hbudget, hall, rfl⟩
      | cons first rest =>
          cases hlog
          obtain ⟨hbelow, hdue, hplaces⟩ := ih rfl hresult
          rw [hcounted.exact rfl] at hbelow
          rw [attemptsIn, ← Nat.add_assoc]
          exact ⟨hbelow, hdue, hplaces.trans hcounted.places⟩

end Spending

end Training

namespace Arena

open TrainingRound (attemptsIn attemptsIn_concat attemptsIn_of_length)

/-- What the count of a completed run of `trainees` trainees has to do with the budget. -/
structure Spends (budget trainees : Nat) (log : List (TrainingRound ω)) (questsRun : Nat) :
    Prop where
  /-- Every attempt is counted. -/
  counted : questsRun = attemptsIn log
  /-- No round is begun when the budget is spent; a round that is begun tries all that are due. -/
  begun : ∀ earlier round later, log = earlier ++ round :: later →
    attemptsIn earlier < budget ∧ round.attempts.length = round.due ∧ round.due ≤ trainees
  /-- The excess is less than one round of all trainees. -/
  bounded : questsRun < budget + trainees
  /-- There is none if no round begins with a trainee that needs no training any more. -/
  even : trainees ∣ budget → (∀ round ∈ log, round.due = trainees) → questsRun ≤ budget

theorem Spends.of_begun {budget trainees : Nat} {log : List (TrainingRound ω)}
    (htrainees : 0 < trainees)
    (hbegun : ∀ earlier round later, log = earlier ++ round :: later →
      attemptsIn earlier < budget ∧ round.attempts.length = round.due ∧ round.due ≤ trainees) :
    Spends budget trainees log (attemptsIn log) := by
  refine ⟨rfl, hbegun, ?_, ?_⟩
  · rcases List.eq_nil_or_concat log with rfl | ⟨earlier, round, rfl⟩
    · exact Nat.lt_of_lt_of_le htrainees (Nat.le_add_left _ _)
    · rw [List.concat_eq_append] at hbegun ⊢
      obtain ⟨hbelow, hdue, hmost⟩ := hbegun earlier round [] rfl
      rw [attemptsIn_concat, hdue]
      exact Nat.add_lt_add_of_lt_of_le hbelow hmost
  · rintro ⟨rounds, rfl⟩ hall
    have hlength : ∀ round ∈ log, round.attempts.length = trainees := by
      intro round hround
      obtain ⟨earlier, later, hlog⟩ := List.append_of_mem hround
      rw [(hbegun earlier round later hlog).2.1, hall round hround]
    rcases List.eq_nil_or_concat log with rfl | ⟨earlier, round, rfl⟩
    · exact Nat.zero_le _
    · rw [List.concat_eq_append] at hbegun hlength ⊢
      have hbelow := (hbegun earlier round [] rfl).1
      have hearlier : attemptsIn earlier = earlier.length * trainees :=
        attemptsIn_of_length fun before hbefore => hlength before (List.mem_append_left _ hbefore)
      rw [hearlier, Nat.mul_comm trainees] at hbelow
      -- Whole rounds reach a multiple of their size exactly, so the last one fits in.
      have hfewer : earlier.length + 1 ≤ rounds := Nat.lt_of_mul_lt_mul_right hbelow
      rw [attemptsIn_concat, hearlier, hlength round (by simp), Nat.mul_comm trainees,
        ← Nat.succ_mul]
      exact Nat.mul_le_mul_right trainees hfewer

variable {env : Environment ω} {plan : ArenaPlan} {dryRun idempotent : Bool} {world after : ω}

theorem Course.spends {log : List (TrainingRound ω)} {last : Session ω}
    (hprofiles : 0 < plan.profiles.length)
    (h : Course env plan dryRun idempotent world log (.ok ()) last) :
    Spends (Training.budget plan plan.profiles.length) plan.profiles.length log
      last.report.questsRun := by
  generalize hresult : (Except.ok () : Except SeedError Unit) = result at h
  cases h with
  | unready => cases hresult
  | dry hdry hready =>
      have hcount := (ready_counts env plan dryRun idempotent hready).2
      rw [hcount]
      exact Spends.of_begun hprofiles fun _ _ _ hlog => absurd hlog (by simp)
  | @trained curriculum opening last log result hdry hready hcourse =>
      cases result with
      | error halt => cases hresult
      | ok done =>
          obtain ⟨hlength, hcount⟩ := ready_counts env plan dryRun idempotent hready
          rw [hlength] at hcourse
          have hspent := hcourse.questsRun_eq
          rw [hcount, Nat.zero_add] at hspent
          rw [hspent]
          apply Spends.of_begun hprofiles
          intro earlier round later hlog
          obtain ⟨hbelow, hdue, hplaces⟩ := hcourse.begun hlog
          rw [hcount, Nat.zero_add] at hbelow
          refine ⟨hbelow, hdue, ?_⟩
          rw [← hlength, ← hplaces]
          exact List.countP_le_length

theorem profiles_pos (h : plan.validate = .ok ()) : 0 < plan.profiles.length := by
  unfold ArenaPlan.validate at h
  split at h
  · cases h
  · rename_i hsome
    rw [List.isEmpty_iff] at hsome
    exact List.length_pos_iff.mpr hsome

/-- A completed run has tried as many quests as it reports, and has begun its rounds below the
budget. -/
theorem run_spends {report : Report}
    (h : run env plan dryRun idempotent world = (.ok report, after)) :
    ∃ log last, Course env plan dryRun idempotent world log (.ok ()) last ∧
      Spends (Training.budget plan plan.profiles.length) plan.profiles.length log
        report.questsRun := by
  obtain ⟨log, hrun⟩ := run_run env plan dryRun idempotent world
  rw [h] at hrun
  cases hrun with
  | completed hvalid hcourse => exact ⟨log, _, hcourse, hcourse.spends (profiles_pos hvalid)⟩

def scoutsWorld : Rehearsal :=
  { Rehearsal.onStore (Store.empty.save (Agent.create "guildhall.agent.scout-3" "scout-3" 9)) with
    board := Board.empty.disable .post }

theorem run_scouts : ∃ report after,
    run Rehearsal.quiet scouts false true scoutsWorld = (.ok report, after) ∧
      report.questsRun = 4 := by
  have hcount : (run Rehearsal.quiet scouts false true scoutsWorld).1.toOption.map
      Report.questsRun = some 4 := by
    decide +kernel
  cases hrun : run Rehearsal.quiet scouts false true scoutsWorld with
  | mk answer after =>
      rw [hrun] at hcount
      cases answer with
      | error failure => cases hcount
      | ok report => exact ⟨report, after, rfl, Option.some.inj hcount⟩

theorem run_spends_scouts : ∃ report after,
    run Rehearsal.quiet scouts false true scoutsWorld = (.ok report, after) ∧
      ∃ log last, Course Rehearsal.quiet scouts false true scoutsWorld log (.ok ()) last ∧
        Spends (Training.budget scouts scouts.profiles.length) scouts.profiles.length log
          report.questsRun := by
  obtain ⟨report, after, hrun, -⟩ := run_scouts
  exact ⟨report, after, hrun, run_spends hrun⟩

/-- Two rounds of two scouts go beyond a budget of three quests. -/
theorem scouts_exceed_budget : ∃ report after,
    run Rehearsal.quiet scouts false true scoutsWorld = (.ok report, after) ∧
      Training.budget scouts scouts.profiles.length < report.questsRun := by
  obtain ⟨report, after, hrun, hcount⟩ := run_scouts
  have hbudget : Training.budget scouts scouts.profiles.length = 3 := by decide
  refine ⟨report, after, hrun, ?_⟩
  rw [hbudget, hcount]
  decide

end Arena

end QuestAcademy
