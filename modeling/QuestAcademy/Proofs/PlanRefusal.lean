import QuestAcademy.Proofs.HaltedRun
import QuestAcademy.Proofs.MentorChoice
import QuestAcademy.Proofs.RosterAccounting

namespace QuestAcademy

variable {ω : Type}

def SeedError.isRefusal : SeedError → Bool
  | .plan _ | .templates _ => true
  | .creation _ _ | .halted _ => false

/-- What a report says of its run as a whole. -/
def Report.heading (report : Report) : SeedMode × Bool × Bool :=
  (report.mode, report.success, report.dryRun)

theorem Report.success_of_heading {report : Report} {mode : SeedMode} {dryRun : Bool}
    (h : report.heading = (start mode dryRun).heading) : report.success = true :=
  congrArg (fun heading => heading.2.1) h

namespace Roster

variable {env : Environment ω} {plan : RosterPlan} {dryRun idempotent : Bool} {world after : ω}

theorem heading_seed {report : Report}
    (h : seed env plan dryRun idempotent world = (.ok report, after)) :
    report.heading = (Report.start .tieredRoster dryRun).heading := by
  obtain ⟨log, result, last, -, hseed⟩ :=
    tried_seed env plan dryRun idempotent (validate_of_seed h) world
  rw [h] at hseed
  cases result with
  | error halt => cases hseed
  | ok done =>
      cases hseed
      rw [Log.notedIn_start]
      rfl

end Roster

namespace Arena

variable (env : Environment ω) (plan : ArenaPlan) (dryRun idempotent : Bool)

-- No step of a run changes what its report says of it as a whole.
section Headings

theorem heading_enlist (name : String) (target : Nat) (preparation : Preparation)
    (session : Session ω) :
    (enlist name target preparation session).report.heading = session.report.heading := by
  cases preparation <;> rfl

theorem heading_prepare (done : Nat) (profiles : List (TraineeProfile × Nat))
    (session : Session ω) :
    (prepare env plan dryRun idempotent done profiles session).2.report.heading =
      session.report.heading := by
  induction profiles generalizing done session with
  | nil => rfl
  | cons pair rest ih =>
      rw [prepare]
      split
      · rfl
      · simp only
        split
        · rfl
        · rw [ih, heading_enlist]

theorem heading_spawnMentors (excluded : List String) (session : Session ω) :
    (spawnMentors env plan dryRun excluded session).2.report.heading =
      session.report.heading := by
  unfold spawnMentors
  split
  · rfl
  · simp only
    split
    · rfl
    · split
      · rfl
      · split <;> rfl

theorem heading_resolveMentors (session : Session ω) :
    (resolveMentors env plan dryRun session).2.report.heading = session.report.heading := by
  unfold resolveMentors
  simp only
  split
  · rfl
  · split
    · rfl
    · split
      · rfl
      · exact heading_spawnMentors env plan dryRun _ _

theorem heading_ensureMentors (session : Session ω) :
    (ensureMentors env plan dryRun session).2.report.heading = session.report.heading := by
  have hresolved := heading_resolveMentors env plan dryRun session
  unfold ensureMentors
  split <;> rename_i heq <;> rw [heq] at hresolved <;> exact hresolved

theorem heading_ready (session : Session ω) :
    (ready env plan dryRun idempotent session).2.report.heading = session.report.heading := by
  unfold ready
  split
  · rfl
  · split
    · rfl
    · rename_i checked _ _ _ _
      have hprepared := heading_prepare env plan dryRun idempotent 0
        (plan.profiles.zip (plan.targets.tierGoals plan.profiles.length))
        { session with world := checked }
      simp only
      split <;> rename_i hprepare <;> rw [hprepare] at hprepared
      · exact hprepared
      · rename_i prepared
        have hmentored : (if plan.mentored then ensureMentors env plan dryRun prepared
            else (.ok (), prepared)).2.report.heading = prepared.report.heading := by
          split
          · exact heading_ensureMentors env plan dryRun prepared
          · rfl
        split <;> rename_i heq <;> rw [heq] at hmentored <;> exact hmentored.trans hprepared

theorem upholds_heading (heading : SeedMode × Bool × Bool) :
    Training.Upholds env plan (fun session => session.report.heading = heading)
      fun _ => True where
  trainees := fun _ _ _ => trivial
  check := id
  attempt := fun _ _ _ _ => id
  noteError := fun _ _ => id
  settle := by
    intro template budget place outcome trainee session _ hsession
    unfold Training.settle Training.noteAttempt
    rcases outcome with (_ | _ | _ | _) | _ <;> exact hsession

theorem heading_phases (session : Session ω) :
    (phases env plan dryRun idempotent session).2.report.heading = session.report.heading := by
  have hready := heading_ready env plan dryRun idempotent session
  rw [phases_eq]
  split <;> rename_i heq <;> rw [heq] at hready
  · exact hready
  · rename_i curriculum opening
    split
    · exact hready
    · have htrained := (upholds_heading env plan session.report.heading).rounds
        (Training.budget plan opening.trainees.length)
        (Training.budget plan opening.trainees.length)
        (Selector.create curriculum plan.selection) hready
      simp only [Training.train]
      split <;> rename_i htrain <;> rw [htrain] at htrained <;> exact htrained

variable {env plan dryRun idempotent} in
theorem heading_run {world after : ω} {report : Report}
    (h : run env plan dryRun idempotent world = (.ok report, after)) :
    report.heading = (Report.start .trainingArena dryRun).heading := by
  have hphases := heading_phases env plan dryRun idempotent (.start dryRun world)
  unfold run at h
  simp only at h
  split at h
  · cases h
  · split at h <;> rename_i heq
    · cases h
    · rw [show phases env plan dryRun idempotent (.start dryRun world) = _ from heq] at hphases
      cases h
      exact hphases

end Headings

-- Once its templates are loaded, a run is not refused any more.
section Refusals

variable {env plan dryRun idempotent} {session last : Session ω} {e : SeedError}

theorem not_refusal_prepare {done : Nat} {profiles : List (TraineeProfile × Nat)}
    (h : prepare env plan dryRun idempotent done profiles session = (.error e, last)) :
    e.isRefusal = false := by
  induction profiles generalizing done session with
  | nil => cases h
  | cons pair rest ih =>
      rw [prepare] at h
      split at h
      · cases h
        rfl
      · simp only at h
        split at h
        · cases h
          rfl
        · exact ih h

theorem not_refusal_ensureMentors
    (h : ensureMentors env plan dryRun session = (.error e, last)) : e.isRefusal = false := by
  unfold ensureMentors at h
  split at h <;> cases h
  rfl

theorem ready_refused_iff :
    (ready env plan dryRun idempotent session = (.error e, last) ∧ e.isRefusal = true) ↔
      ∃ error checked, env.check session.world = (.ok (), checked) ∧
        (TemplateSource.choose plan.domain plan.questFile).load env.folder = .error error ∧
        e = .templates error ∧ last = { session with world := checked } := by
  constructor
  · rintro ⟨h, hrefusal⟩
    unfold ready at h
    split at h
    · cases h
      cases hrefusal
    · rename_i checked hcheck
      split at h
      · rename_i error hload
        cases h
        exact ⟨error, checked, hcheck, hload, rfl, rfl⟩
      · simp only at h
        split at h <;> rename_i hprepare
        · cases h
          rw [not_refusal_prepare hprepare] at hrefusal
          cases hrefusal
        · split at h <;> rename_i hmentored
          · cases h
            split at hmentored
            · rw [not_refusal_ensureMentors hmentored] at hrefusal
              cases hrefusal
            · cases hmentored
          · cases h
  · rintro ⟨error, checked, hcheck, hload, rfl, rfl⟩
    exact ⟨by simp only [ready, hcheck, hload], rfl⟩

theorem phases_refused_iff :
    (phases env plan dryRun idempotent session = (.error e, last) ∧ e.isRefusal = true) ↔
      ready env plan dryRun idempotent session = (.error e, last) ∧ e.isRefusal = true := by
  rw [phases_eq]
  -- Training ends a run with a halt at worst, so a refusal comes from the preparation.
  refine and_congr_left fun hrefusal => ?_
  split <;> rename_i hready
  · rw [hready, Prod.mk.injEq, Prod.mk.injEq, Except.error.injEq, Except.error.injEq]
  · refine iff_of_false ?_ (by simp [hready])
    intro h
    split at h
    · cases h
    · split at h <;> cases h
      cases hrefusal

theorem run_eq_error_iff (hvalid : plan.validate = .ok ()) {world after : ω} {failure : Failure} :
    run env plan dryRun idempotent world = (.error failure, after) ↔
      ∃ e last, phases env plan dryRun idempotent (.start dryRun world) = (.error e, last) ∧
        failure = (withTrainees last.report last.trainees).fail e ∧ after = last.world := by
  unfold run
  simp only [hvalid]
  rw [← Session.start]
  cases phases env plan dryRun idempotent (.start dryRun world) with
  | mk result last =>
      cases result with
      | error e =>
          constructor
          · intro h
            cases h
            exact ⟨e, last, rfl, rfl, rfl⟩
          · rintro ⟨e, last, h, rfl, rfl⟩
            cases h
            rfl
      | ok done =>
          constructor
          · intro h
            cases h
          · rintro ⟨e, last, h, -⟩
            cases h

theorem run_refused_iff (hvalid : plan.validate = .ok ()) {world after : ω} {failure : Failure} :
    (run env plan dryRun idempotent world = (.error failure, after) ∧
        failure.error.isRefusal = true) ↔
      ∃ error, env.check world = (.ok (), after) ∧
        (TemplateSource.choose plan.domain plan.questFile).load env.folder = .error error ∧
        failure = (Report.start .trainingArena dryRun).fail (.templates error) := by
  rw [run_eq_error_iff hvalid]
  constructor
  · rintro ⟨⟨e, last, hphases, rfl, rfl⟩, hrefusal⟩
    obtain ⟨error, checked, hcheck, hload, rfl, rfl⟩ :=
      ready_refused_iff.mp (phases_refused_iff.mp ⟨hphases, hrefusal⟩)
    exact ⟨error, hcheck, hload, rfl⟩
  · rintro ⟨error, hcheck, hload, rfl⟩
    have hready : ready env plan dryRun idempotent (.start dryRun world) =
        (.error (.templates error), { Session.start dryRun world with world := after }) ∧
          (SeedError.templates error).isRefusal = true :=
      ready_refused_iff.mpr ⟨error, after, hcheck, hload, rfl, rfl⟩
    exact ⟨⟨_, _, (phases_refused_iff.mpr hready).1, rfl, rfl⟩, rfl⟩

end Refusals

end Arena

namespace SeedTask

/-- The check that a run makes of its own plan before it begins. -/
def validate : SeedTask → Except PlanFault Unit
  | .train plan => plan.validate
  | .place plan => plan.validate

end SeedTask

namespace SeedPlan

/-- The section that the mode of a plan asks for, if the plan has it. -/
def section? (plan : SeedPlan) : Option SeedTask :=
  match plan.mode, plan.arena, plan.roster with
  | .trainingArena, some arena, _ => some (.train arena)
  | .tieredRoster, _, some roster => some (.place roster)
  | _, _, _ => none

/-- What a run does that checks the plan first and then looks for the section to be run. -/
def dispatch (env : Environment ω) (plan : SeedPlan) (world : ω) : Except Failure Report × ω :=
  match plan.validate with
  | .error fault => (.error ((Report.start plan.mode plan.dryRun).fail (.plan fault)), world)
  | .ok () =>
    match plan.section? with
    | some (.train arena) => Arena.run env arena plan.dryRun plan.idempotent world
    | some (.place roster) => Roster.seed env roster plan.dryRun plan.idempotent world
    | none =>
      let fault := PlanFault.stated ("no section configured for " ++ plan.mode.name)
      (.error ((Report.start plan.mode plan.dryRun).fail (.plan fault)), world)

theorem task_eq (plan : SeedPlan) :
    plan.task =
      match plan.section? with
      | none =>
        .error (match plan.mode with | .trainingArena => .noArena | .tieredRoster => .noRoster)
      | some task =>
        match task.validate with
        | .error fault => .error fault
        | .ok () => .ok task := by
  obtain ⟨mode, dryRun, idempotent, arena, roster⟩ := plan
  cases mode <;> cases arena <;> cases roster <;> rfl

variable {env : Environment ω} {plan : SeedPlan} {world : ω}

theorem validate_eq_ok_iff :
    plan.validate = .ok () ↔ ∃ task, plan.section? = some task ∧ task.validate = .ok () := by
  unfold validate
  rw [task_eq]
  cases plan.section? with
  | none => simp
  | some task => cases hvalid : task.validate <;> simp [hvalid]

theorem run_eq_dispatch (env : Environment ω) (plan : SeedPlan) (world : ω) :
    plan.run env world = plan.dispatch env world := by
  unfold run dispatch validate
  rw [task_eq]
  cases plan.section? with
  | none => rfl
  | some task =>
      cases task with
      | train arena =>
          simp only [SeedTask.validate]
          cases arena.validate <;> rfl
      | place roster =>
          simp only [SeedTask.validate]
          cases roster.validate <;> rfl

theorem run_of_fault {fault : PlanFault} (h : plan.validate = .error fault) :
    plan.run env world =
      (.error ((Report.start plan.mode plan.dryRun).fail (.plan fault)), world) := by
  rw [run_eq_dispatch]
  simp only [dispatch, h]

theorem mode_of_section {arena : ArenaPlan} (h : plan.section? = some (.train arena)) :
    plan.mode = .trainingArena := by
  unfold section? at h
  split at h <;> cases h
  assumption

/-- A run is refused if its plan has a fault, or if it was given leave and the templates of its
arena cannot be loaded. -/
theorem run_refused_iff {failure : Failure} {after : ω} :
    (plan.run env world = (.error failure, after) ∧ failure.error.isRefusal = true) ↔
      (∃ fault, plan.validate = .error fault ∧ after = world ∧
        failure = (Report.start plan.mode plan.dryRun).fail (.plan fault)) ∨
      ∃ arena error, plan.section? = some (.train arena) ∧ arena.validate = .ok () ∧
        env.check world = (.ok (), after) ∧
        (TemplateSource.choose arena.domain arena.questFile).load env.folder = .error error ∧
        failure = (Report.start plan.mode plan.dryRun).fail (.templates error) := by
  rw [run_eq_dispatch]
  unfold dispatch
  cases hvalid : plan.validate with
  | error fault =>
      have hunready : ∀ arena, plan.section? = some (.train arena) → arena.validate ≠ .ok () := by
        intro arena harena hok
        rw [validate_eq_ok_iff.mpr ⟨_, harena, hok⟩] at hvalid
        cases hvalid
      constructor
      · rintro ⟨h, -⟩
        cases h
        exact .inl ⟨fault, rfl, rfl, rfl⟩
      · rintro (⟨_, h, rfl, rfl⟩ | ⟨arena, _, harena, hok, -⟩)
        · cases h
          exact ⟨rfl, rfl⟩
        · exact absurd hok (hunready arena harena)
  | ok done =>
      obtain ⟨task, htask, hok⟩ := validate_eq_ok_iff.mp hvalid
      rw [htask]
      cases task with
      | train arena =>
          rw [mode_of_section htask]
          refine (Arena.run_refused_iff hok).trans ⟨?_, ?_⟩
          · rintro ⟨error, hcheck, hload, rfl⟩
            exact .inr ⟨arena, error, rfl, hok, hcheck, hload, rfl⟩
          · rintro (⟨_, h, -⟩ | ⟨_, error, h, -, hcheck, hload, rfl⟩)
            · cases h
            · cases h
              exact ⟨error, hcheck, hload, rfl⟩
      | place roster =>
          constructor
          · rintro ⟨h, hrefusal⟩
            obtain ⟨halt, herror⟩ :=
              Roster.halted_of_seed env roster plan.dryRun plan.idempotent hok h
            rw [herror] at hrefusal
            cases hrefusal
          · rintro (⟨_, h, -⟩ | ⟨_, _, h, -⟩) <;> cases h

/-- What a run that was refused leaves behind: at most it asked for leave, whatever store, board and
sink there are, and its report tells nothing but the error. -/
structure Unspent (env : Environment ω) (plan : SeedPlan) (world : ω) (failure : Failure)
    (after : ω) : Prop where
  asked : after = world ∨ after = (env.check world).2
  hall : ∀ view : HallView ω, env.Hosts view → view.hall after = view.hall world
  unseen : ∀ other : Environment ω, other.check = env.check → other.folder = env.folder →
    plan.run other world = (.error failure, after)
  partialReport : failure.partialReport = {
    mode := plan.mode, success := false, dryRun := plan.dryRun
    agentsCreated := 0, agentsSkipped := 0, guildsCreated := 0, npcsSpawned := 0
    questsCompleted := 0, questsRun := 0, errors := [failure.error.message], agents := [] }

theorem unspent_of_refused {failure : Failure} {after : ω}
    (h : plan.run env world = (.error failure, after)) (hrefusal : failure.error.isRefusal = true) :
    Unspent env plan world failure after := by
  have hunseen : ∀ other : Environment ω, other.check = env.check → other.folder = env.folder →
      plan.run other world = (.error failure, after) := by
    intro other hcheck hfolder
    refine (run_refused_iff.mpr ?_).1
    rw [hcheck, hfolder]
    exact run_refused_iff.mp ⟨h, hrefusal⟩
  rcases run_refused_iff.mp ⟨h, hrefusal⟩ with
    ⟨fault, -, rfl, rfl⟩ | ⟨arena, error, -, -, hcheck, -, rfl⟩
  · exact ⟨.inl rfl, fun _ _ => rfl, hunseen, rfl⟩
  · have hafter : after = (env.check world).2 := by rw [hcheck]
    exact ⟨.inr hafter, fun view hosts => hafter ▸ hosts.hall_check world, hunseen, rfl⟩

theorem success_of_run {report : Report} {after : ω}
    (h : plan.run env world = (.ok report, after)) : report.success = true := by
  unfold run at h
  split at h
  · cases h
  · exact Report.success_of_heading (Arena.heading_run h)
  · exact Report.success_of_heading (Roster.heading_seed h)

/-- A run fails with a fault of its plan exactly if the check of the plan finds that fault, and what
it is refused for costs nothing. The section that it runs is there and valid, and so is the roster
of any mentors that it creates; a run that comes to its end tells success. -/
theorem run_vetted (env : Environment ω) (plan : SeedPlan) (world : ω) :
    (∀ fault, (∃ failure, (plan.run env world).1 = .error failure ∧
        failure.error = .plan fault) ↔ plan.validate = .error fault) ∧
      (∀ failure after, plan.run env world = (.error failure, after) →
        failure.error.isRefusal = true → Unspent env plan world failure after) ∧
      (∀ report after, plan.run env world = (.ok report, after) → report.success = true) ∧
      plan.run env world = plan.dispatch env world ∧
      (plan.validate = .ok () ↔ ∃ task, plan.section? = some task ∧ task.validate = .ok ()) ∧
      (∀ count first, count ≠ 0 → (Mentors.roster count first).validate = .ok ()) ∧
      ∀ (arena : ArenaPlan) dryRun session e last,
        Arena.resolveMentors env arena dryRun session = (.error e, last) → Arena.Foreseen e := by
  refine ⟨fun fault => ⟨?_, ?_⟩, fun failure after => unspent_of_refused,
    fun report after => success_of_run, run_eq_dispatch env plan world, validate_eq_ok_iff,
    fun count first hcount => Mentors.validate_roster hcount first,
    fun arena dryRun session e last => Arena.foreseen_resolveMentors⟩
  · rintro ⟨failure, h, hfault⟩
    have hrefused := run_refused_iff.mp ⟨Prod.ext h rfl, by rw [hfault]; rfl⟩
    rcases hrefused with ⟨other, hother, -, rfl⟩ | ⟨arena, error, -, -, -, -, rfl⟩
    · cases hfault
      exact hother
    · cases hfault
  · intro hfault
    exact ⟨_, congrArg Prod.fst (run_of_fault hfault), rfl⟩

/-- No templates are bundled for the domain that three scouts shall be trained in. -/
theorem run_vetted_unknown :
    let plan : SeedPlan :=
      { mode := .trainingArena, dryRun := false, idempotent := true
        arena := some { Arena.scouts with domain := "caves" }, roster := none }
    let world := Rehearsal.onStore .scouted
    ∃ failure after, (plan.run Rehearsal.quiet world = (.error failure, after) ∧
        failure.error.isRefusal = true) ∧
      Unspent Rehearsal.quiet plan world failure after ∧
      failure.partialReport.errors = ["Template load error: Unknown quest domain: caves"] := by
  intro plan world
  have herrors : (match (plan.run Rehearsal.quiet world).1 with
      | .error failure => (failure.error.isRefusal, failure.partialReport.errors)
      | .ok _ => (false, [])) =
        (true, ["Template load error: Unknown quest domain: caves"]) := by decide +kernel
  cases hrun : plan.run Rehearsal.quiet world with
  | mk result after =>
      rw [hrun] at herrors
      cases result with
      | ok report => cases herrors
      | error failure =>
          obtain ⟨hrefusal, htext⟩ := Prod.mk.inj herrors
          obtain ⟨-, hunspent, -⟩ := run_vetted Rehearsal.quiet plan world
          exact ⟨failure, after, ⟨rfl, hrefusal⟩, hunspent failure after hrun hrefusal, htext⟩

end SeedPlan

end QuestAcademy
