import QuestAcademy.Proofs.TraineeNames
import QuestAcademy.Proofs.TrainingOrder

namespace QuestAcademy

variable {ω : Type}

namespace Arena

variable (env : Environment ω) (plan : ArenaPlan) (dryRun idempotent : Bool)

/-- A run that may take any order in each of the rounds of its training. -/
inductive Ordering (world : ω) : Except Failure Report → ω → Prop
  | refused {fault : PlanFault} (hvalid : plan.validate = .error fault) :
      Ordering world (.error ((Report.start .trainingArena dryRun).fail (.plan fault))) world
  | unready {e : SeedError} {last : Session ω} (hvalid : plan.validate = .ok ())
      (hready : ready env plan dryRun idempotent (.start dryRun world) = (.error e, last)) :
      Ordering world (.error ((withTrainees last.report last.trainees).fail e)) last.world
  | dry {curriculum : Curriculum} {last : Session ω} (hvalid : plan.validate = .ok ())
      (hdry : dryRun = true)
      (hready : ready env plan dryRun idempotent (.start dryRun world) = (.ok curriculum, last)) :
      Ordering world (.ok (withTrainees last.report last.trainees)) last.world
  | halted {curriculum : Curriculum} {opening last : Session ω} {halt : Halt}
      (hvalid : plan.validate = .ok ()) (hdry : dryRun = false)
      (hready : ready env plan dryRun idempotent (.start dryRun world) =
        (.ok curriculum, opening))
      (htraining : Training.Ordering env plan (Training.budget plan opening.trainees.length)
        (Selector.create curriculum plan.selection) opening (.error halt) last) :
      Ordering world (.error ((withTrainees last.report last.trainees).fail (.halted halt)))
        last.world
  | trained {curriculum : Curriculum} {opening last : Session ω} {trainees : List Trainee}
      {after : ω} (hvalid : plan.validate = .ok ()) (hdry : dryRun = false)
      (hready : ready env plan dryRun idempotent (.start dryRun world) =
        (.ok curriculum, opening))
      (htraining : Training.Ordering env plan (Training.budget plan opening.trainees.length)
        (Selector.create curriculum plan.selection) opening (.ok ()) last)
      (hread : refreshAll env.store last.trainees last.world = (trainees, after)) :
      Ordering world (.ok (withTrainees last.report trainees)) after

/-- Answers of runs that differ at most in the order of the errors they report. -/
inductive AnswersAgree : Except Failure Report → Except Failure Report → Prop
  | failed (failure : Failure) : AnswersAgree (.error failure) (.error failure)
  | completed {report other : Report} (h : report.Agrees other) :
      AnswersAgree (.ok report) (.ok other)

variable {env plan dryRun idempotent} {world after : ω}

theorem Run.ordering {log : List (TrainingRound ω)} {answer : Except Failure Report}
    (h : Run env plan dryRun idempotent world log answer after) :
    Ordering env plan dryRun idempotent world answer after := by
  cases h with
  | refused hvalid => exact .refused hvalid
  | failed hvalid hcourse =>
      generalize hanswer : (.error _ : Except SeedError Unit) = answer at hcourse
      cases hcourse with
      | unready hready =>
          cases hanswer
          exact .unready hvalid hready
      | dry => cases hanswer
      | @trained _ _ _ _ result hdry hready hcourse =>
          cases result with
          | error halt =>
              cases hanswer
              exact .halted hvalid hdry hready hcourse.ordering
          | ok done => cases hanswer
  | completed hvalid hcourse hread =>
      generalize hanswer : (.ok () : Except SeedError Unit) = answer at hcourse
      cases hcourse with
      | unready => cases hanswer
      | dry hdry hready =>
          rw [if_pos hdry] at hread
          cases hread
          exact .dry hvalid hdry hready
      | @trained _ _ _ _ result hdry hready hcourse =>
          cases result with
          | error halt => cases hanswer
          | ok done =>
              rw [hdry, if_neg Bool.false_ne_true] at hread
              exact .trained hvalid hdry hready hcourse.ordering hread

variable (env plan dryRun idempotent world) in
theorem run_eq (hvalid : plan.validate = .ok ()) :
    run env plan dryRun idempotent world =
      match ready env plan dryRun idempotent (.start dryRun world) with
      | (.error e, last) =>
        (.error ((withTrainees last.report last.trainees).fail e), last.world)
      | (.ok curriculum, opening) =>
        if dryRun then (.ok (withTrainees opening.report opening.trainees), opening.world)
        else
          match Training.train env plan curriculum opening with
          | (.error halt, last) =>
            (.error ((withTrainees last.report last.trainees).fail (.halted halt)), last.world)
          | (.ok (), last) =>
            (.ok (withTrainees last.report (refreshAll env.store last.trainees last.world).1),
              (refreshAll env.store last.trainees last.world).2) := by
  have hphases := phases_eq env plan dryRun idempotent (.start dryRun world)
  unfold run
  simp only [hvalid]
  unfold Session.start at hphases ⊢
  rw [hphases]
  cases ready env plan dryRun idempotent
      { trainees := [], report := Report.start .trainingArena dryRun, world } with
  | mk answer opening =>
      cases answer with
      | error e => rfl
      | ok curriculum =>
          cases dryRun with
          | true => rfl
          | false =>
              simp only [Bool.false_eq_true, if_false]
              cases Training.train env plan curriculum opening with
              | mk result last => cases result <;> rfl

theorem prepare_concurrency (concurrency done : Nat) (profiles : List (TraineeProfile × Nat))
    (session : Session ω) :
    prepare env { plan with concurrency } dryRun idempotent done profiles session =
      prepare env plan dryRun idempotent done profiles session := by
  refine prepare_congr env dryRun idempotent ?_ ?_ done rfl session <;> rfl

/-- What comes before the training has nothing to do with who is at work at once. -/
theorem ready_concurrency (concurrency : Nat) (session : Session ω) :
    ready env { plan with concurrency } dryRun idempotent session =
      ready env plan dryRun idempotent session := by
  simp only [ready, prepare_concurrency]
  rfl

theorem validate_concurrency {concurrency : Nat} (h : concurrency ≠ 0)
    (hplan : plan.concurrency ≠ 0) :
    ArenaPlan.validate { plan with concurrency } = plan.validate := by
  simp only [ArenaPlan.validate, h, hplan]

end Arena

namespace Environment

variable {env : Environment ω} {view : HallView ω} {conduct : Conduct} {plan : ArenaPlan}
  {dryRun idempotent : Bool} {world after : ω}

theorem Hosts.fit_ready (hosts : env.Hosts view) (hworks : view.works world)
    (htidy : (view.hall world).Tidy env.store.space) {curriculum : Curriculum}
    {opening : Session ω}
    (hready : Arena.ready env plan dryRun idempotent (.start dryRun world) =
      (.ok curriculum, opening)) : env.SessionFit view opening := by
  have hkeeps := hosts.preservesSeeding (Q := Hall.Tidy env.store.space)
    (fun hall agent hid htidy => ⟨htidy.keyed.save hid, htidy.numbered⟩)
    fun hall guilds htidy =>
      ⟨⟨⟨htidy.keyed.sound, htidy.keyed.key⟩, htidy.keyed.id⟩, htidy.numbered⟩
  have hstart : env.KeyedIn (fun world => view.works world ∧
      (view.hall world).Tidy env.store.space) (Session.start dryRun world) := by
    refine ⟨⟨hworks, htidy⟩, ?_⟩
    intro trainee htrainee
    cases htrainee
  obtain ⟨⟨hopening, htidied⟩, hkeyed⟩ := hosts.keyed_ready hkeeps
    (fun hworld => hworld.2.keyed) hstart hready
  refine ⟨hopening, htidied, hkeyed, ?_⟩
  rw [Arena.keys_ready hready]
  exact Arena.nodup_traineeKeys 0 plan.profiles

/-- A run in any order agrees with the run that settles each attempt before the next. -/
theorem Hosts.run_agrees (hosts : env.Hosts view) (hpermits : env.Permits view.works)
    (hfollows : env.Follows view.works conduct) (hplan : plan.concurrency ≠ 0)
    (hworks : view.works world) (htidy : (view.hall world).Tidy env.store.space)
    {answer : Except Failure Report}
    (h : Arena.Ordering env plan dryRun idempotent world answer after) :
    let sequential := Arena.run env { plan with concurrency := 1 } dryRun idempotent world
    Arena.AnswersAgree answer sequential.1 ∧
      (view.hall after).Agrees (view.hall sequential.2) := by
  have hvalidate : ArenaPlan.validate { plan with concurrency := 1 } = plan.validate :=
    Arena.validate_concurrency one_ne_zero hplan
  have hrun := Arena.run_eq env { plan with concurrency := 1 } dryRun idempotent world
  rw [hvalidate, Arena.ready_concurrency] at hrun
  cases h with
  | refused hvalid =>
      simp only [Arena.run, hvalidate, hvalid]
      exact ⟨.failed _, .refl _⟩
  | unready hvalid hready =>
      rw [hrun hvalid, hready]
      exact ⟨.failed _, .refl _⟩
  | dry hvalid hdry hready =>
      rw [hrun hvalid, hready, hdry]
      exact ⟨.completed (.refl _), .refl _⟩
  | halted hvalid hdry hready htraining =>
      have hfit := hosts.fit_ready hworks htidy hready
      cases (hosts.ordering_agrees hpermits hfollows 1 htraining hfit hfit (.refl _ _)
        (Nat.le_add_left _ _)).1
  | @trained curriculum opening last trainees after hvalid hdry hready htraining hread =>
      have hfit := hosts.fit_ready hworks htidy hready
      obtain ⟨-, hlast, otherLast, hrounds, hotherLast, hsame⟩ := hosts.ordering_agrees hpermits
        hfollows 1 htraining hfit hfit (.refl _ _) (Nat.le_add_left _ _)
      have htrain : Training.train env { plan with concurrency := 1 } curriculum opening =
          (.ok (), otherLast) := hrounds
      obtain ⟨hseen, hhall⟩ := hosts.refreshAll_eq last.trainees hlast.works
      obtain ⟨hotherSeen, hotherHall⟩ := hosts.refreshAll_eq otherLast.trainees hotherLast.works
      rw [hread] at hseen hhall
      rw [hrun hvalid, hready, hdry]
      simp only [htrain, Bool.false_eq_true, if_false]
      rw [hhall, hotherHall, hotherSeen, ← hsame.trainees, ← hsame.hall.store, ← hseen]
      exact ⟨.completed (hsame.report.withTrainees trainees), hsame.hall⟩

/-- Neither a round nor a whole run depends on who tries first, nor on when attempts are settled:
each round and each run is one of the orders, and all orders agree with the one that settles each
attempt before the next. -/
theorem Hosts.orders_agree (hosts : env.Hosts view) (hpermits : env.Permits view.works)
    (hfollows : env.Follows view.works conduct) (plan : ArenaPlan) :
    (∀ (template : Template) (budget : Nat) (session : Session ω), env.SessionFit view session →
      let due := Training.pending session.trainees
      let sequential := Training.roundInTurn env plan template budget due session
      (∀ order : List (Trainee × Nat), order.Perm due →
        Training.Tackle env plan template budget due [] session
          (Training.round env plan template budget order session).1
          (Training.round env plan template budget order session).2) ∧
      ∀ (result : Except Halt Unit) (last : Session ω),
        Training.Tackle env plan template budget due [] session result last →
          result = .ok () ∧ sequential.1 = .ok () ∧ last.Agrees view sequential.2) ∧
    ∀ (dryRun idempotent : Bool) (world : ω), plan.concurrency ≠ 0 → view.works world →
      (view.hall world).Tidy env.store.space →
      let run := Arena.run env plan dryRun idempotent world
      let sequential := Arena.run env { plan with concurrency := 1 } dryRun idempotent world
      Arena.Ordering env plan dryRun idempotent world run.1 run.2 ∧
      ∀ (answer : Except Failure Report) (after : ω),
        Arena.Ordering env plan dryRun idempotent world answer after →
          Arena.AnswersAgree answer sequential.1 ∧
            (view.hall after).Agrees (view.hall sequential.2) := by
  constructor
  · intro template budget session hfit due sequential
    refine ⟨fun order hperm =>
      Training.tackle_round env plan template budget hperm.symm session, ?_⟩
    intro result last htackle
    obtain ⟨attempts, hmade⟩ := Training.inTurn_roundInTurn env plan template budget due session
    obtain ⟨⟨hok, -⟩, ⟨hsequential, -⟩, hagrees⟩ := hosts.tackle_agrees hpermits hfollows hfit hfit
      (.refl view session) htackle hmade.tackle
    exact ⟨hok, hsequential, hagrees⟩
  · intro dryRun idempotent world hplan hworks htidy run sequential
    obtain ⟨log, hrun⟩ := Arena.run_run env plan dryRun idempotent world
    exact ⟨hrun.ordering, fun answer after h =>
      hosts.run_agrees hpermits hfollows hplan hworks htidy h⟩

end Environment

namespace Rehearsal

def conduct (script : Script) : Conduct where
  work := fun agent quest =>
    if !script.silent && script.failingAgents.contains agent.name then
      .error (.execution script.failureText)
    else .ok (echo agent quest)
  assess := Judgement.byTemplate script.scorer
  unnumbered := fun _ _ => rfl
  steady := by
    intro agent quest halt
    split <;> simp

theorem follows_conduct {script : Script} (h : script.failingExecutions = []) (space : String)
    (folder : Folder) (works : Rehearsal → Prop) :
    (environment space folder script).Follows works (conduct script) where
  execute := by
    intro agent quest world _
    simp only [environment, execute, conduct, h, List.contains_nil, Bool.false_or]
    cases script.silent with
    | true => rfl
    | false =>
        simp only [Bool.false_eq_true, if_false, Bool.not_false, Bool.true_and]
        split <;> rfl
  judge := fun _ _ _ _ _ => rfl

def wearyScript : Script :=
  { revokeOnEvent := none
    revokingExecutions := []
    failingExecutions := []
    failingAgents := ["scout-2"]
    failureText := "too tired"
    scorer := .default
    silent := false }

def weary : Environment Rehearsal := environment Store.defaultSpace [] wearyScript

def wearySession : Session Rehearsal :=
  let agents := ["scout-1", "scout-2", "scout-3"].map fun name =>
    Agent.create (entityId Store.defaultSpace name) name 1
  { trainees := agents.map fun agent =>
      { agent, key := agent.name, target := 2, mentor := none }
    report := Report.start .trainingArena false
    world := { onStore (agents.foldl Store.save .empty) with
      board := Board.empty.bar (entityId Store.defaultSpace "scout-3") } }

def errand : Template :=
  { id := "errand"
    title := "An errand"
    description := ""
    difficulty := .easy
    skills := []
    input := .null
    criteria := [] }

theorem wellKeyed_foldl_save {space : String} {agents : List Agent} {store : Store}
    (h : store.WellKeyed space)
    (hids : ∀ agent ∈ agents, agent.id = entityId space (instanceKey agent.name)) :
    (agents.foldl Store.save store).WellKeyed space := by
  induction agents generalizing store with
  | nil => exact h
  | cons agent rest ih =>
      exact ih (h.save (hids agent List.mem_cons_self)) fun other hother =>
        hids other (List.mem_cons_of_mem agent hother)

theorem fit_wearySession : weary.SessionFit lasting wearySession where
  works := ⟨⟨rfl, rfl⟩, rfl⟩
  tidy := ⟨wellKeyed_foldl_save (Store.wellKeyed_empty _) (by decide +kernel), rfl⟩
  keyed := by
    unfold Trainee.Keyed
    decide +kernel
  distinct := by decide +kernel

/-- In the opposite order the quests are posted in the opposite order, and nothing else changes. A
whole run at which all are at work at once agrees with the one in turn. -/
theorem orders_agree_weary :
    let plan := { Arena.scouts with concurrency := 3 }
    let due := Training.pending wearySession.trainees
    let backwards := Training.round weary plan errand 3 due.reverse wearySession
    let sequential := Training.roundInTurn weary plan errand 3 due wearySession
    (backwards.2.Agrees lasting sequential.2 ∧
      backwards.2.world.board.quests.map Quest.status = [.posted, .failed, .completed] ∧
      sequential.2.world.board.quests.map Quest.status = [.completed, .failed, .posted] ∧
      sequential.2.report.errors.length = 2) ∧
    Arena.AnswersAgree (Arena.run weary plan false true (onStore .scouted)).1
      (Arena.run weary Arena.scouts false true (onStore .scouted)).1 := by
  intro plan due backwards sequential
  have hbackwards : backwards.2.world.board.quests.map Quest.status =
      [.posted, .failed, .completed] := by decide +kernel
  have hsequential : sequential.2.world.board.quests.map Quest.status =
      [.completed, .failed, .posted] := by decide +kernel
  have herrors : sequential.2.report.errors.length = 2 := by decide +kernel
  have hhosts : weary.Hosts lasting := hosts_lasting ⟨rfl, rfl⟩ _ _
  have hfollows : weary.Follows lasting.works (conduct wearyScript) := follows_conduct rfl _ _ _
  obtain ⟨hround, hrun⟩ := hhosts.orders_agree (permits_lasting _ _ _) hfollows plan
  obtain ⟨horder, hagrees⟩ := hround errand 3 wearySession fit_wearySession
  obtain ⟨-, -, hsame⟩ := hagrees _ _ (horder due.reverse (List.reverse_perm due))
  have htidy : (lasting.hall (onStore .scouted)).Tidy Store.defaultSpace :=
    ⟨Store.wellKeyed_scouted, rfl⟩
  obtain ⟨hself, hothers⟩ := hrun false true (onStore .scouted) (by decide)
    (works_lasting_onStore _) htidy
  exact ⟨⟨hsame, hbackwards, hsequential, herrors⟩, (hothers _ _ hself).1⟩

end Rehearsal

end QuestAcademy
