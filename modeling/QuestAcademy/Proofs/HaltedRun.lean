import QuestAcademy.Proofs.HaltedSeeding
import QuestAcademy.Proofs.ArenaCourse
import QuestAcademy.Proofs.AttemptSettlement

namespace QuestAcademy

variable {ω : Type}

namespace Training

variable (env : Environment ω) (plan : ArenaPlan) (template : Template) (budget : Nat)

theorem settle_unhalted : settle env.unhalted = settle env := rfl

theorem idles_settle (trainee : Trainee) (place : Nat) (outcome : Except AttemptError Receipt)
    (session : Session ω) :
    env.Idles session.world (settle env template budget trainee place outcome session).2.world := by
  unfold settle
  split
  · exact .nothing
  · exact (Environment.Idles.nothing.report _).trans (Environment.idles_refresh env trainee _)

def afterAttempt (trainee : Trainee) (place : Nat) (rest : List (Trainee × Nat))
    (session : Session ω) (made : Except AttemptError Receipt × ω) :
    Except Halt Unit × Session ω :=
  match settle env template budget trainee place made.1 { session with world := made.2 } with
  | (.error halt, session) => (.error halt, session)
  | (.ok (), session) => roundInTurn env plan template budget rest session

theorem roundInTurn_cons (trainee : Trainee) (place : Nat) (rest : List (Trainee × Nat))
    (session : Session ω) :
    roundInTurn env plan template budget ((trainee, place) :: rest) session =
      afterAttempt env plan template budget trainee place rest session
        (attempt env plan template trainee session.world) := rfl

/-- An attempt asks for leave first; a round stops with the trainee that does not get it. -/
theorem afterAttempt_attempt (trainee : Trainee) (place : Nat) (rest : List (Trainee × Nat))
    (session : Session ω) :
    afterAttempt env plan template budget trainee place rest session
        (attempt env plan template trainee session.world) =
      match env.check session.world with
      | (.error halt, world) =>
        (.error halt, { session with
          report := { session.report with questsRun := session.report.questsRun + 1 }, world })
      | (.ok (), _) =>
        afterAttempt env plan template budget trainee place rest session
          (attempt env.unhalted plan template trainee session.world) := by
  cases hcheck : env.check session.world with
  | mk permit checked =>
      cases permit with
      | error halt => simp only [afterAttempt, attempt, hcheck, settle, noteAttempt]
      | ok _ =>
          have hattempt : attempt env plan template trainee session.world =
              attempt env.unhalted plan template trainee session.world := by
            unfold attempt
            rw [Environment.check_unhalted, hcheck]
            rfl
          simp only [hattempt]

theorem agentHalts_of_complete {trainee : Trainee} {quest : Quest} {world : ω} {halt : Halt}
    (h : (complete env plan trainee template quest world).1 = .error (.halted halt)) :
    env.AgentHalts halt := by
  unfold complete at h
  split at h
  · cases h
  · split at h
    · rename_i hexecute
      cases h
      exact ⟨_, _, _, congrArg Prod.fst hexecute⟩
    · split at h
      · cases h
      · simp only at h
        split at h <;> cases h

/-- No permit that never ends halts an attempt; only the agent at work may. -/
theorem agentHalts_of_attempt {trainee : Trainee} {world : ω} {halt : Halt}
    (h : (attempt env.unhalted plan template trainee world).1 = .error (.halted halt)) :
    env.AgentHalts halt := by
  have hattempted := attempted_attempt env.unhalted plan template trainee world
  rw [h] at hattempted
  generalize (attempt env.unhalted plan template trainee world).2 = after at hattempted
  cases hattempted with
  | halted hcheck => cases hcheck
  | abandoned _ _ _ hcomplete =>
      have hmade : (complete env plan trainee template _ _).1 = _ := congrArg Prod.fst hcomplete
      exact agentHalts_of_complete env plan template hmade

theorem halted_of_settle {trainee : Trainee} {place : Nat} {outcome : Except AttemptError Receipt}
    {session : Session ω} {halt : Halt}
    (h : (settle env template budget trainee place outcome session).1 = .error halt) :
    outcome = .error (.halted halt) := by
  cases outcome with
  | ok receipt => cases h
  | error e =>
      cases e with
      | halted told =>
          cases h
          rfl
      | board e | execution text | judge e => cases h

theorem paced_roundInTurn (trainees : List (Trainee × Nat)) (session : Session ω) :
    env.Paced Eq Session.world session.world
      (roundInTurn env plan template budget trainees session)
      (roundInTurn env.unhalted plan template budget trainees session) := by
  induction trainees generalizing session with
  | nil => exact .idle .nothing (.ok _)
  | cons pair rest ih =>
      obtain ⟨trainee, place⟩ := pair
      rw [roundInTurn_cons, roundInTurn_cons, afterAttempt_attempt env]
      refine .job (.attempt plan template trainee) ?_ ?_
      · generalize hmade : attempt env.unhalted plan template trainee session.world = made
        have hact : (Job.attempt plan template trainee).act env session.world = made.2 :=
          congrArg Prod.snd hmade
        have hsettled := idles_settle env template budget trainee place made.1
          { session with world := made.2 }
        have hown : ∀ halt, (settle env template budget trainee place made.1
            { session with world := made.2 }).1 = .error halt → env.AgentHalts halt := by
          intro halt hhalt
          apply agentHalts_of_attempt env plan template
          rw [hmade]
          exact halted_of_settle env template budget hhalt
        rw [hact]
        simp only [afterAttempt, settle_unhalted]
        generalize settle env template budget trainee place made.1 _ = settling at hsettled hown ⊢
        obtain ⟨answer, settled⟩ := settling
        cases answer with
        | error halt =>
            refine .idle hsettled ?_
            rintro _ _ ⟨⟩ ⟨⟩
            exact hown halt rfl
        | ok done => exact .after_idling hsettled (ih settled)
      · intro halt after
        exact ⟨⟨halt, rfl, rfl⟩, rfl⟩

theorem paced_rounds (hturn : plan.concurrency ≤ 1) (fuel : Nat) (selector : Selector)
    (session : Session ω) :
    env.Paced Eq Session.world session.world
      (rounds env plan budget fuel selector session)
      (rounds env.unhalted plan budget fuel selector session) := by
  induction fuel generalizing selector session with
  | zero => exact .idle .nothing (.ok _)
  | succ fuel ih =>
      unfold rounds
      split
      · exact .idle .nothing (.ok _)
      · refine .ask ?_ ?_
        · simp only [Environment.check_unhalted]
          split
          · exact .idle .nothing (.ok _)
          · split
            · exact .idle .nothing (.ok _)
            · rename_i template next _
              have hround := paced_roundInTurn env plan template budget
                (pending session.trainees) { session with world := (env.check session.world).2 }
              simp only [round, if_pos hturn]
              generalize roundInTurn env plan template budget _ _ = one at hround ⊢
              generalize roundInTurn env.unhalted plan template budget _ _ = other at hround ⊢
              revert one other
              refine Environment.Paced.next ?_ ?_
              · rintro ⟨answer, settled⟩ hown
                cases answer with
                | error halt => exact .idle .nothing hown
                | ok done => exact ih next settled
              · rintro halt _ state rfl
                exact ⟨⟨halt, rfl, rfl⟩, rfl⟩
        · intro halt after
          exact ⟨⟨halt, rfl, rfl⟩, rfl⟩

theorem paced_train (hturn : plan.concurrency ≤ 1) (curriculum : Curriculum)
    (session : Session ω) :
    env.Paced Eq Session.world session.world (train env plan curriculum session)
      (train env.unhalted plan curriculum session) :=
  paced_rounds env plan _ hturn _ _ session

end Training

namespace Arena

variable (env : Environment ω) (plan : ArenaPlan) (dryRun idempotent : Bool)

theorem paced_ready (session : Session ω) :
    env.Paced SeedError.Tells Session.world session.world
      (ready env plan dryRun idempotent session)
      (ready env.unhalted plan dryRun idempotent session) := by
  unfold ready
  refine .ask ?_ ?_
  · simp only [Environment.check_unhalted, Environment.folder_unhalted]
    split
    · exact .idle .nothing (.error nofun)
    · have hprepared := paced_prepare env plan dryRun idempotent 0
        (plan.profiles.zip (plan.targets.tierGoals plan.profiles.length))
        { session with world := (env.check session.world).2 }
      generalize prepare env plan dryRun idempotent 0 _ _ = one at hprepared ⊢
      generalize prepare env.unhalted plan dryRun idempotent 0 _ _ = other at hprepared ⊢
      revert one other
      refine Environment.Paced.next ?_ ?_
      · rintro ⟨answer, prepared⟩ hown
        cases answer with
        | error e => exact .idle .nothing (hown.relay fun _ => id)
        | ok done =>
            have hmentored : env.Paced SeedError.Tells Session.world prepared.world
                (if plan.mentored then ensureMentors env plan dryRun prepared
                  else (.ok (), prepared))
                (if plan.mentored then ensureMentors env.unhalted plan dryRun prepared
                  else (.ok (), prepared)) := by
              split
              · exact paced_ensureMentors env plan dryRun prepared
              · exact .idle .nothing (.ok _)
            simp only
            generalize (if plan.mentored then ensureMentors env plan dryRun prepared
              else (.ok (), prepared)) = one at hmentored ⊢
            generalize (if plan.mentored then ensureMentors env.unhalted plan dryRun prepared
              else (.ok (), prepared)) = other at hmentored ⊢
            revert one other
            refine Environment.Paced.next ?_ ?_
            · rintro ⟨answer, opening⟩ hown
              cases answer with
              | error e => exact .idle .nothing (hown.relay fun _ => id)
              | ok mentored => exact .idle .nothing (.ok _)
            · rintro halt _ state rfl
              exact ⟨⟨_, rfl, rfl⟩, rfl⟩
      · rintro halt _ state rfl
        exact ⟨⟨_, rfl, rfl⟩, rfl⟩
  · intro halt after
    exact ⟨⟨_, rfl, rfl⟩, rfl⟩

theorem paced_phases (hturn : plan.concurrency ≤ 1) (session : Session ω) :
    env.Paced SeedError.Tells Session.world session.world
      (phases env plan dryRun idempotent session)
      (phases env.unhalted plan dryRun idempotent session) := by
  have hready := paced_ready env plan dryRun idempotent session
  rw [phases_eq, phases_eq]
  generalize ready env plan dryRun idempotent session = one at hready ⊢
  generalize ready env.unhalted plan dryRun idempotent session = other at hready ⊢
  revert one other
  refine Environment.Paced.next ?_ ?_
  · rintro ⟨answer, opening⟩ hown
    cases answer with
    | error e => exact .idle .nothing (hown.relay fun _ => id)
    | ok curriculum =>
        simp only
        split
        · exact .idle .nothing (.ok _)
        · have htrained := Training.paced_train env plan hturn curriculum opening
          generalize Training.train env plan curriculum opening = one at htrained ⊢
          generalize Training.train env.unhalted plan curriculum opening = other at htrained ⊢
          revert one other
          refine Environment.Paced.next ?_ ?_
          · rintro ⟨answer, last⟩ hown
            cases answer with
            | error halt => exact .idle .nothing (hown.relay fun _ => SeedError.eq_of_tells)
            | ok done => exact .idle .nothing (.ok _)
          · rintro halt _ state rfl
            exact ⟨⟨_, rfl, rfl⟩, rfl⟩
  · rintro halt _ state rfl
    exact ⟨⟨_, rfl, rfl⟩, rfl⟩

theorem success_of_run_error {world : ω} {failure : Failure}
    (h : (run env plan dryRun idempotent world).1 = .error failure) :
    failure.partialReport.success = false := by
  unfold run at h
  simp only at h
  split at h
  · cases h
    rfl
  · split at h <;> cases h
    rfl

theorem paced_run (hturn : plan.concurrency ≤ 1) (world : ω) :
    env.Paced Failure.Tells id world (run env plan dryRun idempotent world)
      (run env.unhalted plan dryRun idempotent world) := by
  unfold run
  cases plan.validate with
  | error fault => exact .idle .nothing (.error nofun)
  | ok valid =>
      have hphases := paced_phases env plan dryRun idempotent hturn (.start dryRun world)
      unfold Session.start at hphases
      simp only
      generalize phases env plan dryRun idempotent _ = one at hphases ⊢
      generalize phases env.unhalted plan dryRun idempotent _ = other at hphases ⊢
      revert one other
      refine Environment.Paced.next ?_ ?_
      · rintro ⟨answer, last⟩ hown
        cases answer with
        | error e => exact .idle .nothing (hown.relay fun _ => id)
        | ok done =>
            simp only
            split
            · exact .idle .nothing (.ok _)
            · exact .idle (Environment.idles_refreshAll env last.trainees last.world) (.ok _)
      · rintro halt _ state rfl
        exact ⟨⟨_, rfl, rfl⟩, rfl⟩

end Arena

namespace Rehearsal

def Revoked (world : Rehearsal) : Prop := world.permit.revoked = true

section Revoking

variable {world : Rehearsal}

theorem revoked_callStore {α : Type} (call : String) (op : Store → Except StoreError α × Store)
    (h : Revoked world) : Revoked (callStore call op world).2 := by
  unfold callStore
  simp only
  split <;> exact h

theorem revoked_callBoard {α : Type} (call : String)
    {op : Board → Rehearsal → Except BoardError α × Board × Rehearsal}
    (hop : ∀ {board world}, Revoked world → Revoked (op board world).2.2) (h : Revoked world) :
    Revoked (callBoard call op world).2 := by
  unfold callBoard
  simp only
  split
  · exact h
  · exact hop h

theorem revoked_revokeIf (condition : Bool) (h : Revoked world) :
    Revoked (revokeIf condition world) := by
  unfold revokeIf
  split
  · rfl
  · exact h

theorem trades_revoked (space : String) :
    Board.Trades (storeAccess space) Revoked fun _ => True where
  listAgents := revoked_callStore "list_all_agents" Store.listAgents
  listed := fun _ _ _ _ => trivial
  putAgent := fun _ => revoked_callStore "put_agent" _
  withStatus := fun _ _ => trivial
  applyVerdict := fun _ _ _ => trivial

theorem preserves_revoked (space : String) (folder : Folder) (script : Script) :
    (environment space folder script).Preserves Revoked where
  putAgent := fun _ => revoked_callStore "put_agent" _
  getAgent := fun key => revoked_callStore "get_agent" (Store.getAgent key)
  listAgents := revoked_callStore "list_all_agents" Store.listAgents
  putGuild := fun id guild => revoked_callStore "put_guild" (Store.putGuild id guild)
  updateGuild := fun id change => revoked_callStore "update_guild" (Store.updateGuild id change)
  post := fun _ _ => revoked_callBoard "post" id
  claim := fun questId agentId _ =>
    revoked_callBoard "claim" ((trades_revoked space).claim questId agentId)
  start := fun _ _ => revoked_callBoard "start" id
  submit := fun questId output verdict _ =>
    revoked_callBoard "submit" ((trades_revoked space).submit questId output verdict)
  abandon := fun questId _ =>
    revoked_callBoard "abandon" ((trades_revoked space).abandon questId)
  judge := fun _ _ _ _ h => h
  check := fun h => h
  report := by
    intro event world h
    simp only [environment, report]
    split
    · exact h
    · exact revoked_revokeIf _ h
  execute := by
    intro agent quest world h
    simp only [environment, execute]
    split
    · exact h
    · split <;> exact revoked_revokeIf _ h

theorem check_revoked (h : Revoked world) : world.permit.check = .error .cancelled := by
  unfold Permit.check
  rw [h]
  rfl

end Revoking

end Rehearsal

namespace SeedPlan

variable {env : Environment ω} {plan : SeedPlan}

theorem success_of_run_error {world : ω} {failure : Failure}
    (h : (plan.run env world).1 = .error failure) : failure.partialReport.success = false := by
  unfold run at h
  split at h
  · cases h
    rfl
  · exact Arena.success_of_run_error env _ plan.dryRun plan.idempotent h
  · exact Roster.success_of_seed_error env plan.dryRun plan.idempotent h

theorem paced_run (hturn : ∀ arena, plan.task = .ok (.train arena) → arena.concurrency ≤ 1)
    (world : ω) :
    env.Paced Failure.Tells id world (plan.run env world) (plan.run env.unhalted world) := by
  unfold run
  cases htask : plan.task with
  | error fault => exact .idle .nothing (.error nofun)
  | ok task =>
      cases task with
      | train arena =>
          exact Arena.paced_run env arena plan.dryRun plan.idempotent (hturn arena htask) world
      | place roster => exact Roster.paced_seed env plan.dryRun plan.idempotent roster world

/-- Once leave is gone for good, a run begins no job any more: the job during which it went, if
there was one, is the last. Unless the run comes to what it comes to under a permit that never ends,
it was refused leave and fails with that halt; it leaves store and board as the longer run has them
after the same jobs. A permit that never ends lets no run fail like this, unless an agent does. -/
theorem run_until_halted {view : HallView ω} (hosts : env.Hosts view) {Gone : ω → Prop}
    (hgone : env.Preserves Gone)
    (hrefused : ∀ world, Gone world → ∃ halt, (env.check world).1 = .error halt)
    (hturn : ∀ arena, plan.task = .ok (.train arena) → arena.concurrency ≤ 1) (world : ω) :
    ∃ done rest : List (Piece ω),
      env.Stretch world done (plan.run env world).2 ∧
      env.unhalted.Stretch world (done ++ rest) (plan.run env.unhalted world).2 ∧
      (Gone world → done = []) ∧ (∀ piece ∈ done, ¬ Gone piece.asked) ∧
      (∀ earlier piece later, done = earlier ++ piece :: later → Gone piece.after → later = []) ∧
      view.hall (plan.run env world).2 = view.hall (Piece.reached world done) ∧
      ((plan.run env world = plan.run env.unhalted world ∧ rest = []) ∨
        env.Refused Failure.Tells world done (plan.run env world).2 (plan.run env world).1) ∧
      env.OnlyAgentsHalt Failure.Tells (plan.run env.unhalted world).1 ∧
      ∀ failure, (plan.run env world).1 = .error failure →
        failure.partialReport.success = false := by
  obtain ⟨done, rest, hdone, hall, hend, hown⟩ := paced_run hturn world
  exact ⟨done, rest, hdone, hall, hdone.eq_nil_of_gone hrefused hgone, hdone.not_gone hrefused,
    fun _ _ _ hlog hpiece => hdone.last_of_gone hrefused hgone hlog hpiece,
    hdone.hall_eq hosts, hend, hown, fun _ => success_of_run_error⟩

theorem arena_of_task {arena : ArenaPlan} (h : plan.task = .ok (.train arena)) :
    plan.arena = some arena := by
  unfold task at h
  split at h <;> split at h
  · cases h
  · rename_i arena harena
    split at h
    · cases h
    · cases h
      exact harena
  · cases h
  · split at h <;> cases h

/-- The second of three attempts takes the permit away. Its quest is still completed, the third is
never posted. -/
theorem run_until_halted_scouts :
    let env := Rehearsal.environment Store.defaultSpace []
      { revokeOnEvent := none, revokingExecutions := [2], failingExecutions := [],
        failingAgents := [], failureText := "", scorer := .default, silent := false }
    let plan : SeedPlan :=
      { mode := .trainingArena, dryRun := false, idempotent := true, arena := some Arena.scouts,
        roster := none }
    let world := Rehearsal.onStore .empty
    let after := (plan.run env world).2
    (env.Preserves Rehearsal.Revoked ∧
      (∀ world, Rehearsal.Revoked world → ∃ halt, (env.check world).1 = .error halt) ∧
      ∀ arena, plan.task = .ok (.train arena) → arena.concurrency ≤ 1) ∧
    (∃ done rest : List (Piece Rehearsal),
      env.Stretch world done after ∧
      env.unhalted.Stretch world (done ++ rest) (plan.run env.unhalted world).2 ∧
      (Rehearsal.Revoked world → done = []) ∧ (∀ piece ∈ done, ¬ Rehearsal.Revoked piece.asked) ∧
      (∀ earlier piece later, done = earlier ++ piece :: later → Rehearsal.Revoked piece.after →
        later = []) ∧
      Rehearsal.hallView.hall after = Rehearsal.hallView.hall (Piece.reached world done) ∧
      ((plan.run env world = plan.run env.unhalted world ∧ rest = []) ∨
        env.Refused Failure.Tells world done after (plan.run env world).1) ∧
      env.OnlyAgentsHalt Failure.Tells (plan.run env.unhalted world).1 ∧
      ∀ failure, (plan.run env world).1 = .error failure →
        failure.partialReport.success = false) ∧
    after.board.quests.map Quest.status = [.completed, .completed] ∧
    (plan.run env.unhalted world).2.board.quests.length = 3 := by
  intro env plan world after
  have hrefused : ∀ world, Rehearsal.Revoked world → ∃ halt, (env.check world).1 = .error halt :=
    fun _ hworld => ⟨_, Rehearsal.check_revoked hworld⟩
  have hturn : ∀ arena, plan.task = .ok (.train arena) → arena.concurrency ≤ 1 := by
    intro arena htask
    rw [← Option.some.inj (arena_of_task htask)]
    decide +kernel
  have hgone : env.Preserves Rehearsal.Revoked := Rehearsal.preserves_revoked _ _ _
  exact ⟨⟨hgone, hrefused, hturn⟩,
    run_until_halted (Rehearsal.hosts _ _ _) hgone hrefused hturn world,
    by decide +kernel, by decide +kernel⟩

end SeedPlan

end QuestAcademy
