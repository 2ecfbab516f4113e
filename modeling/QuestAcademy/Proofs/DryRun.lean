import QuestAcademy.Proofs.QuestAccounting
import QuestAcademy.Proofs.RosterAccounting
import QuestAcademy.Proofs.WorkLog

/-!
Dry runs. A dry run asks for leave, announces what it would do and lists the agents of the store; it
makes no other call. The proof exchanges all other calls for those of another environment, which
changes nothing in a dry run. `SeedPlan.run_of_dryRun` says what this comes to.
-/

namespace QuestAcademy

variable {ω : Type}

namespace Environment

/-- Asks, announces and lists agents as the first environment does, and leaves everything else to
the other one: the writes, the reading of a single agent or guild, the board and the work on
quests. -/
def doneBy (env other : Environment ω) : Environment ω :=
  { other with
    store := { other.store with space := env.store.space, listAgents := env.store.listAgents }
    report := env.report
    check := env.check
    folder := env.folder }

def answerOf {α : Type} (call : ω → α × ω) (world : ω) : α × ω :=
  ((call world).1, world)

/-- The same environment, in which the calls that are left to others do nothing. -/
def still (env : Environment ω) : Environment ω :=
  { env with
    store := { env.store with
      putAgent := fun key agent => answerOf (env.store.putAgent key agent)
      getAgent := fun key => answerOf (env.store.getAgent key)
      putGuild := fun id guild => answerOf (env.store.putGuild id guild)
      getGuild := fun id => answerOf (env.store.getGuild id)
      updateGuild := fun id change => answerOf (env.store.updateGuild id change) }
    board := {
      post := fun draft => answerOf (env.board.post draft)
      claim := fun questId agentId => answerOf (env.board.claim questId agentId)
      start := fun questId => answerOf (env.board.start questId)
      submit := fun questId output verdict => answerOf (env.board.submit questId output verdict)
      abandon := fun questId => answerOf (env.board.abandon questId) }
    execute := fun agent quest => answerOf (env.execute agent quest)
    judge := fun strictness template output => answerOf (env.judge strictness template output) }

section Exchange

variable (env other : Environment ω)

@[simp] theorem check_doneBy : (env.doneBy other).check = env.check := rfl

@[simp] theorem report_doneBy : (env.doneBy other).report = env.report := rfl

@[simp] theorem folder_doneBy : (env.doneBy other).folder = env.folder := rfl

@[simp] theorem listAgents_doneBy :
    (env.doneBy other).store.listAgents = env.store.listAgents := rfl

@[simp] theorem agentId_doneBy : (env.doneBy other).store.agentId = env.store.agentId := rfl

@[simp] theorem newTrainee_doneBy :
    Arena.newTrainee (env.doneBy other).store = Arena.newTrainee env.store := rfl

@[simp] theorem find_doneBy :
    Mentors.find (env.doneBy other).store = Mentors.find env.store := rfl

/-- Asking, announcing and listing is all that is left when the other calls do nothing. -/
theorem preserves_idles (world : ω) : (env.doneBy env.still).Preserves (env.Idles world) where
  putAgent := fun _ hidle => hidle
  getAgent := fun _ _ hidle => hidle
  listAgents := fun hidle => hidle.listAgents
  putGuild := fun _ _ _ hidle => hidle
  updateGuild := fun _ _ _ hidle => hidle
  report := fun event _ hidle => hidle.report event
  check := fun hidle => hidle.check
  post := fun _ _ hidle => hidle
  claim := fun _ _ _ hidle => hidle
  start := fun _ _ hidle => hidle
  submit := fun _ _ _ _ hidle => hidle
  abandon := fun _ _ hidle => hidle
  execute := fun _ _ _ hidle => hidle
  judge := fun _ _ _ _ hidle => hidle

end Exchange

end Environment

namespace Roster

variable (env other : Environment ω) (idempotent : Bool)

theorem seedGuilds_doneBy (total done : Nat) (charters : List GuildCharter) (report : Report)
    (world : ω) :
    seedGuilds (env.doneBy other) true total done charters report world =
      seedGuilds env true total done charters report world := by
  induction charters generalizing done report world with
  | nil => rfl
  | cons charter rest ih => simp [seedGuilds, ih]

theorem seedAgents_doneBy (total done : Nat) (items : List (AgentBatch × String))
    (report : Report) (world : ω) :
    seedAgents (env.doneBy other) true idempotent total done items report world =
      seedAgents env true idempotent total done items report world := by
  induction items generalizing done report world with
  | nil => rfl
  | cons item rest ih => simp [seedAgents, ih]

theorem seed_doneBy (plan : RosterPlan) (world : ω) :
    seed (env.doneBy other) plan true idempotent world = seed env plan true idempotent world := by
  simp only [seed, seedGuilds_doneBy, seedAgents_doneBy]

theorem isSkipped_of_tries {total number : Nat} {items : List (AgentBatch × String)}
    {world after : ω} {log : List (Trial (AgentBatch × String) Placement ω)}
    {result : Except Halt Unit}
    (htries : TriesAgents env true idempotent total number items world log result after) :
    (log.countP fun trial => trial.upshot.isSkipped) = 0 := by
  refine List.countP_eq_zero.mpr fun trial htrial => ?_
  have hplaced := congrArg Prod.fst (htries.act_eq trial htrial)
  rw [placeUnless, if_pos rfl] at hplaced
  rw [← show _ = trial.upshot from hplaced]
  exact Bool.false_ne_true

theorem counts_seed_of_dryRun (plan : RosterPlan) (world : ω) :
    let report := Arena.reportOf (seed env plan true idempotent world).1
    report.quests = (0, 0) ∧ report.agentsSkipped = 0 := by
  simp only
  cases hvalid : plan.validate with
  | error fault =>
      simp only [seed, hvalid]
      exact ⟨rfl, rfl⟩
  | ok done =>
      obtain ⟨log, result, after, htried, hseed⟩ :=
        tried_seed env plan true idempotent hvalid world
      have hnone : (log.agents.countP fun trial => trial.upshot.isSkipped) = 0 := by
        cases htried with
        | halted => rfl
        | chartered _ hagents => exact isSkipped_of_tries env idempotent hagents
      rw [hseed, Log.notedIn_start, hnone]
      cases result <;> exact ⟨rfl, rfl⟩

end Roster

namespace Arena

variable (env other : Environment ω) (plan : ArenaPlan) (idempotent : Bool)

section Exchange

theorem prepareOne_doneBy (profile : TraineeProfile) (name : String) (world : ω) :
    prepareOne (env.doneBy other).store true idempotent profile name world =
      prepareOne env.store true idempotent profile name world := by
  simp [prepareOne]

theorem prepare_doneBy (done : Nat) (profiles : List (TraineeProfile × Nat))
    (session : Session ω) :
    prepare (env.doneBy other) plan true idempotent done profiles session =
      prepare env plan true idempotent done profiles session := by
  induction profiles generalizing done session with
  | nil => rfl
  | cons pair rest ih =>
      simp only [prepare, prepareOne_doneBy, Environment.check_doneBy,
        Environment.report_doneBy, ih]

theorem spawnMentors_doneBy (excluded : List String) (session : Session ω) :
    spawnMentors (env.doneBy other) plan true excluded session =
      spawnMentors env plan true excluded session := by
  simp only [spawnMentors, Roster.seed_doneBy, Environment.listAgents_doneBy, if_true]

theorem resolveMentors_doneBy (session : Session ω) :
    resolveMentors (env.doneBy other) plan true session = resolveMentors env plan true session := by
  simp only [resolveMentors, spawnMentors_doneBy, Environment.find_doneBy]

theorem phases_doneBy (session : Session ω) :
    phases (env.doneBy other) plan true idempotent session =
      phases env plan true idempotent session := by
  simp only [phases, ensureMentors, prepare_doneBy, resolveMentors_doneBy,
    Environment.check_doneBy, Environment.folder_doneBy, if_true]

theorem run_doneBy (world : ω) :
    run (env.doneBy other) plan true idempotent world = run env plan true idempotent world := by
  simp only [run, phases_doneBy, if_true]

end Exchange

section Counts

theorem skipped_prepare_of_dryRun (done : Nat) (profiles : List (TraineeProfile × Nat))
    (session : Session ω) :
    (prepare env plan true idempotent done profiles session).2.report.agentsSkipped =
      session.report.agentsSkipped := by
  induction profiles generalizing done session with
  | nil => rfl
  | cons pair rest ih =>
      rw [prepare]
      split
      · rfl
      · simp only [prepareOne, if_true, ih]
        rfl

theorem skipped_spawnMentors_of_dryRun (excluded : List String) (session : Session ω) :
    (spawnMentors env plan true excluded session).2.report.agentsSkipped =
      session.report.agentsSkipped := by
  unfold spawnMentors
  split
  · rfl
  · rename_i stored listed _
    have hnone := (Roster.counts_seed_of_dryRun env true
      (Mentors.roster plan.bootstrapMentors (Mentors.nextOrdinal
        (stored.map (fun agent => agent.name)
          ++ session.trainees.map fun trainee => trainee.agent.name))) listed).2
    simp only [if_true]
    split <;> rename_i hseed
    · rfl
    · rw [hseed] at hnone
      exact congrArg (session.report.agentsSkipped + ·) hnone

theorem skipped_ensureMentors_of_dryRun (session : Session ω) :
    (ensureMentors env plan true session).2.report.agentsSkipped =
      session.report.agentsSkipped := by
  have hresolved : (resolveMentors env plan true session).2.report.agentsSkipped =
      session.report.agentsSkipped := by
    unfold resolveMentors
    simp only
    split
    · rfl
    · split
      · rfl
      · split
        · rfl
        · exact skipped_spawnMentors_of_dryRun env plan _ _
  unfold ensureMentors
  split <;> rename_i heq <;> rw [heq] at hresolved <;> exact hresolved

theorem skipped_ready_of_dryRun (session : Session ω) :
    (ready env plan true idempotent session).2.report.agentsSkipped =
      session.report.agentsSkipped := by
  unfold ready
  split
  · rfl
  · split
    · rfl
    · rename_i checked _ _ _ _
      have hprepared := skipped_prepare_of_dryRun env plan idempotent 0
        (plan.profiles.zip (plan.targets.tierGoals plan.profiles.length))
        { session with world := checked }
      simp only
      split <;> rename_i hprepare <;> rw [hprepare] at hprepared
      · exact hprepared
      · rename_i prepared
        have hmentored : (if plan.mentored then ensureMentors env plan true prepared
            else (.ok (), prepared)).2.report.agentsSkipped = prepared.report.agentsSkipped := by
          split
          · exact skipped_ensureMentors_of_dryRun env plan prepared
          · rfl
        split <;> rename_i heq <;> rw [heq] at hmentored <;> exact hmentored.trans hprepared

theorem counts_run_of_dryRun (world : ω) :
    let report := reportOf (run env plan true idempotent world).1
    report.quests = (0, 0) ∧ report.agentsSkipped = 0 := by
  have hquests := quests_ready env plan true idempotent (.start true world)
  have hskipped := skipped_ready_of_dryRun env plan idempotent (.start true world)
  have hphases := phases_eq env plan true idempotent (.start true world)
  simp only [run]
  split
  · exact ⟨rfl, rfl⟩
  · cases hready : ready env plan true idempotent (.start true world) with
    | mk answer opening =>
        rw [hready] at hquests hskipped hphases
        cases answer with
        | error e =>
            split <;> rename_i heq <;> cases heq.symm.trans hphases
            exact ⟨hquests, hskipped⟩
        | ok curriculum =>
            split <;> rename_i heq <;> cases heq.symm.trans hphases
            exact ⟨hquests, hskipped⟩

end Counts

end Arena

namespace SeedPlan

variable {env : Environment ω} {view : HallView ω} {plan : SeedPlan}

theorem run_doneBy (other : Environment ω) (hdry : plan.dryRun = true) (world : ω) :
    plan.run (env.doneBy other) world = plan.run env world := by
  unfold run
  rw [hdry]
  split
  · rfl
  · exact Arena.run_doneBy env other _ _ world
  · exact Roster.seed_doneBy env other _ _ world

theorem idles_of_dryRun (hdry : plan.dryRun = true) (world : ω) :
    env.Idles world (plan.run env world).2 := by
  have hkeeps := Environment.preserves_idles env world
  rw [← run_doneBy env.still hdry]
  unfold run
  split
  · exact .nothing
  · exact hkeeps.run _ _ _ .nothing
  · exact hkeeps.seed _ _ _ .nothing

theorem counts_of_dryRun (hdry : plan.dryRun = true) (world : ω) :
    (Arena.reportOf (plan.run env world).1).quests = (0, 0) ∧
      (Arena.reportOf (plan.run env world).1).agentsSkipped = 0 := by
  unfold run
  rw [hdry]
  split
  · exact ⟨rfl, rfl⟩
  · exact Arena.counts_run_of_dryRun env _ _ world
  · exact Roster.counts_seed_of_dryRun env _ _ world

/-- A dry run, whatever it is asked to do, whatever the store answers and whenever leave ends, only
asks, announces and lists agents. So it leaves the hall as it is; it is the same whatever the
writes, the board and the work on quests would do; and it reports no quest and no agent that was
left alone. -/
theorem run_of_dryRun (hosts : env.Hosts view) (hdry : plan.dryRun = true) (world : ω) :
    env.Idles world (plan.run env world).2 ∧
      view.hall (plan.run env world).2 = view.hall world ∧
      (∀ other, plan.run (env.doneBy other) world = plan.run env world) ∧
      (Arena.reportOf (plan.run env world).1).quests = (0, 0) ∧
      (Arena.reportOf (plan.run env world).1).agentsSkipped = 0 :=
  have hidle := idles_of_dryRun hdry world
  ⟨hidle, hidle.hall_eq hosts, fun other => run_doneBy other hdry world,
    counts_of_dryRun hdry world⟩

/-- The dry run would prepare three scouts and two mentors. It does not see that one scout is stored
already. -/
theorem run_of_dryRun_scouts :
    let plan : SeedPlan :=
      { mode := .trainingArena, dryRun := true, idempotent := true
        arena := some { Arena.scouts with mentored := true, bootstrapMentors := 2 }
        roster := none }
    let world := Rehearsal.onStore .scouted
    let after := (plan.run Rehearsal.quiet world).2
    (Rehearsal.quiet.Hosts Rehearsal.hallView ∧ plan.dryRun = true) ∧
      (Rehearsal.quiet.Idles world after ∧
        Rehearsal.hallView.hall after = Rehearsal.hallView.hall world ∧
        (∀ other, plan.run (Rehearsal.quiet.doneBy other) world = plan.run Rehearsal.quiet world) ∧
        (Arena.reportOf (plan.run Rehearsal.quiet world).1).quests = (0, 0) ∧
        (Arena.reportOf (plan.run Rehearsal.quiet world).1).agentsSkipped = 0) ∧
      ((plan.run Rehearsal.quiet world).1.toOption.map fun report =>
        (report.agentsCreated, report.npcsSpawned)) = some (5, 2) := by
  intro plan world after
  exact ⟨⟨Rehearsal.hosts_quiet, rfl⟩, run_of_dryRun Rehearsal.hosts_quiet rfl world,
    by decide +kernel⟩

end SeedPlan

end QuestAcademy
