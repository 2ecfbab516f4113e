import QuestAcademy.Arena

/-!
Runs over richer worlds. Of each world of one environment there may be shown a world of another one.
When every single call answers alike in both, and changes the world that is shown as it changes a
world of the other, whole runs do too: `Shows.seed` says so of rosters and `Shows.run` of arenas.
-/

namespace QuestAcademy

variable {σ ω : Type}

/-- The first call answers as the second one does, and changes what is shown of its world alike. -/
def AsShown {α : Type} (shown : σ → ω) (call : σ → α × σ) (other : ω → α × ω) : Prop :=
  ∀ world, other (shown world) = ((call world).1, shown (call world).2)

def Session.shown (shown : σ → ω) (session : Session σ) : Session ω :=
  { trainees := session.trainees, report := session.report, world := shown session.world }

namespace Environment

/-- All calls of the first environment go as those of the second one do. -/
structure Shows (env : Environment σ) (shown : σ → ω) (other : Environment ω) : Prop where
  space : other.store.space = env.store.space
  folder : other.folder = env.folder
  putAgent : ∀ key agent,
    AsShown shown (env.store.putAgent key agent) (other.store.putAgent key agent)
  getAgent : ∀ key, AsShown shown (env.store.getAgent key) (other.store.getAgent key)
  listAgents : AsShown shown env.store.listAgents other.store.listAgents
  putGuild : ∀ id guild,
    AsShown shown (env.store.putGuild id guild) (other.store.putGuild id guild)
  updateGuild : ∀ id change,
    AsShown shown (env.store.updateGuild id change) (other.store.updateGuild id change)
  report : ∀ event world, other.report event (shown world) = shown (env.report event world)
  check : AsShown shown env.check other.check
  post : ∀ draft, AsShown shown (env.board.post draft) (other.board.post draft)
  claim : ∀ questId agentId,
    AsShown shown (env.board.claim questId agentId) (other.board.claim questId agentId)
  start : ∀ questId, AsShown shown (env.board.start questId) (other.board.start questId)
  submit : ∀ questId output verdict,
    AsShown shown (env.board.submit questId output verdict)
      (other.board.submit questId output verdict)
  abandon : ∀ questId, AsShown shown (env.board.abandon questId) (other.board.abandon questId)
  execute : ∀ agent quest, AsShown shown (env.execute agent quest) (other.execute agent quest)
  judge : ∀ strictness template output,
    AsShown shown (env.judge strictness template output) (other.judge strictness template output)

variable {env : Environment σ} {shown : σ → ω} {other : Environment ω}

section Rosters

variable (h : env.Shows shown other) (dryRun idempotent : Bool)
include h

theorem Shows.findByName (name : String) :
    AsShown shown (env.store.findByName name) (other.store.findByName name) := by
  intro world
  unfold StoreAccess.findByName
  rw [h.listAgents world]
  obtain ⟨_ | _, _⟩ := env.store.listAgents world <;> rfl

theorem Shows.found (charter : GuildCharter) :
    AsShown shown (Roster.found env.store charter) (Roster.found other.store charter) := by
  intro world
  unfold Roster.found
  rw [h.putGuild _ _ world]
  obtain ⟨_ | _, _⟩ := env.store.putGuild charter.id charter.toGuild world <;> rfl

theorem Shows.place (batch : AgentBatch) (name : String) :
    AsShown shown (Roster.place env.store batch name) (Roster.place other.store batch name) := by
  intro world
  simp only [Roster.place, StoreAccess.agentId, h.space]
  generalize batch.build (entityId env.store.space (instanceKey name)) name = agent
  cases batch.guildId with
  | none =>
      simp only [h.putAgent _ _ world]
      obtain ⟨_ | _, _⟩ := env.store.putAgent (instanceKey name) agent world <;> rfl
  | some guildId =>
      simp only [h.putAgent _ _ world]
      obtain ⟨_ | _, stored⟩ := env.store.putAgent (instanceKey name) _ world
      · rfl
      · simp only [h.updateGuild _ _ stored]
        obtain ⟨_ | _, left⟩ := env.store.updateGuild guildId _ stored
        · simp only [h.putAgent _ _ left]
          obtain ⟨_ | _, _⟩ := env.store.putAgent (instanceKey name) _ left <;> rfl
        · rfl

theorem Shows.placeNew (batch : AgentBatch) (name : String) :
    AsShown shown (Roster.placeNew env.store idempotent batch name)
      (Roster.placeNew other.store idempotent batch name) := by
  intro world
  unfold Roster.placeNew
  split
  · rw [h.findByName name world]
    obtain ⟨_ | _ | _, asked⟩ := env.store.findByName name world
    · rfl
    · exact h.place batch name asked
    · rfl
  · exact h.place batch name world

theorem Shows.seedGuilds (total done : Nat) (charters : List GuildCharter) (report : Report)
    (world : σ) :
    Roster.seedGuilds other dryRun total done charters report (shown world) =
      Prod.map id (Prod.map id shown)
        (Roster.seedGuilds env dryRun total done charters report world) := by
  induction charters generalizing done report world with
  | nil => rfl
  | cons charter rest ih =>
      simp only [Roster.seedGuilds]
      rw [h.check world]
      obtain ⟨_ | _, checked⟩ := env.check world
      · rfl
      · simp only [h.report]
        split
        · exact ih _ _ _
        · rw [h.found charter (env.report _ checked)]
          exact ih _ _ _

theorem Shows.seedAgents (total done : Nat) (items : List (AgentBatch × String)) (report : Report)
    (world : σ) :
    Roster.seedAgents other dryRun idempotent total done items report (shown world) =
      Prod.map id (Prod.map id shown)
        (Roster.seedAgents env dryRun idempotent total done items report world) := by
  induction items generalizing done report world with
  | nil => rfl
  | cons item rest ih =>
      simp only [Roster.seedAgents, StoreAccess.agentId, h.space]
      rw [h.check world]
      obtain ⟨_ | _, checked⟩ := env.check world
      · rfl
      · simp only [h.report]
        split
        · exact ih _ _ _
        · rw [h.placeNew idempotent item.1 item.2 (env.report _ checked)]
          exact ih _ _ _

theorem Shows.seed (plan : RosterPlan) :
    AsShown shown (Roster.seed env plan dryRun idempotent)
      (Roster.seed other plan dryRun idempotent) := by
  intro world
  unfold Roster.seed
  simp only
  split
  · rfl
  · rw [h.seedGuilds]
    obtain ⟨_ | _, _, founded⟩ := Roster.seedGuilds env dryRun plan.charters.length 0 plan.charters
      (Report.start .tieredRoster dryRun) world
    · rfl
    · simp only [Prod.map, id, h.seedAgents]
      obtain ⟨_ | _, _, _⟩ := Roster.seedAgents env dryRun idempotent plan.agentCount 0 plan.items _
        founded <;> rfl

end Rosters

section Trainings

variable (h : env.Shows shown other) (plan : ArenaPlan) (template : Template) (budget : Nat)
include h

theorem Shows.complete (trainee : Trainee) (quest : Quest) :
    AsShown shown (Training.complete env plan trainee template quest)
      (Training.complete other plan trainee template quest) := by
  intro world
  unfold Training.complete
  rw [h.start quest.id world]
  obtain ⟨_ | _, started⟩ := env.board.start quest.id world
  · rfl
  · simp only [h.execute trainee.agent quest started]
    obtain ⟨_ | output, executed⟩ := env.execute trainee.agent quest started
    · rfl
    · simp only [h.judge plan.strictness template output executed]
      obtain ⟨_ | judgement, judged⟩ := env.judge plan.strictness template output executed
      · rfl
      · simp only [h.submit quest.id output _ judged]
        obtain ⟨_ | _, _⟩ := env.board.submit quest.id output _ judged <;> rfl

theorem Shows.attempt (trainee : Trainee) :
    AsShown shown (Training.attempt env plan template trainee)
      (Training.attempt other plan template trainee) := by
  intro world
  unfold Training.attempt
  rw [h.check world]
  obtain ⟨_ | _, checked⟩ := env.check world
  · rfl
  · simp only [h.post _ checked]
    obtain ⟨_ | quest, posted⟩ := env.board.post (Training.draft plan trainee template) checked
    · rfl
    · simp only [h.claim quest.id trainee.agent.id posted]
      obtain ⟨_ | _, claimed⟩ := env.board.claim quest.id trainee.agent.id posted
      · rfl
      · simp only [h.complete plan template trainee quest claimed]
        obtain ⟨_ | _, completed⟩ :=
          Training.complete env plan trainee template quest claimed
        · simp only [h.abandon quest.id completed]
        · rfl

theorem Shows.refresh (trainee : Trainee) :
    AsShown shown (Training.refresh env.store trainee) (Training.refresh other.store trainee) := by
  intro world
  unfold Training.refresh
  rw [h.getAgent trainee.key world]
  obtain ⟨_ | _, _⟩ := env.store.getAgent trainee.key world <;> rfl

theorem Shows.settle (trainee : Trainee) (place : Nat) (outcome : Except AttemptError Receipt) :
    AsShown (Session.shown shown) (Training.settle env template budget trainee place outcome)
      (Training.settle other template budget trainee place outcome) := by
  intro session
  simp only [Training.settle, Session.shown]
  obtain ⟨_ | _, report⟩ := Training.noteAttempt session.report trainee template outcome
  · rfl
  · simp only [h.report, h.refresh trainee (env.report _ session.world)]

theorem Shows.roundInTurn (trainees : List (Trainee × Nat)) :
    AsShown (Session.shown shown) (Training.roundInTurn env plan template budget trainees)
      (Training.roundInTurn other plan template budget trainees) := by
  induction trainees with
  | nil => exact fun _ => rfl
  | cons pair rest ih =>
      intro session
      simp only [Training.roundInTurn]
      -- Both attempts end alike, so both are settled with the same outcome.
      rw [show (session.shown shown).world = shown session.world from rfl,
        h.attempt plan template pair.1 session.world]
      obtain ⟨outcome, attempted⟩ := Training.attempt env plan template pair.1 session.world
      have hsettled := h.settle template budget pair.1 pair.2 outcome
        { session with world := attempted }
      simp only [Session.shown] at hsettled ⊢
      rw [hsettled]
      obtain ⟨_ | _, settled⟩ := Training.settle env template budget pair.1 pair.2 outcome
        { session with world := attempted }
      · rfl
      · exact ih settled

theorem Shows.attemptAll (trainees : List (Trainee × Nat)) :
    AsShown shown (Training.attemptAll env plan template trainees)
      (Training.attemptAll other plan template trainees) := by
  induction trainees with
  | nil => exact fun _ => rfl
  | cons pair rest ih =>
      intro world
      simp only [Training.attemptAll]
      rw [h.attempt plan template pair.1 world]
      simp only [ih (Training.attempt env plan template pair.1 world).2]

theorem Shows.settleAll
    (outcomes : List ((Trainee × Nat) × Except AttemptError Receipt)) :
    AsShown (Session.shown shown) (Training.settleAll env template budget outcomes)
      (Training.settleAll other template budget outcomes) := by
  induction outcomes with
  | nil => exact fun _ => rfl
  | cons item rest ih =>
      intro session
      simp only [Training.settleAll]
      rw [h.settle template budget item.1.1 item.1.2 item.2 session]
      obtain ⟨_ | _, settled⟩ :=
        Training.settle env template budget item.1.1 item.1.2 item.2 session
      · rfl
      · exact ih settled

theorem Shows.round (trainees : List (Trainee × Nat)) :
    AsShown (Session.shown shown) (Training.round env plan template budget trainees)
      (Training.round other plan template budget trainees) := by
  intro session
  by_cases hturn : plan.concurrency ≤ 1
  · simp only [Training.round, hturn, if_true]
    exact h.roundInTurn plan template budget trainees session
  · simp only [Training.round, hturn, if_false, Session.shown,
      h.attemptAll plan template trainees session.world]
    exact h.settleAll template budget _
      { session with world := (Training.attemptAll env plan template trainees session.world).2 }

theorem Shows.rounds (fuel : Nat) (selector : Selector) :
    AsShown (Session.shown shown) (Training.rounds env plan budget fuel selector)
      (Training.rounds other plan budget fuel selector) := by
  induction fuel generalizing selector with
  | zero => exact fun _ => rfl
  | succ fuel ih =>
      intro session
      by_cases hspent : budget ≤ session.report.questsRun
      · simp only [Training.rounds, Session.shown, hspent, if_true]
      · simp only [Training.rounds, Session.shown, hspent, if_false]
        rw [h.check session.world]
        obtain ⟨_ | _, checked⟩ := env.check session.world
        · rfl
        · by_cases hready : session.trainees.all Trainee.atTarget
          · simp only [hready, if_true]
          · simp only [hready]
            obtain ⟨_ | template, chosen⟩ :=
              selector.choose (Trainee.averageLevel session.trainees)
            · rfl
            · have hround := h.round plan template budget (Training.pending session.trainees)
                { session with world := checked }
              simp only [Session.shown] at hround ⊢
              rw [hround]
              obtain ⟨_ | _, played⟩ := Training.round env plan template budget
                (Training.pending session.trainees) { session with world := checked }
              · rfl
              · exact ih chosen played

theorem Shows.train (curriculum : Curriculum) :
    AsShown (Session.shown shown) (Training.train env plan curriculum)
      (Training.train other plan curriculum) :=
  fun session => h.rounds plan (Training.budget plan session.trainees.length) _ _ session

end Trainings

section Arenas

variable (h : env.Shows shown other) (plan : ArenaPlan) (dryRun idempotent : Bool)
include h

theorem Shows.prepareOne (profile : TraineeProfile) (name : String) :
    AsShown shown (Arena.prepareOne env.store dryRun idempotent profile name)
      (Arena.prepareOne other.store dryRun idempotent profile name) := by
  intro world
  -- The ids of new agents come from the space, which both stores share.
  have hagent : Arena.newTrainee other.store profile name =
      Arena.newTrainee env.store profile name := by
    simp only [Arena.newTrainee, StoreAccess.agentId, h.space]
  have hput : ∀ world, other.store.putAgent (instanceKey name)
      (Arena.newTrainee env.store profile name) (shown world) = _ :=
    h.putAgent (instanceKey name) (Arena.newTrainee env.store profile name)
  cases dryRun with
  | true => simp only [Arena.prepareOne, hagent, if_true]
  | false =>
      simp only [Arena.prepareOne, hagent, Bool.false_eq_true, if_false]
      cases idempotent with
      | false =>
          simp only [Bool.false_eq_true, if_false, hput]
          obtain ⟨_ | _, _⟩ := env.store.putAgent (instanceKey name)
            (Arena.newTrainee env.store profile name) world <;> rfl
      | true =>
          simp only [if_true, h.findByName name world]
          obtain ⟨_ | _ | _, asked⟩ := env.store.findByName name world
          · rfl
          · simp only [hput]
            obtain ⟨_ | _, _⟩ := env.store.putAgent (instanceKey name)
              (Arena.newTrainee env.store profile name) asked <;> rfl
          · rfl

theorem Shows.prepare (done : Nat) (profiles : List (TraineeProfile × Nat)) :
    AsShown (Session.shown shown) (Arena.prepare env plan dryRun idempotent done profiles)
      (Arena.prepare other plan dryRun idempotent done profiles) := by
  induction profiles generalizing done with
  | nil => exact fun _ => rfl
  | cons pair rest ih =>
      intro session
      simp only [Arena.prepare, Session.shown]
      rw [h.check session.world]
      obtain ⟨_ | _, checked⟩ := env.check session.world
      · rfl
      · simp only [h.report]
        rw [h.prepareOne dryRun idempotent pair.1 _ (env.report _ checked)]
        obtain ⟨_ | preparation, prepared⟩ := Arena.prepareOne env.store dryRun idempotent pair.1 _
          (env.report _ checked)
        · rfl
        · have henlisted := ih (done + 1) (Arena.enlist (pair.1.traineeName (done + 1))
            plan.targets.convergenceLevel preparation { session with world := prepared })
          cases preparation <;> exact henlisted

theorem Shows.findMentors (excluded : List String) :
    AsShown shown (Mentors.find env.store excluded) (Mentors.find other.store excluded) := by
  intro world
  unfold Mentors.find
  rw [h.listAgents world]
  obtain ⟨_ | _, _⟩ := env.store.listAgents world <;> rfl

theorem Shows.spawnMentors (excluded : List String) :
    AsShown (Session.shown shown) (Arena.spawnMentors env plan dryRun excluded)
      (Arena.spawnMentors other plan dryRun excluded) := by
  intro session
  simp only [Arena.spawnMentors, Session.shown]
  rw [h.listAgents session.world]
  obtain ⟨_ | stored, listed⟩ := env.store.listAgents session.world
  · rfl
  · simp only [h.seed dryRun true _ listed]
    obtain ⟨_ | spawned, placed⟩ := Roster.seed env _ dryRun true listed
    · rfl
    · simp only
      split
      · rfl
      · rw [h.findMentors excluded placed]
        obtain ⟨_ | _, _⟩ := Mentors.find env.store excluded placed <;> rfl

theorem Shows.resolveMentors :
    AsShown (Session.shown shown) (Arena.resolveMentors env plan dryRun)
      (Arena.resolveMentors other plan dryRun) := by
  intro session
  simp only [Arena.resolveMentors, Session.shown]
  generalize (session.trainees.map fun trainee => trainee.agent.id) = excluded
  rw [h.findMentors excluded session.world]
  obtain ⟨_ | found, asked⟩ := Mentors.find env.store excluded session.world
  · rfl
  · cases found with
    | cons => rfl
    | nil =>
        simp only [List.isEmpty_nil, Bool.not_true, Bool.false_eq_true, if_false]
        split
        · rfl
        · exact h.spawnMentors plan dryRun excluded { session with world := asked }

theorem Shows.ensureMentors :
    AsShown (Session.shown shown) (Arena.ensureMentors env plan dryRun)
      (Arena.ensureMentors other plan dryRun) := by
  intro session
  unfold Arena.ensureMentors
  rw [h.resolveMentors plan dryRun session]
  obtain ⟨(_ | _ | _) | _ | _, _⟩ := Arena.resolveMentors env plan dryRun session <;> rfl

theorem Shows.mentored :
    AsShown (Session.shown shown)
      (fun session => if plan.mentored then Arena.ensureMentors env plan dryRun session
        else (.ok (), session))
      (fun session => if plan.mentored then Arena.ensureMentors other plan dryRun session
        else (.ok (), session)) := by
  intro session
  simp only
  split
  · exact h.ensureMentors plan dryRun session
  · rfl

theorem Shows.phases :
    AsShown (Session.shown shown) (Arena.phases env plan dryRun idempotent)
      (Arena.phases other plan dryRun idempotent) := by
  intro session
  simp only [Arena.phases, Session.shown, h.folder]
  rw [h.check session.world]
  obtain ⟨_ | _, checked⟩ := env.check session.world
  · rfl
  · simp only
    split
    · rfl
    · rename_i curriculum _
      have hprepared := h.prepare plan dryRun idempotent 0
        (plan.profiles.zip (plan.targets.tierGoals plan.profiles.length))
        { session with world := checked }
      simp only [Session.shown] at hprepared
      rw [hprepared]
      obtain ⟨_ | _, prepared⟩ := Arena.prepare env plan dryRun idempotent 0
        (plan.profiles.zip (plan.targets.tierGoals plan.profiles.length))
        { session with world := checked }
      · rfl
      · have hmentored := h.mentored plan dryRun prepared
        simp only [Session.shown] at hmentored ⊢
        rw [hmentored]
        obtain ⟨_ | _, opening⟩ :=
          if plan.mentored then Arena.ensureMentors env plan dryRun prepared else (.ok (), prepared)
        · rfl
        · cases dryRun with
          | true => rfl
          | false =>
              have htrained := h.train plan curriculum opening
              simp only [Session.shown] at htrained
              simp only [Bool.false_eq_true, if_false, htrained]
              obtain ⟨_ | _, _⟩ := Training.train env plan curriculum opening <;> rfl

theorem Shows.refreshAll (trainees : List Trainee) :
    AsShown shown (Arena.refreshAll env.store trainees)
      (Arena.refreshAll other.store trainees) := by
  induction trainees with
  | nil => exact fun _ => rfl
  | cons trainee rest ih =>
      intro world
      simp only [Arena.refreshAll]
      rw [h.refresh trainee world]
      simp only [ih (Training.refresh env.store trainee world).2]

theorem Shows.run :
    AsShown shown (Arena.run env plan dryRun idempotent)
      (Arena.run other plan dryRun idempotent) := by
  intro world
  unfold Arena.run
  simp only
  split
  · rfl
  · have hphases := h.phases plan dryRun idempotent
      { trainees := [], report := Report.start .trainingArena dryRun, world }
    simp only [Session.shown] at hphases
    rw [hphases]
    obtain ⟨_ | _, ended⟩ := Arena.phases env plan dryRun idempotent
      { trainees := [], report := Report.start .trainingArena dryRun, world }
    · rfl
    · simp only
      split
      · rfl
      · simp only [h.refreshAll ended.trainees ended.world]

end Arenas

end Environment

end QuestAcademy
