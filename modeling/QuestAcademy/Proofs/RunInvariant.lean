import QuestAcademy.Arena
import QuestAcademy.Proofs.Progression
import QuestAcademy.Proofs.TrainingInvariant

/-!
What runs keep. A property of worlds that every single call keeps is kept by whole runs, whatever
the calls answer. `Preserves.seed` and `Preserves.run` say so of rosters and of arenas.
-/

namespace QuestAcademy

variable {ω : Type}

/-- Every call that is made outside of trainings keeps the property. Agents are put into the store
only as they start. -/
structure Environment.PreservesSeeding (env : Environment ω) (P : ω → Prop) : Prop where
  putAgent : ∀ {key agent world}, agent.Starts env.store.space key → P world →
    P (env.store.putAgent key agent world).2
  getAgent : ∀ key {world}, P world → P (env.store.getAgent key world).2
  listAgents : ∀ {world}, P world → P (env.store.listAgents world).2
  putGuild : ∀ id guild {world}, P world → P (env.store.putGuild id guild world).2
  updateGuild : ∀ id change {world}, P world → P (env.store.updateGuild id change world).2
  report : ∀ event {world}, P world → P (env.report event world)
  check : ∀ {world}, P world → P (env.check world).2

/-- Every call that a run makes keeps the property. -/
structure Environment.Preserves (env : Environment ω) (P : ω → Prop) : Prop extends
    env.PreservesSeeding P where
  post : ∀ draft {world}, P world → P (env.board.post draft world).2
  claim : ∀ questId agentId {world}, P world → P (env.board.claim questId agentId world).2
  start : ∀ questId {world}, P world → P (env.board.start questId world).2
  submit : ∀ questId output verdict {world}, P world →
    P (env.board.submit questId output verdict world).2
  abandon : ∀ questId {world}, P world → P (env.board.abandon questId world).2
  execute : ∀ agent quest {world}, P world → P (env.execute agent quest world).2
  judge : ∀ strictness template output {world}, P world →
    P (env.judge strictness template output world).2

namespace Environment

variable {env : Environment ω} {P : ω → Prop} {world : ω} {session : Session ω}

theorem PreservesSeeding.findByName (h : env.PreservesSeeding P) (name : String)
    (hworld : P world) : P (env.store.findByName name world).2 := by
  have hlisted := h.listAgents hworld
  unfold StoreAccess.findByName
  split <;> rename_i heq <;> rw [heq] at hlisted <;> exact hlisted

section Rosters

theorem PreservesSeeding.found (h : env.PreservesSeeding P) (charter : GuildCharter)
    (hworld : P world) : P (Roster.found env.store charter world).2 := by
  have hput := h.putGuild charter.id charter.toGuild hworld
  unfold Roster.found
  split <;> rename_i heq <;> rw [heq] at hput <;> exact hput

theorem PreservesSeeding.foundUnless (h : env.PreservesSeeding P) (dryRun : Bool)
    (charter : GuildCharter) (hworld : P world) :
    P (if dryRun then (.founded, world) else Roster.found env.store charter world).2 := by
  split
  · exact hworld
  · exact h.found charter hworld

theorem PreservesSeeding.place (h : env.PreservesSeeding P) (batch : AgentBatch) (name : String)
    (hworld : P world) : P (Roster.place env.store batch name world).2 := by
  have hstarts := batch.starts_build env.store.space name
  simp only [Roster.place, StoreAccess.agentId]
  generalize batch.build (entityId env.store.space (instanceKey name)) name = agent at hstarts
  have hguilds : ∀ guilds, { agent with guilds }.Starts env.store.space (instanceKey name) :=
    fun guilds => hstarts.with _ guilds _ _
  cases batch.guildId with
  | none =>
      have hput := h.putAgent hstarts hworld
      simp only
      split <;> rename_i heq <;> rw [heq] at hput <;> exact hput
  | some guildId =>
      have hput := h.putAgent (hguilds (Names.insert guildId agent.guilds)) hworld
      simp only
      split <;> rename_i heq <;> rw [heq] at hput
      · exact hput
      · have hjoined := h.updateGuild guildId (fun guild => guild.addMember agent.id) hput
        split <;> rename_i hjoin <;> rw [hjoin] at hjoined
        · exact hjoined
        · have hdropped := h.putAgent
            (hguilds (Names.erase guildId (Names.insert guildId agent.guilds))) hjoined
          split <;> rename_i hdrop <;> rw [hdrop] at hdropped <;> exact hdropped

theorem PreservesSeeding.placeNew (h : env.PreservesSeeding P) (idempotent : Bool)
    (batch : AgentBatch) (name : String) (hworld : P world) :
    P (Roster.placeNew env.store idempotent batch name world).2 := by
  unfold Roster.placeNew
  split
  · have hfound := h.findByName name hworld
    split <;> rename_i heq <;> rw [heq] at hfound
    · exact hfound
    · exact hfound
    · exact h.place batch name hfound
  · exact h.place batch name hworld

theorem PreservesSeeding.placeNewUnless (h : env.PreservesSeeding P) (dryRun idempotent : Bool)
    (batch : AgentBatch) (name : String) (placement : Placement) (hworld : P world) :
    P (if dryRun then (placement, world)
      else Roster.placeNew env.store idempotent batch name world).2 := by
  split
  · exact hworld
  · exact h.placeNew idempotent batch name hworld

theorem PreservesSeeding.seedGuilds (h : env.PreservesSeeding P) (dryRun : Bool) (total done : Nat)
    (charters : List GuildCharter) (report : Report) (hworld : P world) :
    P (Roster.seedGuilds env dryRun total done charters report world).2.2 := by
  induction charters generalizing done report world with
  | nil => exact hworld
  | cons charter rest ih =>
      have hchecked := h.check hworld
      rw [Roster.seedGuilds]
      split <;> rename_i heq <;> rw [heq] at hchecked
      · exact hchecked
      · have hreported := h.report (Roster.foundingEvent charter (done + 1) total) hchecked
        exact ih _ _ (h.foundUnless dryRun charter hreported)

theorem PreservesSeeding.seedAgents (h : env.PreservesSeeding P) (dryRun idempotent : Bool)
    (total done : Nat) (items : List (AgentBatch × String)) (report : Report) (hworld : P world) :
    P (Roster.seedAgents env dryRun idempotent total done items report world).2.2 := by
  induction items generalizing done report world with
  | nil => exact hworld
  | cons item rest ih =>
      obtain ⟨batch, name⟩ := item
      have hchecked := h.check hworld
      rw [Roster.seedAgents]
      split <;> rename_i heq <;> rw [heq] at hchecked
      · exact hchecked
      · have hreported := h.report (Roster.placingEvent name (done + 1) total) hchecked
        exact ih _ _ (h.placeNewUnless dryRun idempotent batch name _ hreported)

theorem PreservesSeeding.seed (h : env.PreservesSeeding P) (plan : RosterPlan)
    (dryRun idempotent : Bool) (hworld : P world) :
    P (Roster.seed env plan dryRun idempotent world).2 := by
  unfold Roster.seed
  simp only
  split
  · exact hworld
  · have hguilds := h.seedGuilds dryRun plan.charters.length 0 plan.charters
      (Report.start .tieredRoster dryRun) hworld
    split <;> rename_i heq <;> rw [heq] at hguilds
    · exact hguilds
    · rename_i report founded
      have hagents := h.seedAgents dryRun idempotent plan.agentCount 0 plan.items report hguilds
      split <;> rename_i hseeded <;> rw [hseeded] at hagents <;> exact hagents

end Rosters

section Trainings

variable (plan : ArenaPlan) (template : Template) (budget : Nat)

theorem Preserves.complete (h : env.Preserves P) (trainee : Trainee) (quest : Quest)
    (hworld : P world) : P (Training.complete env plan trainee template quest world).2 := by
  have hstarted := h.start quest.id hworld
  unfold Training.complete
  split <;> rename_i heq <;> rw [heq] at hstarted
  · exact hstarted
  · have hexecuted := h.execute trainee.agent quest hstarted
    split <;> rename_i hexecute <;> rw [hexecute] at hexecuted
    · exact hexecuted
    · rename_i output _
      have hjudged := h.judge plan.strictness template output hexecuted
      split <;> rename_i hjudge <;> rw [hjudge] at hjudged
      · exact hjudged
      · rename_i judgement _
        have hsubmitted := h.submit quest.id output (judgement.toVerdict
          (Training.baseExperience template.difficulty plan.multiplier)) hjudged
        simp only
        split <;> rename_i hsubmit <;> rw [hsubmit] at hsubmitted <;> exact hsubmitted

theorem Preserves.attempt (h : env.Preserves P) (trainee : Trainee) (hworld : P world) :
    P (Training.attempt env plan template trainee world).2 := by
  have hchecked := h.check hworld
  unfold Training.attempt
  split <;> rename_i heq <;> rw [heq] at hchecked
  · exact hchecked
  · have hposted := h.post (Training.draft plan trainee template) hchecked
    split <;> rename_i hpost <;> rw [hpost] at hposted
    · exact hposted
    · rename_i quest _
      have hclaimed := h.claim quest.id trainee.agent.id hposted
      split <;> rename_i hclaim <;> rw [hclaim] at hclaimed
      · exact hclaimed
      · have hcompleted := h.complete plan template trainee quest hclaimed
        split <;> rename_i hcomplete <;> rw [hcomplete] at hcompleted
        · exact hcompleted
        · exact h.abandon quest.id hcompleted

theorem PreservesSeeding.refresh (h : env.PreservesSeeding P) (trainee : Trainee)
    (hworld : P world) : P (Training.refresh env.store trainee world).2 := by
  have hread := h.getAgent trainee.key hworld
  unfold Training.refresh
  split <;> rename_i heq <;> rw [heq] at hread <;> exact hread

theorem PreservesSeeding.settle (h : env.PreservesSeeding P) (trainee : Trainee) (place : Nat)
    (outcome : Except AttemptError Receipt) (session : Session ω) (hworld : P session.world) :
    P (Training.settle env template budget trainee place outcome session).2.world := by
  unfold Training.settle
  split
  · exact hworld
  · exact h.refresh trainee (h.report _ hworld)

theorem Preserves.upholds (h : env.Preserves P) :
    Training.Upholds env plan (fun session => P session.world) fun _ => True where
  trainees := fun _ _ _ => trivial
  check := fun hworld => h.check hworld
  attempt := fun template trainee _ _ hworld => h.attempt plan template trainee hworld
  settle := fun template budget place outcome trainee session _ hworld =>
    h.settle template budget trainee place outcome session hworld
  noteError := fun _ _ hworld => hworld

end Trainings

section Arenas

variable (plan : ArenaPlan) (dryRun idempotent : Bool)

theorem starts_newTrainee (store : StoreAccess ω) (profile : TraineeProfile) (name : String) :
    (Arena.newTrainee store profile name).Starts store.space (instanceKey name) :=
  (Agent.starts_create store.space name Level.lowest).with (Names.ofList profile.skills) [] false
    profile.modelSettings

theorem PreservesSeeding.prepareOne (h : env.PreservesSeeding P) (profile : TraineeProfile)
    (name : String) (hworld : P world) :
    P (Arena.prepareOne env.store dryRun idempotent profile name world).2 := by
  have hlookup : P (if idempotent then env.store.findByName name world
      else (.ok none, world)).2 := by
    split
    · exact h.findByName name hworld
    · exact hworld
  unfold Arena.prepareOne
  simp only
  split
  · exact hworld
  · split <;> rename_i heq <;> rw [heq] at hlookup
    · exact hlookup
    · exact hlookup
    · have hput := h.putAgent (starts_newTrainee env.store profile name) hlookup
      split <;> rename_i hmade <;> rw [hmade] at hput <;> exact hput

theorem world_enlist (name : String) (target : Nat) (preparation : Arena.Preparation)
    (session : Session ω) :
    (Arena.enlist name target preparation session).world = session.world := by
  cases preparation <;> rfl

theorem PreservesSeeding.prepare (h : env.PreservesSeeding P) (done : Nat)
    (profiles : List (TraineeProfile × Nat)) (session : Session ω) (hworld : P session.world) :
    P (Arena.prepare env plan dryRun idempotent done profiles session).2.world := by
  induction profiles generalizing done session with
  | nil => exact hworld
  | cons pair rest ih =>
      obtain ⟨profile, goal⟩ := pair
      have hchecked := h.check hworld
      rw [Arena.prepare]
      split <;> rename_i heq <;> rw [heq] at hchecked
      · exact hchecked
      · have hreported := h.report
          (Arena.preparingEvent (profile.traineeName (done + 1)) (done + 1) plan.profiles.length)
          hchecked
        have hprepared := h.prepareOne dryRun idempotent profile (profile.traineeName (done + 1))
          hreported
        simp only
        split <;> rename_i hmade <;> rw [hmade] at hprepared
        · exact hprepared
        · apply ih
          rw [world_enlist]
          exact hprepared

theorem PreservesSeeding.findMentors (h : env.PreservesSeeding P) (excluded : List String)
    (hworld : P world) : P (Mentors.find env.store excluded world).2 := by
  have hlisted := h.listAgents hworld
  unfold Mentors.find
  split <;> rename_i heq <;> rw [heq] at hlisted <;> exact hlisted

theorem PreservesSeeding.spawnMentors (h : env.PreservesSeeding P) (excluded : List String)
    (session : Session ω) (hworld : P session.world) :
    P (Arena.spawnMentors env plan dryRun excluded session).2.world := by
  have hlisted := h.listAgents hworld
  unfold Arena.spawnMentors
  split <;> rename_i heq <;> rw [heq] at hlisted
  · exact hlisted
  · rename_i stored listed
    have hspawned := h.seed (Mentors.roster plan.bootstrapMentors
      (Mentors.nextOrdinal (stored.map (fun agent => agent.name)
        ++ session.trainees.map fun trainee => trainee.agent.name))) dryRun true hlisted
    simp only
    split <;> rename_i hseed <;> rw [hseed] at hspawned
    · exact hspawned
    · split
      · exact hspawned
      · have hfound := h.findMentors excluded hspawned
        split <;> rename_i hfind <;> rw [hfind] at hfound <;> exact hfound

theorem PreservesSeeding.resolveMentors (h : env.PreservesSeeding P) (hworld : P session.world) :
    P (Arena.resolveMentors env plan dryRun session).2.world := by
  have hfound := h.findMentors (session.trainees.map fun trainee => trainee.agent.id) hworld
  unfold Arena.resolveMentors
  simp only
  split <;> rename_i heq <;> rw [heq] at hfound
  · exact hfound
  · split
    · exact hfound
    · split
      · exact hfound
      · exact h.spawnMentors plan dryRun _ _ hfound

theorem PreservesSeeding.ensureMentors (h : env.PreservesSeeding P) (hworld : P session.world) :
    P (Arena.ensureMentors env plan dryRun session).2.world := by
  have hresolved := h.resolveMentors plan dryRun hworld
  unfold Arena.ensureMentors
  split <;> rename_i heq <;> rw [heq] at hresolved <;> exact hresolved

theorem Preserves.phases (h : env.Preserves P) (session : Session ω) (hworld : P session.world) :
    P (Arena.phases env plan dryRun idempotent session).2.world := by
  have hchecked := h.check hworld
  unfold Arena.phases
  split <;> rename_i heq <;> rw [heq] at hchecked
  · exact hchecked
  · split
    · exact hchecked
    · rename_i checked _ curriculum _
      have hprepared := h.prepare plan dryRun idempotent 0
        (plan.profiles.zip (plan.targets.tierGoals plan.profiles.length))
        { session with world := checked } hchecked
      simp only
      split <;> rename_i hprepare <;> rw [hprepare] at hprepared
      · exact hprepared
      · rename_i ready
        have hmentored : P (if plan.mentored then Arena.ensureMentors env plan dryRun ready
            else (.ok (), ready)).2.world := by
          split
          · exact h.ensureMentors plan dryRun hprepared
          · exact hprepared
        split <;> rename_i hmentor <;> rw [hmentor] at hmentored
        · exact hmentored
        · rename_i opening
          split
          · exact hmentored
          · have htrained := (h.upholds plan).rounds (Training.budget plan opening.trainees.length)
              (Training.budget plan opening.trainees.length)
              (Selector.create curriculum plan.selection) hmentored
            simp only [Training.train]
            split <;> rename_i htrain <;> rw [htrain] at htrained <;> exact htrained

theorem PreservesSeeding.refreshAll (h : env.PreservesSeeding P) (trainees : List Trainee)
    (hworld : P world) : P (Arena.refreshAll env.store trainees world).2 := by
  induction trainees generalizing world with
  | nil => exact hworld
  | cons trainee rest ih => exact ih (h.refresh trainee hworld)

theorem Preserves.run (h : env.Preserves P) (hworld : P world) :
    P (Arena.run env plan dryRun idempotent world).2 := by
  unfold Arena.run
  simp only
  split
  · exact hworld
  · have hphases := h.phases plan dryRun idempotent
      { trainees := [], report := Report.start .trainingArena dryRun, world } hworld
    split <;> rename_i heq <;> rw [heq] at hphases
    · exact hphases
    · split
      · exact hphases
      · exact h.refreshAll _ hphases

end Arenas

end Environment

end QuestAcademy
