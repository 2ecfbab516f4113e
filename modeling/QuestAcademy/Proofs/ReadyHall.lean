import QuestAcademy.Proofs.ArenaCourse
import QuestAcademy.Proofs.HallReads
import QuestAcademy.Proofs.HostedCalls
import QuestAcademy.Proofs.QuestLifecycle
import QuestAcademy.Proofs.RunInvariant

namespace QuestAcademy

variable {ω : Type}

/-- A working store whose agents are where they belong, and a board with numbered quests. -/
structure Hall.Ready (space : String) (hall : Hall) : Prop where
  keyed : hall.store.WellKeyed space
  working : hall.store.Working
  numbered : hall.board.Numbered

def Trainee.Keyed (space : String) (trainee : Trainee) : Prop :=
  trainee.agent.id = entityId space trainee.key

namespace Hall

variable {space : String} {hall after : Hall} {call : BoardCall}
  {answer : Except BoardError BoardAnswer}

theorem Ready.withGuilds (h : hall.Ready space) (guilds : List (String × Guild)) :
    Ready space { hall with store := { hall.store with guilds } } :=
  ⟨⟨⟨h.keyed.sound, h.keyed.key⟩, h.keyed.id⟩, ⟨h.working.reads, h.working.writes⟩, h.numbered⟩

theorem Ready.save (h : hall.Ready space) {board : Board} (hboard : board.Numbered) {id : String}
    {old agent : Agent} (hold : hall.store.load? id = some old) (hname : agent.name = old.name)
    (hid : agent.id = old.id) : Ready space { board, store := hall.store.save agent } := by
  obtain ⟨key, hkey, -⟩ := (h.keyed.load?_eq_some_iff h.working.reads).mp hold
  exact ⟨(h.keyed.save_changed hkey hname hid).2, h.working.save agent, hboard⟩

theorem Ready.step (h : hall.Ready space) (hstep : hall.Step call answer after) :
    after.Ready space := by
  cases hstep with
  | refused => exact h
  | posted => exact ⟨h.keyed, h.working, h.numbered.add _⟩
  | @claimed questId agentId _ _ _ _ _ hagent =>
      have hboard : (hall.board.assign questId agentId).Numbered :=
        h.numbered.change questId fun _ => rfl
      exact h.save hboard hagent rfl rfl
  | claimUnsaved => exact ⟨h.keyed, h.working, h.numbered.change _ fun _ => rfl⟩
  | started => exact ⟨h.keyed, h.working, h.numbered.change _ fun _ => rfl⟩
  | @settled questId output verdict _ _ agent _ _ _ _ hagent =>
      have hboard : (hall.board.settle questId output verdict).Numbered :=
        h.numbered.change questId fun _ => rfl
      exact h.save hboard hagent (Board.name_applyVerdict _ _ agent)
        (Board.id_applyVerdict _ _ agent)
  | unsettled => exact ⟨h.keyed, h.working, h.numbered.change _ fun _ => rfl⟩
  | withdrawn => exact ⟨h.keyed, h.working, h.numbered.withdraw _ _⟩
  | released _ _ _ hagent => exact h.save (h.numbered.withdraw _ _) hagent rfl rfl
  | unreleased => exact ⟨h.keyed, h.working, h.numbered.withdraw _ _⟩

end Hall

namespace Environment

variable {env : Environment ω} {view : HallView ω} {world : ω}

/-- Nothing is made to fail, and the hall is ready. -/
def HallReady (env : Environment ω) (view : HallView ω) (world : ω) : Prop :=
  view.works world ∧ (view.hall world).Ready env.store.space

section Keeping

variable {Q : Hall → Prop}

theorem keeps_onStore {α : Type} {call : ω → Except StoreError α × ω}
    {op : Store → Except StoreError α × Store} (hcall : view.OnStore call op)
    (hop : ∀ hall : Hall, Q hall → Q { hall with store := (op hall.store).2 })
    (h : view.works world ∧ Q (view.hall world)) :
    view.works (call world).2 ∧ Q (view.hall (call world).2) := by
  obtain ⟨-, hhall, hafter⟩ := hcall.hall_eq h.1
  refine ⟨hafter, ?_⟩
  rw [hhall]
  exact hop _ h.2

theorem keeps_unseen {change : ω → ω} (hchange : view.Unseen change)
    (h : view.works world ∧ Q (view.hall world)) :
    view.works (change world) ∧ Q (view.hall (change world)) := by
  obtain ⟨hhall, hworks⟩ := hchange world
  refine ⟨hworks h.1, ?_⟩
  rw [hhall]
  exact h.2

theorem Hosts.preservesSeeding (hosts : env.Hosts view)
    (hsave : ∀ (hall : Hall) (agent : Agent),
      agent.id = entityId env.store.space (instanceKey agent.name) → Q hall →
      Q { hall with store := hall.store.save agent })
    (hguilds : ∀ (hall : Hall) (guilds : List (String × Guild)), Q hall →
      Q { hall with store := { hall.store with guilds } }) :
    env.PreservesSeeding fun world => view.works world ∧ Q (view.hall world) where
  putAgent := by
    intro key agent world hstarts hworld
    refine keeps_onStore (hosts.putAgent key agent) ?_ hworld
    intro hall hhall
    have hput : (Store.putAgent key agent hall.store).2 = hall.store.save agent := by
      unfold Store.putAgent Store.save
      rw [hstarts.named]
      split <;> rfl
    rw [hput]
    refine hsave hall agent ?_ hhall
    rw [hstarts.id, hstarts.named]
  getAgent := by
    intro key world hworld
    refine keeps_onStore (hosts.getAgent key) ?_ hworld
    intro hall hhall
    have hsame : (Store.getAgent key hall.store).2 = hall.store := by
      unfold Store.getAgent
      split
      · rfl
      · split <;> rfl
    rw [hsame]
    exact hhall
  listAgents := by
    intro world hworld
    refine keeps_onStore hosts.listAgents ?_ hworld
    intro hall hhall
    have hsame : (Store.listAgents hall.store).2 = hall.store := by
      unfold Store.listAgents
      split <;> rfl
    rw [hsame]
    exact hhall
  putGuild := fun id guild _ hworld =>
    keeps_onStore (hosts.putGuild id guild) (fun hall hhall => hguilds hall _ hhall) hworld
  updateGuild := by
    intro id change world hworld
    refine keeps_onStore (hosts.updateGuild id change) ?_ hworld
    intro hall hhall
    unfold Store.updateGuild
    split
    · exact hguilds hall _ hhall
    · exact hhall
  report := fun event _ hworld => keeps_unseen (hosts.report event) hworld
  check := fun hworld => keeps_unseen hosts.check hworld

end Keeping

theorem HallReady.checked (h : env.HallReady view world) (hosts : env.Hosts view)
    {permit : Except Halt Unit} {after : ω} (hcheck : env.check world = (permit, after)) :
    env.HallReady view after ∧ view.hall after = view.hall world := by
  have hready := keeps_unseen hosts.check h
  have hsame := (hosts.check world).1
  simp only [hcheck] at hready hsame
  exact ⟨hready, hsame⟩

theorem Hosts.ready_perform (hosts : env.Hosts view) (h : env.HallReady view world)
    (call : BoardCall) : env.HallReady view (env.perform world call).2 := by
  obtain ⟨hstep, hworks⟩ := hosts.step h.1 call
  exact ⟨hworks, h.2.step hstep⟩

theorem Hosts.preserves_ready (hosts : env.Hosts view) : env.Preserves (env.HallReady view) where
  toPreservesSeeding := hosts.preservesSeeding
    (fun _ agent hid hhall =>
      ⟨hhall.keyed.save hid, hhall.working.save agent, hhall.numbered⟩)
    fun _ guilds hhall => hhall.withGuilds guilds
  post := fun draft _ hworld => hosts.ready_perform hworld (.post draft)
  claim := fun questId agentId _ hworld => hosts.ready_perform hworld (.claim questId agentId)
  start := fun questId _ hworld => hosts.ready_perform hworld (.start questId)
  submit := fun questId output verdict _ hworld =>
    hosts.ready_perform hworld (.submit questId output verdict)
  abandon := fun questId _ hworld => hosts.ready_perform hworld (.abandon questId)
  execute := fun agent quest _ hworld => keeps_unseen (hosts.execute agent quest) hworld
  judge := fun strictness template output _ hworld =>
    keeps_unseen (hosts.judge strictness template output) hworld

section Trainees

theorem Hosts.keyed_refresh (hosts : env.Hosts view) (h : env.HallReady view world)
    {trainee : Trainee} (htrainee : trainee.Keyed env.store.space) :
    (Training.refresh env.store trainee world).1.Keyed env.store.space := by
  obtain ⟨hanswer, -, -⟩ := (hosts.getAgent trainee.key).hall_eq h.1
  unfold Training.refresh
  split
  · rename_i agent after hget
    rw [hget] at hanswer
    have hread : (Store.getAgent trainee.key (view.hall world).store).1 = .ok agent := hanswer.symm
    simp only [Store.getAgent, h.2.working.reads, Bool.false_eq_true, if_false] at hread
    split at hread
    · rename_i stored hstored
      cases hread
      exact h.2.keyed.id trainee.key agent hstored
    · cases hread
  · exact htrainee

end Trainees

/-- The hall is ready, and all trainees have the ids of their keys. -/
structure SessionReady (env : Environment ω) (view : HallView ω) (session : Session ω) : Prop where
  hall : env.HallReady view session.world
  keyed : ∀ trainee ∈ session.trainees, trainee.Keyed env.store.space

/-- An attempt at a quest of a template, by a trainee who has the id of its key, and in a world
whose hall is ready. -/
structure AttemptReady (env : Environment ω) (view : HallView ω) (plan : ArenaPlan)
    (template : Template) (attempt : Attempt ω) : Prop where
  hall : env.HallReady view attempt.before
  keyed : attempt.trainee.Keyed env.store.space
  made : Training.attempt env plan template attempt.trainee attempt.before =
    (attempt.outcome, attempt.after)

theorem SessionReady.withWorld {session : Session ω} (h : env.SessionReady view session)
    (hworld : env.HallReady view world) : env.SessionReady view { session with world } :=
  ⟨hworld, h.keyed⟩

section Rounds

variable {plan : ArenaPlan} {template : Template} {budget : Nat} {session last : Session ω}
  {result : Except Halt Unit} {attempts : List (Attempt ω)}

theorem Hosts.ready_settle (hosts : env.Hosts view) (h : env.SessionReady view session)
    {trainee : Trainee} {place : Nat} {outcome : Except AttemptError Receipt}
    (htrainee : trainee.Keyed env.store.space)
    (hsettle : Training.settle env template budget trainee place outcome session =
      (result, last)) : env.SessionReady view last := by
  unfold Training.settle at hsettle
  split at hsettle
  · cases hsettle
    exact ⟨h.hall, h.keyed⟩
  · rename_i report _
    cases hsettle
    have hreported := hosts.preserves_ready.report
      (Training.roundEvent trainee template report.questsRun budget) h.hall
    refine ⟨hosts.preserves_ready.refresh trainee hreported, ?_⟩
    intro other hother
    rcases List.mem_or_eq_of_mem_set hother with hold | rfl
    · exact h.keyed other hold
    · exact hosts.keyed_refresh hreported htrainee

theorem Hosts.ready_inTurn (hosts : env.Hosts view) {due : List (Trainee × Nat)}
    (hmade : Training.InTurn env plan template budget due session attempts result last)
    (h : env.SessionReady view session)
    (hdue : ∀ pair ∈ due, pair.1.Keyed env.store.space) :
    (∀ attempt ∈ attempts, env.AttemptReady view plan template attempt) ∧
      env.SessionReady view last := by
  induction hmade with
  | done session =>
      refine ⟨?_, h⟩
      intro attempt hattempt
      cases hattempt
  | @halted trainee _ _ _ _ _ _ _ hattempt hsettle =>
      have htrainee := hdue _ List.mem_cons_self
      have hafter := hosts.preserves_ready.attempt plan template trainee h.hall
      rw [hattempt] at hafter
      refine ⟨?_, hosts.ready_settle (h.withWorld hafter) htrainee hsettle⟩
      intro attempt hmem
      rw [List.mem_singleton.mp hmem]
      exact ⟨h.hall, htrainee, hattempt⟩
  | @next trainee _ _ _ _ _ _ _ _ _ hattempt hsettle hrest ih =>
      have htrainee := hdue _ List.mem_cons_self
      have hafter := hosts.preserves_ready.attempt plan template trainee h.hall
      rw [hattempt] at hafter
      have hsettled := hosts.ready_settle (h.withWorld hafter) htrainee hsettle
      obtain ⟨hready, hlast⟩ := ih hsettled fun pair hpair =>
        hdue pair (List.mem_cons_of_mem _ hpair)
      refine ⟨?_, hlast⟩
      intro attempt hmem
      rcases List.mem_cons.mp hmem with rfl | hlater
      · exact ⟨h.hall, htrainee, hattempt⟩
      · exact hready attempt hlater

theorem Hosts.ready_atOnce (hosts : env.Hosts view) {due : List (Trainee × Nat)} {after : ω}
    (hmade : Training.AtOnce env plan template due world attempts after)
    (h : env.HallReady view world) (hdue : ∀ pair ∈ due, pair.1.Keyed env.store.space) :
    (∀ attempt ∈ attempts, env.AttemptReady view plan template attempt) ∧
      env.HallReady view after := by
  induction hmade with
  | done world =>
      refine ⟨?_, h⟩
      intro attempt hattempt
      cases hattempt
  | @next trainee _ _ _ _ _ _ _ hattempt hrest ih =>
      have hafter := hosts.preserves_ready.attempt plan template trainee h
      rw [hattempt] at hafter
      obtain ⟨hready, hlast⟩ := ih hafter fun pair hpair =>
        hdue pair (List.mem_cons_of_mem _ hpair)
      refine ⟨?_, hlast⟩
      intro attempt hmem
      rcases List.mem_cons.mp hmem with rfl | hlater
      · exact ⟨h, hdue _ List.mem_cons_self, hattempt⟩
      · exact hready attempt hlater

theorem Hosts.ready_settleAll (hosts : env.Hosts view)
    {outcomes : List ((Trainee × Nat) × Except AttemptError Receipt)}
    (h : env.SessionReady view session)
    (houtcomes : ∀ entry ∈ outcomes, entry.1.1.Keyed env.store.space)
    (hsettle : Training.settleAll env template budget outcomes session = (result, last)) :
    env.SessionReady view last := by
  induction outcomes generalizing session with
  | nil =>
      cases hsettle
      exact h
  | cons entry rest ih =>
      obtain ⟨⟨trainee, place⟩, outcome⟩ := entry
      have htrainee := houtcomes _ List.mem_cons_self
      rw [Training.settleAll] at hsettle
      split at hsettle <;> rename_i heq <;> have hsettled := hosts.ready_settle h htrainee heq
      · cases hsettle
        exact hsettled
      · exact ih hsettled (fun later hlater => houtcomes later (List.mem_cons_of_mem _ hlater))
          hsettle

theorem Hosts.ready_made (hosts : env.Hosts view) {due : List (Trainee × Nat)}
    (hmade : Training.Made env plan template budget due session attempts result last)
    (h : env.SessionReady view session)
    (hdue : ∀ pair ∈ due, pair.1.Keyed env.store.space) :
    (∀ attempt ∈ attempts, env.AttemptReady view plan template attempt) ∧
      env.SessionReady view last := by
  cases hmade with
  | inTurn hturn hmade => exact hosts.ready_inTurn hmade h hdue
  | atOnce hmany hmade hsettle =>
      obtain ⟨hready, hafter⟩ := hosts.ready_atOnce hmade h.hall hdue
      refine ⟨hready, hosts.ready_settleAll (h.withWorld hafter) ?_ hsettle⟩
      intro entry hentry
      obtain ⟨attempt, hattempt, rfl⟩ := List.mem_map.mp hentry
      exact (hready attempt hattempt).keyed

theorem Hosts.ready_course (hosts : env.Hosts view) {selector : Selector}
    {log : List (TrainingRound ω)}
    (hcourse : Training.Course env plan budget selector session log result last)
    (h : env.SessionReady view session) :
    ∀ round ∈ log, ∀ attempt ∈ round.attempts,
      env.AttemptReady view plan round.template attempt := by
  have hpending : ∀ {session : Session ω}, env.SessionReady view session →
      ∀ pair ∈ Training.pending session.trainees, pair.1.Keyed env.store.space := by
    intro session hsession pair hpair
    exact hsession.keyed pair.1 (List.fst_mem_of_mem_zipIdx (List.mem_of_mem_filter hpair))
  induction hcourse with
  | spent | halted | converged | unserved => simp
  | cut hbudget hcheck htargets hchoose hround =>
      have hchecked := (h.hall.checked hosts hcheck).1
      have hopening := hosts.ready_made hround (h.withWorld hchecked) (hpending h)
      intro round hmem
      rw [List.mem_singleton.mp hmem]
      exact hopening.1
  | next hbudget hcheck htargets hchoose hround hrest ih =>
      have hchecked := (h.hall.checked hosts hcheck).1
      have hopening := hosts.ready_made hround (h.withWorld hchecked) (hpending h)
      intro round hmem
      rcases List.mem_cons.mp hmem with rfl | hlater
      · exact hopening.1
      · exact ih hopening.2 round hlater

end Rounds

section Phases

variable {plan : ArenaPlan} {dryRun idempotent : Bool} {session last : Session ω}

theorem Hosts.named_prepareOne (hosts : env.Hosts view)
    (hkeyed : (view.hall world).store.WellKeyed env.store.space)
    {profile : TraineeProfile} {name : String} {preparation : Arena.Preparation} {after : ω}
    (hprepare : Arena.prepareOne env.store dryRun idempotent profile name world =
      (.ok preparation, after)) :
    preparation.agent.name = name ∧
      preparation.agent.id = entityId env.store.space (instanceKey name) := by
  cases Arena.prepares_of_prepareOne hprepare with
  | dry | created => exact ⟨rfl, (starts_newTrainee env.store profile name).id⟩
  | @reused agent _ _ hfind =>
      obtain ⟨key, hkey⟩ := hosts.stored_of_findByName hfind
      have hname := StoreAccess.name_of_findByName hfind
      refine ⟨hname, (hkeyed.id key agent hkey).trans ?_⟩
      rw [← hkeyed.key key agent hkey, hname]

theorem keyed_enlist {space name : String} {target : Nat} {preparation : Arena.Preparation}
    (hid : preparation.agent.id = entityId space (instanceKey name))
    (h : ∀ trainee ∈ session.trainees, trainee.Keyed space) :
    ∀ trainee ∈ (Arena.enlist name target preparation session).trainees,
      trainee.Keyed space := by
  rw [Arena.trainees_enlist]
  exact List.forall_mem_append.mpr ⟨h, List.forall_mem_singleton.mpr hid⟩

section Keeping

variable {P : ω → Prop}

/-- The trainees have the ids of their keys, in a world that is as it has to be. -/
def KeyedIn (env : Environment ω) (P : ω → Prop) (session : Session ω) : Prop :=
  P session.world ∧ ∀ trainee ∈ session.trainees, trainee.Keyed env.store.space

theorem Hosts.keyed_prepare (hosts : env.Hosts view) (hkeeps : env.PreservesSeeding P)
    (hP : ∀ {world}, P world → (view.hall world).store.WellKeyed env.store.space)
    {done : Nat} {profiles : List (TraineeProfile × Nat)} (h : env.KeyedIn P session)
    (hprepare : Arena.prepare env plan dryRun idempotent done profiles session = (.ok (), last)) :
    env.KeyedIn P last := by
  induction profiles generalizing done session with
  | nil =>
      cases hprepare
      exact h
  | cons pair rest ih =>
      obtain ⟨profile, goal⟩ := pair
      have hchecked := hkeeps.check h.1
      rw [Arena.prepare] at hprepare
      split at hprepare
      · cases hprepare
      · rename_i hcheck
        rw [hcheck] at hchecked
        have hreported := hkeeps.report (Arena.preparingEvent
          (profile.traineeName (done + 1)) (done + 1) plan.profiles.length) hchecked
        have hmade := hkeeps.prepareOne dryRun idempotent profile
          (profile.traineeName (done + 1)) hreported
        simp only at hprepare
        split at hprepare
        · cases hprepare
        · rename_i heq
          rw [heq] at hmade
          refine ih ⟨?_, ?_⟩ hprepare
          · rw [world_enlist]
            exact hmade
          · exact keyed_enlist (hosts.named_prepareOne (hP hreported) heq).2 h.2

theorem PreservesSeeding.keyed_ensureMentors (hkeeps : env.PreservesSeeding P)
    (h : env.KeyedIn P session) :
    env.KeyedIn P (Arena.ensureMentors env plan dryRun session).2 := by
  refine ⟨hkeeps.ensureMentors plan dryRun h.1, ?_⟩
  intro trainee htrainee
  obtain ⟨before, hbefore, hagent, hkey⟩ := Trainee.exists_of_unmentored
    (Arena.ensureMentors_counts env plan dryRun session).1 htrainee
  have hkeyed := h.2 before hbefore
  unfold Trainee.Keyed at hkeyed ⊢
  rw [← hagent, ← hkey]
  exact hkeyed

theorem Hosts.keyed_ready (hosts : env.Hosts view) (hkeeps : env.PreservesSeeding P)
    (hP : ∀ {world}, P world → (view.hall world).store.WellKeyed env.store.space)
    {curriculum : Curriculum} (h : env.KeyedIn P session)
    (hready : Arena.ready env plan dryRun idempotent session = (.ok curriculum, last)) :
    env.KeyedIn P last := by
  have hchecked := hkeeps.check h.1
  unfold Arena.ready at hready
  split at hready
  · cases hready
  · rename_i checked hcheck
    rw [hcheck] at hchecked
    have hopening : env.KeyedIn P { session with world := checked } := ⟨hchecked, h.2⟩
    split at hready
    · cases hready
    · simp only at hready
      split at hready
      · cases hready
      · rename_i prepared hprepare
        have hprepared := hosts.keyed_prepare hkeeps hP hopening hprepare
        split at hready
        · cases hready
        · rename_i hmentored
          cases hready
          split at hmentored
          · have hmentors : env.KeyedIn P (Arena.ensureMentors env plan dryRun prepared).2 :=
              hkeeps.keyed_ensureMentors hprepared
            rw [hmentored] at hmentors
            exact hmentors
          · cases hmentored
            exact hprepared

end Keeping

theorem Hosts.ready_ready (hosts : env.Hosts view) {curriculum : Curriculum}
    (h : env.SessionReady view session)
    (hready : Arena.ready env plan dryRun idempotent session = (.ok curriculum, last)) :
    env.SessionReady view last := by
  have hlast : env.KeyedIn (env.HallReady view) last :=
    hosts.keyed_ready hosts.preserves_ready.toPreservesSeeding
      (fun hworld => hworld.2.keyed) ⟨h.hall, h.keyed⟩ hready
  exact ⟨hlast.1, hlast.2⟩

/-- Every attempt of a run begins in a hall that is ready. -/
theorem Hosts.ready_run (hosts : env.Hosts view) (h : env.HallReady view world)
    {log : List (TrainingRound ω)} {answer : Except Failure Report} {after : ω}
    (hrun : Arena.Run env plan dryRun idempotent world log answer after) :
    ∀ round ∈ log, ∀ attempt ∈ round.attempts,
      env.AttemptReady view plan round.template attempt := by
  have hstart : env.SessionReady view (.start dryRun world) := by
    refine ⟨h, ?_⟩
    intro trainee htrainee
    cases htrainee
  have hphases : ∀ {log : List (TrainingRound ω)} {answer : Except SeedError Unit}
      {last : Session ω}, Arena.Course env plan dryRun idempotent world log answer last →
      ∀ round ∈ log, ∀ attempt ∈ round.attempts,
        env.AttemptReady view plan round.template attempt := by
    intro log answer last hcourse
    cases hcourse with
    | unready | dry => simp
    | trained hdry hready hcourse =>
        exact hosts.ready_course hcourse (hosts.ready_ready hstart hready)
  cases hrun with
  | refused => simp
  | failed hvalid hcourse | completed hvalid hcourse => exact hphases hcourse

end Phases

end Environment

end QuestAcademy
