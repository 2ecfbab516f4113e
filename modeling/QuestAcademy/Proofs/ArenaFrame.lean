import QuestAcademy.Proofs.AttemptFrame
import QuestAcademy.Proofs.LastingPermit
import QuestAcademy.Proofs.MentorNames
import QuestAcademy.Proofs.TrainingInvariant

namespace QuestAcademy

variable {ω : Type}

/-- A trainee is stored where one of these agents belongs. -/
structure Trainee.Seated (space : String) (trainees : List Agent) (trainee : Trainee) : Prop where
  keyed : trainee.Keyed space
  named : instanceKey trainee.agent.name = trainee.key
  among : ∃ agent ∈ trainees, instanceKey agent.name = trainee.key

section Confinement

/-- What a run may make of what lies under a key: one of its trainees, new or with other progress
than before, or one of its mentors. -/
inductive Arena.May (trainees mentors : List Agent) (key : String) (old new : Option Agent) : Prop
  | same (hsame : new = old)
  | trainee {agent : Agent} (hagent : agent ∈ trainees) (hkey : instanceKey agent.name = key)
      (htraits : new.map Agent.traits = old.map Agent.traits ∨
        new.map Agent.traits = some agent.traits)
  | mentor {agent : Agent} (hagent : agent ∈ mentors) (hkey : instanceKey agent.name = key)
      (hnew : new = some agent)

/-- Beyond some trainees and mentors nothing has changed since the start. -/
structure Hall.Confined (space : String) (trainees mentors : List Agent) (start : Store)
    (hall : Hall) : Prop where
  keyed : hall.store.WellKeyed space
  numbered : hall.board.Numbered
  guilds : hall.store.guilds = start.guilds
  may : ∀ key, Arena.May trainees mentors key (start.agents.find? key)
    (hall.store.agents.find? key)

variable {space : String} {trainees mentors : List Agent} {start : Store} {hall : Hall}
  {agent : Agent}

theorem Hall.Confined.save (h : hall.Confined space trainees mentors start)
    (hid : agent.id = entityId space (instanceKey agent.name))
    (hagent : agent ∈ trainees ∨ agent ∈ mentors) :
    Hall.Confined space trainees mentors start { hall with store := hall.store.save agent } := by
  refine ⟨h.keyed.save hid, h.numbered, (hall.store.guilds_save agent).trans h.guilds, ?_⟩
  intro key
  have hold := h.may key
  rcases hall.store.find?_save_or agent with hsame | hput
  · rw [hsame]
    exact hold
  · rw [hput]
    split
    · rename_i hkey
      rcases hagent with htrainee | hmentor
      · exact .trainee htrainee hkey.symm (.inr rfl)
      · exact .mentor hmentor hkey.symm rfl
    · exact hold

/-- The progress of a trainee may change, but not that of a mentor. -/
theorem Hall.Confined.tended (h : hall.Confined space trainees mentors start) {key : String}
    (htrainee : ∃ agent ∈ trainees, instanceKey agent.name = key)
    (hapart : ∀ agent ∈ mentors, instanceKey agent.name ≠ key) {after : Hall}
    (htended : hall.store.Tended space key after.store) (hnumbered : after.board.Numbered) :
    after.Confined space trainees mentors start := by
  refine ⟨htended.keyed, hnumbered, htended.guilds.trans h.guilds, ?_⟩
  intro other
  have hold := h.may other
  by_cases hother : other = key
  · subst hother
    obtain ⟨agent, hagent, hkey⟩ := htrainee
    cases hold with
    | same hsame => exact .trainee hagent hkey (.inl (by rw [htended.own, hsame]))
    | trainee hagent hkey htraits => exact .trainee hagent hkey (by rw [htended.own]; exact htraits)
    | mentor hmentor hkey => exact absurd hkey (hapart _ hmentor)
  · rw [htended.others other hother]
    exact hold

theorem Hall.Confined.mono {fewer : List Agent} (h : hall.Confined space trainees fewer start)
    (hmentors : ∀ agent ∈ fewer, agent ∈ mentors) :
    hall.Confined space trainees mentors start := by
  refine ⟨h.keyed, h.numbered, h.guilds, ?_⟩
  intro key
  cases h.may key with
  | same hsame => exact .same hsame
  | trainee hagent hkey htraits => exact .trainee hagent hkey htraits
  | mentor hagent hkey hnew => exact .mentor (hmentors _ hagent) hkey hnew

theorem Hall.Confined.start_or_trainee (h : hall.Confined space trainees [] start) {key : String}
    (hagent : hall.store.agents.find? key = some agent) :
    start.agents.find? key = some agent ∨
      ∃ trainee ∈ trainees, instanceKey trainee.name = instanceKey agent.name := by
  cases h.may key with
  | same hsame =>
      rw [hagent] at hsame
      exact .inl hsame.symm
  | trainee htrainee hown =>
      exact .inr ⟨_, htrainee, by rw [hown, h.keyed.key key agent hagent]⟩
  | mentor hmentor => cases hmentor

theorem Hall.Confined.isSome_find? (h : hall.Confined space trainees [] start) {key : String}
    (hagent : start.agents.find? key = some agent) :
    (hall.store.agents.find? key).isSome = true := by
  cases h.may key with
  | same hsame =>
      rw [hsame, hagent]
      rfl
  | trainee _ _ htraits =>
      rw [← Option.isSome_map (f := Agent.traits)]
      rcases htraits with hown | hnew
      · rw [hown, hagent]
        rfl
      · rw [hnew]
        rfl
  | mentor hmentor => cases hmentor

end Confinement

theorem Trainee.Seated.of_unmentored {space : String} {seats : List Agent}
    {trainees others : List Trainee}
    (hsame : trainees.map Trainee.unmentored = others.map Trainee.unmentored)
    (h : ∀ trainee ∈ others, trainee.Seated space seats) :
    ∀ trainee ∈ trainees, trainee.Seated space seats := by
  intro trainee htrainee
  obtain ⟨other, hother, hagent, hkey⟩ := Trainee.exists_of_unmentored hsame htrainee
  have hseated := h other hother
  have hkeyed := hseated.keyed
  unfold Trainee.Keyed at hkeyed
  rw [hagent, hkey] at hkeyed
  refine ⟨hkeyed, ?_, ?_⟩
  · rw [← hagent, ← hkey]
    exact hseated.named
  · rw [← hkey]
    exact hseated.among

def Arena.newTrainees (store : StoreAccess ω) (plan : ArenaPlan) : List Agent :=
  (plan.profiles.zipIdx 1).map fun (profile, ordinal) =>
    newTrainee store profile (profile.traineeName ordinal)

theorem Arena.keys_newTrainees (store : StoreAccess ω) (plan : ArenaPlan) :
    (newTrainees store plan).map (fun agent => instanceKey agent.name) =
      traineeKeys 0 plan.profiles := by
  rw [newTrainees, List.map_map]
  rfl

theorem Arena.mem_traineeKeys {store : StoreAccess ω} {plan : ArenaPlan} {agent : Agent}
    (h : agent ∈ newTrainees store plan) :
    instanceKey agent.name ∈ traineeKeys 0 plan.profiles := by
  rw [← keys_newTrainees store plan]
  exact List.mem_map_of_mem h

/-- Once the profiles are prepared, there is a trainee for each of the agents that are made of them.
-/
theorem Arena.exists_prepared {env : Environment ω} {plan : ArenaPlan} {dryRun idempotent : Bool}
    {report : Report} {world : ω} {prepared : Session ω}
    (h : prepare env plan dryRun idempotent 0
      (plan.profiles.zip (plan.targets.tierGoals plan.profiles.length))
      { trainees := [], report, world } = (.ok (), prepared)) :
    ∀ agent ∈ newTrainees env.store plan,
      ∃ trainee ∈ prepared.trainees, trainee.key = instanceKey agent.name := by
  intro agent hagent
  have hkeys := congrArg (List.map Prod.fst) (post_prepare h)
  rw [List.map_fst_zip (length_tierGoals _ _), List.map_nil, List.nil_append, List.map_map,
    List.map_map] at hkeys
  have hposts : instanceKey agent.name ∈ prepared.trainees.map (Prod.fst ∘ post) := by
    rw [hkeys]
    exact List.mem_map.mpr ⟨_, mem_traineeKeys hagent, rfl⟩
  exact List.mem_map.mp hposts

def Arena.takenNames (store : StoreAccess ω) (plan : ArenaPlan) (start : Store) : List String :=
  start.agents.toList.map Agent.name ++ (newTrainees store plan).map Agent.name

/-- Mentors that are numbered above the names that are taken lie where nobody else does. -/
theorem Arena.key_mentor_ne {store : StoreAccess ω} {plan : ArenaPlan} {start : Store}
    (hroom : Mentors.topOrdinal (takenNames store plan start) + plan.bootstrapMentors ≤
      ordinalLimit) {space name : String} (hname : name ∈ takenNames store plan start) :
    ∀ mentor ∈ Mentors.recruits space plan.bootstrapMentors
      (Mentors.topOrdinal (takenNames store plan start) + 1),
        instanceKey mentor.name ≠ instanceKey name := by
  intro mentor hmentor
  refine Mentors.key_recruit_ne hmentor (by omega) ?_
  intro n hn
  exact Nat.lt_succ_of_le (Mentors.le_topOrdinal hname hn)

namespace Environment

variable {env : Environment ω} {view : HallView ω} {world : ω} {start : Store}
  {trainees mentors : List Agent} {plan : ArenaPlan} {dryRun idempotent : Bool}
  {session last : Session ω}

/-- The hall that a world shows is confined. -/
def Confines (env : Environment ω) (view : HallView ω) (trainees mentors : List Agent)
    (start : Store) (world : ω) : Prop :=
  (view.hall world).Confined env.store.space trainees mentors start

def takenBy (view : HallView ω) (session : Session ω) : List String :=
  (view.hall session.world).store.agents.toList.map Agent.name ++
    session.trainees.map fun trainee => trainee.agent.name

def recruitedBy (env : Environment ω) (view : HallView ω) (plan : ArenaPlan)
    (session : Session ω) : List Agent :=
  Mentors.recruits env.store.space plan.bootstrapMentors
    (Mentors.nextOrdinal (takenBy view session))

def ConfinesSession (env : Environment ω) (view : HallView ω) (trainees mentors : List Agent)
    (start : Store) (session : Session ω) : Prop :=
  Training.Kept (env.Confines view trainees mentors start)
    (Trainee.Seated env.store.space trainees) session

theorem Confines.of_hall {after : ω} (h : env.Confines view trainees mentors start world)
    (hhall : view.hall after = view.hall world) :
    env.Confines view trainees mentors start after := by
  unfold Confines
  rw [hhall]
  exact h

section Trainings

variable (hosts : env.Hosts view)
include hosts

theorem Hosts.confines_putAgent (h : env.Confines view trainees mentors start world)
    {key : String} {agent : Agent} (hstarts : agent.Starts env.store.space key)
    (hagent : agent ∈ trainees ∨ agent ∈ mentors) :
    env.Confines view trainees mentors start (env.store.putAgent key agent world).2 := by
  obtain ⟨-, ⟨-, -, hkept⟩ | ⟨-, hafter⟩⟩ := hosts.putAgent key agent world
  · exact h.of_hall hkept
  · unfold Confines
    rw [hafter, Store.after_putAgent hstarts.named]
    refine h.save ?_ hagent
    rw [hstarts.id, hstarts.named]

theorem Hosts.seated_refresh (h : env.Confines view trainees mentors start world)
    {trainee : Trainee} (hseated : trainee.Seated env.store.space trainees) :
    (Training.refresh env.store trainee world).1.Seated env.store.space trainees := by
  unfold Training.refresh
  split
  · rename_i agent after hget
    have hstored := hosts.stored_of_getAgent hget
    exact ⟨h.keyed.id _ agent hstored, h.keyed.key _ agent hstored, hseated.among⟩
  · exact hseated

/-- A training keeps the hall confined, if mentors do not lie where trainees do. -/
theorem Hosts.keeps_confines (plan : ArenaPlan)
    (hapart : ∀ mentor ∈ mentors, ∀ trainee ∈ trainees,
      instanceKey mentor.name ≠ instanceKey trainee.name) :
    Training.Keeps env plan (env.Confines view trainees mentors start)
      (Trainee.Seated env.store.space trainees) where
  check := fun h => h.of_hall (hosts.hall_check _)
  report := fun event _ h => h.of_hall (hosts.hall_report event _)
  attempt := by
    intro template trainee world hseated h
    obtain ⟨htended, hnumbered⟩ := hosts.attempt_tends plan template hseated.keyed h.keyed
      h.numbered
    obtain ⟨agent, hagent, hkey⟩ := hseated.among
    refine h.tended ⟨agent, hagent, hkey⟩ ?_ htended hnumbered
    intro mentor hmentor
    rw [← hkey]
    exact hapart mentor hmentor agent hagent
  refresh := fun hseated h =>
    ⟨h.of_hall (hosts.hall_refresh _ _), hosts.seated_refresh h hseated⟩

end Trainings

/-- The names that are taken when new mentors are made have the keys of the agents that were there
from the start and of the trainees. -/
theorem ConfinesSession.topOrdinal_takenBy (hstart : start.WellKeyed env.store.space)
    (h : env.ConfinesSession view trainees [] start session)
    (hall : ∀ agent ∈ trainees, ∃ trainee ∈ session.trainees,
      trainee.key = instanceKey agent.name) :
    Mentors.topOrdinal (takenBy view session) =
      Mentors.topOrdinal (start.agents.toList.map Agent.name ++ trainees.map Agent.name) := by
  obtain ⟨hconfined, hseated⟩ := h
  apply Mentors.topOrdinal_congr
  · intro name hname
    rcases List.mem_append.mp hname with hstored | htrainee
    · obtain ⟨agent, hagent, rfl⟩ := List.mem_map.mp hstored
      obtain ⟨key, hkey⟩ := AgentTable.exists_find?_of_mem hagent
      rcases hconfined.start_or_trainee hkey with hold | ⟨trainee, htrainee, hown⟩
      · have hlisted := (AgentTable.mem_toList_iff hstart.sound agent).mpr ⟨key, hold⟩
        exact ⟨_, List.mem_append_left _ (List.mem_map_of_mem hlisted), rfl⟩
      · exact ⟨_, List.mem_append_right _ (List.mem_map_of_mem htrainee), hown⟩
    · obtain ⟨trainee, hmem, rfl⟩ := List.mem_map.mp htrainee
      obtain ⟨agent, hagent, hkey⟩ := (hseated trainee hmem).among
      exact ⟨_, List.mem_append_right _ (List.mem_map_of_mem hagent),
        hkey.trans (hseated trainee hmem).named.symm⟩
  · intro name hname
    rcases List.mem_append.mp hname with hold | htrainee
    · obtain ⟨agent, hagent, rfl⟩ := List.mem_map.mp hold
      obtain ⟨key, hkey⟩ := AgentTable.exists_find?_of_mem hagent
      obtain ⟨found, hfound⟩ := Option.isSome_iff_exists.mp (hconfined.isSome_find? hkey)
      have hlisted := (AgentTable.mem_toList_iff hconfined.keyed.sound found).mpr ⟨key, hfound⟩
      refine ⟨found.name, List.mem_append_left _ (List.mem_map_of_mem hlisted), ?_⟩
      rw [hconfined.keyed.key key found hfound, hstart.key key agent hkey]
    · obtain ⟨agent, hagent, rfl⟩ := List.mem_map.mp htrainee
      obtain ⟨trainee, hmem, hkey⟩ := hall agent hagent
      exact ⟨_, List.mem_append_right _ (List.mem_map_of_mem hmem),
        (hseated trainee hmem).named.trans hkey⟩

/-- The new mentors of a run, numbered above all names that are taken. -/
def mentorsOf (env : Environment ω) (plan : ArenaPlan) (start : Store) : List Agent :=
  Mentors.recruits env.store.space plan.bootstrapMentors
    (Mentors.topOrdinal (Arena.takenNames env.store plan start) + 1)

/-- As long as the numbers last, a session that has prepared all trainees numbers its mentors from
the same number on as the run does. -/
theorem ConfinesSession.recruitedBy_eq
    (h : env.ConfinesSession view (Arena.newTrainees env.store plan) [] start session)
    (hstart : start.WellKeyed env.store.space)
    (hall : ∀ agent ∈ Arena.newTrainees env.store plan, ∃ trainee ∈ session.trainees,
      trainee.key = instanceKey agent.name)
    (hroom : Mentors.topOrdinal (Arena.takenNames env.store plan start) + plan.bootstrapMentors ≤
      ordinalLimit) : env.recruitedBy view plan session = env.mentorsOf plan start := by
  unfold recruitedBy mentorsOf
  rcases Nat.eq_zero_or_pos plan.bootstrapMentors with hnone | hsome
  · rw [hnone]
    rfl
  · have htop : Mentors.topOrdinal (takenBy view session) =
        Mentors.topOrdinal (Arena.takenNames env.store plan start) :=
      h.topOrdinal_takenBy hstart hall
    rw [Mentors.nextOrdinal_eq (by omega), htop]

section Phases

variable (hosts : env.Hosts view)
include hosts

theorem Hosts.confines_prepareOne (dryRun idempotent : Bool)
    (h : env.Confines view trainees mentors start world) (profile : TraineeProfile) (name : String)
    (hnew : Arena.newTrainee env.store profile name ∈ trainees) :
    env.Confines view trainees mentors start
      (Arena.prepareOne env.store dryRun idempotent profile name world).2 := by
  unfold Arena.prepareOne
  simp only
  split
  · exact h
  · have hlookup : view.hall (if idempotent then env.store.findByName name world
        else (.ok none, world)).2 = view.hall world := by
      split
      · exact hosts.hall_findByName name world
      · rfl
    split <;> rename_i heq <;> rw [heq] at hlookup
    · exact h.of_hall hlookup
    · exact h.of_hall hlookup
    · rename_i ready
      have hready : env.Confines view trainees mentors start ready := h.of_hall hlookup
      have hput := hosts.confines_putAgent hready (starts_newTrainee env.store profile name)
        (.inl hnew)
      split <;> rename_i hmade <;> rw [hmade] at hput <;> exact hput

theorem Hosts.kept_prepare (plan : ArenaPlan) (dryRun idempotent : Bool) (done : Nat)
    (profiles : List (TraineeProfile × Nat))
    (hnew : ∀ pair ∈ (profiles.map Prod.fst).zipIdx (done + 1),
      Arena.newTrainee env.store pair.1 (pair.1.traineeName pair.2) ∈ trainees)
    (h : env.ConfinesSession view trainees mentors start session) :
    env.ConfinesSession view trainees mentors start
      (Arena.prepare env plan dryRun idempotent done profiles session).2 := by
  induction profiles generalizing done session with
  | nil => exact h
  | cons pair rest ih =>
      obtain ⟨profile, goal⟩ := pair
      rw [List.map_cons, List.zipIdx_cons] at hnew
      have hfirst := hnew _ List.mem_cons_self
      have hchecked := hosts.hall_check session.world
      rw [Arena.prepare]
      split <;> rename_i heq <;> rw [heq] at hchecked
      · exact ⟨h.1.of_hall hchecked, h.2⟩
      · rename_i checked
        have hannounced : env.Confines view trainees mentors start
            (env.report (Arena.preparingEvent (profile.traineeName (done + 1)) (done + 1)
              plan.profiles.length) checked) :=
          h.1.of_hall ((hosts.hall_report _ checked).trans hchecked)
        have hprepared : env.Confines view trainees mentors start _ :=
          hosts.confines_prepareOne dryRun idempotent hannounced profile
            (profile.traineeName (done + 1)) hfirst
        simp only
        split <;> rename_i hmade <;> rw [hmade] at hprepared
        · exact ⟨hprepared, h.2⟩
        · refine ih (done + 1) (fun later hlater => hnew later (List.mem_cons_of_mem _ hlater)) ?_
          refine ⟨?_, ?_⟩
          · rw [world_enlist]
            exact hprepared
          · rw [Arena.trainees_enlist]
            obtain ⟨hname, hid⟩ := hosts.named_prepareOne hannounced.keyed hmade
            exact List.forall_mem_append.mpr ⟨h.2, List.forall_mem_singleton.mpr
              ⟨hid, congrArg instanceKey hname, _, hfirst,
                (starts_newTrainee env.store profile _).named⟩⟩

theorem Hosts.confines_placeNew (idempotent : Bool)
    (h : env.Confines view trainees mentors start world) {batch : AgentBatch} {name : String}
    (hguild : batch.guildId = none)
    (hnew : batch.build (entityId env.store.space (instanceKey name)) name ∈ mentors) :
    env.Confines view trainees mentors start
      (Roster.placeNew env.store idempotent batch name world).2 := by
  have hplace : ∀ {ready : ω}, env.Confines view trainees mentors start ready →
      env.Confines view trainees mentors start (Roster.place env.store batch name ready).2 := by
    intro ready hready
    have hput := hosts.confines_putAgent hready (batch.starts_build env.store.space name)
      (.inr hnew)
    simp only [Roster.place, hguild]
    split <;> rename_i heq <;> rw [StoreAccess.agentId] at heq <;> rw [heq] at hput <;> exact hput
  unfold Roster.placeNew
  split
  · have hlooked := hosts.hall_findByName name world
    split <;> rename_i heq <;> rw [heq] at hlooked
    · exact h.of_hall hlooked
    · exact h.of_hall hlooked
    · exact hplace (h.of_hall hlooked)
  · exact hplace h

theorem Hosts.confines_seedAgents (dryRun idempotent : Bool) (total done : Nat)
    (items : List (AgentBatch × String)) (report : Report)
    (hitems : ∀ item ∈ items, item.1.guildId = none ∧
      item.1.build (entityId env.store.space (instanceKey item.2)) item.2 ∈ mentors)
    (h : env.Confines view trainees mentors start world) :
    env.Confines view trainees mentors start
      (Roster.seedAgents env dryRun idempotent total done items report world).2.2 := by
  induction items generalizing done report world with
  | nil => exact h
  | cons item rest ih =>
      obtain ⟨batch, name⟩ := item
      obtain ⟨hguild, hnew⟩ := hitems _ List.mem_cons_self
      have hchecked := hosts.hall_check world
      rw [Roster.seedAgents]
      split <;> rename_i heq <;> rw [heq] at hchecked
      · exact h.of_hall hchecked
      · rename_i checked
        have hannounced : env.Confines view trainees mentors start
            (env.report (Roster.placingEvent name (done + 1) total) checked) :=
          h.of_hall ((hosts.hall_report _ checked).trans hchecked)
        have hrest := fun later hlater => hitems later (List.mem_cons_of_mem _ hlater)
        cases dryRun with
        | true => exact ih _ _ hrest hannounced
        | false =>
            exact ih _ _ hrest (hosts.confines_placeNew idempotent hannounced hguild hnew)

theorem Hosts.confines_seed (dryRun : Bool) (count first : Nat)
    (h : env.Confines view trainees (Mentors.recruits env.store.space count first) start world) :
    env.Confines view trainees (Mentors.recruits env.store.space count first) start
      (Roster.seed env (Mentors.roster count first) dryRun true world).2 := by
  have hitems : ∀ item ∈ (Mentors.roster count first).items, item.1.guildId = none ∧
      item.1.build (entityId env.store.space (instanceKey item.2)) item.2 ∈
        Mentors.recruits env.store.space count first := by
    intro item hitem
    exact ⟨Mentors.guildId_of_mem_items item hitem, List.mem_map_of_mem hitem⟩
  have hseeded := hosts.confines_seedAgents dryRun true (Mentors.roster count first).agentCount 0
    (Mentors.roster count first).items (.start .tieredRoster dryRun) hitems h
  unfold Roster.seed
  simp only
  split
  · exact h
  · have hnone : (Mentors.roster count first).charters = [] := rfl
    rw [hnone, Roster.seedGuilds]
    simp only
    split <;> rename_i heq <;> rw [heq] at hseeded <;> exact hseeded

section Mentoring

variable (h : env.Confines view trainees [] start session.world)
include h

theorem Hosts.confines_spawnMentors (excluded : List String) :
    env.Confines view trainees (env.recruitedBy view plan session) start
      (Arena.spawnMentors env plan dryRun excluded session).2.world := by
  have hkeeps : env.Confines view trainees (env.recruitedBy view plan session) start
      session.world := h.mono nofun
  have hlisted := hosts.hall_listAgents session.world
  unfold Arena.spawnMentors
  split <;> rename_i heq <;> rw [heq] at hlisted
  · exact hkeeps.of_hall hlisted
  · have hspawned := hosts.confines_seed dryRun plan.bootstrapMentors _ (hkeeps.of_hall hlisted)
    rw [hosts.listed_of_listAgents heq]
    simp only
    split <;> rename_i hseed <;> rw [takenBy, hseed] at hspawned
    · exact hspawned
    · split
      · exact hspawned
      · rename_i seeded _
        have hfound := hosts.hall_find excluded seeded
        split <;> rename_i hfind <;> rw [hfind] at hfound
        · exact hspawned.of_hall hfound
        · exact hspawned.of_hall hfound

theorem Hosts.confines_resolveMentors :
    env.Confines view trainees (env.recruitedBy view plan session) start
      (Arena.resolveMentors env plan dryRun session).2.world := by
  have hkeeps : env.Confines view trainees (env.recruitedBy view plan session) start
      session.world := h.mono nofun
  have hlooked := hosts.hall_find (session.trainees.map fun trainee => trainee.agent.id)
    session.world
  unfold Arena.resolveMentors
  simp only
  split <;> rename_i heq <;> rw [heq] at hlooked
  · exact hkeeps.of_hall hlooked
  · rename_i found looked
    split
    · exact hkeeps.of_hall hlooked
    · split
      · exact hkeeps.of_hall hlooked
      · have hsame : takenBy view { session with world := looked } = takenBy view session := by
          rw [takenBy, takenBy, show view.hall looked = view.hall session.world from hlooked]
        have hopen : env.Confines view trainees [] start
            ({ session with world := looked } : Session ω).world := h.of_hall hlooked
        rw [recruitedBy, ← hsame]
        exact hosts.confines_spawnMentors hopen _

theorem Hosts.confines_ensureMentors :
    env.Confines view trainees (env.recruitedBy view plan session) start
      (Arena.ensureMentors env plan dryRun session).2.world := by
  have hresolved : env.Confines view trainees (env.recruitedBy view plan session) start
      (Arena.resolveMentors env plan dryRun session).2.world := hosts.confines_resolveMentors h
  unfold Arena.ensureMentors
  split <;> rename_i heq <;> rw [heq] at hresolved <;> exact hresolved

end Mentoring

theorem Hosts.kept_ensureMentors (h : env.ConfinesSession view trainees [] start session) :
    env.ConfinesSession view trainees (env.recruitedBy view plan session) start
      (Arena.ensureMentors env plan dryRun session).2 :=
  ⟨hosts.confines_ensureMentors h.1,
    .of_unmentored (Arena.ensureMentors_counts env plan dryRun session).1 h.2⟩

theorem Hosts.kept_ready (plan : ArenaPlan) (dryRun idempotent : Bool)
    (hstart : (view.hall world).store.WellKeyed env.store.space)
    (hnumbered : (view.hall world).board.Numbered)
    (hroom : Mentors.topOrdinal (Arena.takenNames env.store plan (view.hall world).store) +
      plan.bootstrapMentors ≤ ordinalLimit) (report : Report) :
    env.ConfinesSession view (Arena.newTrainees env.store plan)
      (env.mentorsOf plan (view.hall world).store) (view.hall world).store
      (Arena.ready env plan dryRun idempotent { trainees := [], report, world }).2 := by
  have hopening : env.Confines view (Arena.newTrainees env.store plan) [] (view.hall world).store
      world := ⟨hstart, hnumbered, rfl, fun _ => .same rfl⟩
  have hchecked := hosts.hall_check world
  unfold Arena.ready
  simp only
  split <;> rename_i heq <;> rw [heq] at hchecked
  · exact ⟨(hopening.of_hall hchecked).mono nofun, nofun⟩
  · rename_i checked
    have hready : env.ConfinesSession view (Arena.newTrainees env.store plan) []
        (view.hall world).store { trainees := [], report, world := checked } :=
      ⟨hopening.of_hall hchecked, nofun⟩
    split
    · exact ⟨hready.1.mono nofun, hready.2⟩
    · have hnew : ∀ pair ∈ ((plan.profiles.zip
          (plan.targets.tierGoals plan.profiles.length)).map Prod.fst).zipIdx (0 + 1),
          Arena.newTrainee env.store pair.1 (pair.1.traineeName pair.2) ∈
            Arena.newTrainees env.store plan := by
        rw [List.map_fst_zip (Arena.length_tierGoals _ _)]
        exact fun pair hpair => List.mem_map_of_mem hpair
      have hprepared := hosts.kept_prepare plan dryRun idempotent 0 _ hnew hready
      split <;> rename_i hprepare <;> rw [hprepare] at hprepared
      · exact ⟨hprepared.1.mono nofun, hprepared.2⟩
      · rename_i prepared
        have hmentored : env.ConfinesSession view (Arena.newTrainees env.store plan)
            (env.mentorsOf plan (view.hall world).store) (view.hall world).store
            (if plan.mentored then Arena.ensureMentors env plan dryRun prepared
              else (.ok (), prepared)).2 := by
          split
          · rw [← hprepared.recruitedBy_eq hstart (Arena.exists_prepared hprepare) hroom]
            exact hosts.kept_ensureMentors hprepared
          · exact ⟨hprepared.1.mono nofun, hprepared.2⟩
        split <;> rename_i hmentor <;> rw [hmentor] at hmentored <;> exact hmentored

theorem Hosts.kept_phases (plan : ArenaPlan) (dryRun idempotent : Bool)
    (hstart : (view.hall world).store.WellKeyed env.store.space)
    (hnumbered : (view.hall world).board.Numbered)
    (hroom : Mentors.topOrdinal (Arena.takenNames env.store plan (view.hall world).store) +
      plan.bootstrapMentors ≤ ordinalLimit) (report : Report) :
    env.ConfinesSession view (Arena.newTrainees env.store plan)
      (env.mentorsOf plan (view.hall world).store) (view.hall world).store
      (Arena.phases env plan dryRun idempotent { trainees := [], report, world }).2 := by
  have hready := hosts.kept_ready plan dryRun idempotent hstart hnumbered hroom report
  have hapart : ∀ mentor ∈ env.mentorsOf plan (view.hall world).store,
      ∀ trainee ∈ Arena.newTrainees env.store plan,
        instanceKey mentor.name ≠ instanceKey trainee.name :=
    fun mentor hmentor trainee htrainee => Arena.key_mentor_ne hroom
      (List.mem_append_right _ (List.mem_map_of_mem htrainee)) mentor hmentor
  rw [Arena.phases_eq]
  split <;> rename_i heq <;> rw [heq] at hready
  · exact hready
  · rename_i curriculum opening
    split
    · exact hready
    · have htrained := (hosts.keeps_confines plan hapart).upholds.rounds
        (Training.budget plan opening.trainees.length)
        (Training.budget plan opening.trainees.length)
        (Selector.create curriculum plan.selection) hready
      simp only [Training.train]
      split <;> rename_i htrain <;> rw [htrain] at htrained <;> exact htrained

theorem Hosts.hall_refreshAll (trainees : List Trainee) (world : ω) :
    view.hall (Arena.refreshAll env.store trainees world).2 = view.hall world := by
  induction trainees generalizing world with
  | nil => rfl
  | cons trainee rest ih => exact (ih _).trans (hosts.hall_refresh trainee world)

theorem Hosts.confines_run (plan : ArenaPlan) (dryRun idempotent : Bool)
    (hstart : (view.hall world).store.WellKeyed env.store.space)
    (hnumbered : (view.hall world).board.Numbered)
    (hroom : Mentors.topOrdinal (Arena.takenNames env.store plan (view.hall world).store) +
      plan.bootstrapMentors ≤ ordinalLimit) :
    env.Confines view (Arena.newTrainees env.store plan)
      (env.mentorsOf plan (view.hall world).store) (view.hall world).store
      (Arena.run env plan dryRun idempotent world).2 := by
  unfold Arena.run
  simp only
  split
  · exact ⟨hstart, hnumbered, rfl, fun _ => .same rfl⟩
  · have hphases := (hosts.kept_phases plan dryRun idempotent hstart hnumbered hroom
      (.start .trainingArena dryRun)).1
    split <;> rename_i heq <;> rw [heq] at hphases
    · exact hphases
    · split
      · exact hphases
      · exact hphases.of_hall (hosts.hall_refreshAll _ _)

end Phases

/-- What a run leaves alone, and what is new when it ends. New mentors are numbered from the number
above the largest one that is taken. -/
structure Framed (env : Environment ω) (plan : ArenaPlan) (before after : Store) : Prop where
  keyed : after.WellKeyed env.store.space
  guilds : after.guilds = before.guilds
  untouched : ∀ key agent, before.agents.find? key = some agent →
    key ∉ Arena.traineeKeys 0 plan.profiles → after.agents.find? key = some agent
  trainees : ∀ agent ∈ Arena.newTrainees env.store plan,
    (after.agents.find? (instanceKey agent.name)).map Agent.traits =
        (before.agents.find? (instanceKey agent.name)).map Agent.traits ∨
      (after.agents.find? (instanceKey agent.name)).map Agent.traits = some agent.traits
  apart : ∀ mentor ∈ env.mentorsOf plan before,
    before.agents.find? (instanceKey mentor.name) = none ∧
      instanceKey mentor.name ∉ Arena.traineeKeys 0 plan.profiles
  fresh : ∀ key agent, before.agents.find? key = none → after.agents.find? key = some agent →
    key ∈ Arena.traineeKeys 0 plan.profiles ∨ agent ∈ env.mentorsOf plan before ∧
      ∃ place < plan.bootstrapMentors, key = Mentors.mentorName
        (Mentors.topOrdinal (Arena.takenNames env.store plan before) + 1 + place)

theorem mentorsOf_apart {before : Store} (hkeyed : before.WellKeyed env.store.space)
    (hroom : Mentors.topOrdinal (Arena.takenNames env.store plan before) +
      plan.bootstrapMentors ≤ ordinalLimit) :
    ∀ mentor ∈ env.mentorsOf plan before,
      before.agents.find? (instanceKey mentor.name) = none ∧
        instanceKey mentor.name ∉ Arena.traineeKeys 0 plan.profiles := by
  intro mentor hmentor
  constructor
  · rw [Option.eq_none_iff_forall_ne_some]
    intro agent hagent
    have hlisted := (AgentTable.mem_toList_iff hkeyed.sound agent).mpr ⟨_, hagent⟩
    exact Arena.key_mentor_ne hroom (List.mem_append_left _ (List.mem_map_of_mem hlisted)) mentor
      hmentor (hkeyed.key _ agent hagent).symm
  · rw [← Arena.keys_newTrainees env.store plan]
    intro hmem
    obtain ⟨agent, hagent, hkey⟩ := List.mem_map.mp hmem
    exact Arena.key_mentor_ne hroom (List.mem_append_right _ (List.mem_map_of_mem hagent)) mentor
      hmentor hkey.symm

/-- Whatever fails on the way and however it ends, a run touches only its trainees, whom it neither
replaces nor gives up, and new mentors. -/
theorem Hosts.run_framed (hosts : env.Hosts view) (plan : ArenaPlan) (dryRun idempotent : Bool)
    (world : ω) (hkeyed : (view.hall world).store.WellKeyed env.store.space)
    (hnumbered : (view.hall world).board.Numbered)
    (hroom : Mentors.topOrdinal (Arena.takenNames env.store plan (view.hall world).store) +
      plan.bootstrapMentors ≤ ordinalLimit) :
    env.Framed plan (view.hall world).store
      (view.hall (Arena.run env plan dryRun idempotent world).2).store := by
  have hconfined : env.Confines view _ _ _ _ :=
    hosts.confines_run plan dryRun idempotent hkeyed hnumbered hroom
  have hapart := mentorsOf_apart hkeyed hroom
  refine ⟨hconfined.keyed, hconfined.guilds, ?_, ?_, hapart, ?_⟩
  · intro key agent hagent hkey
    cases hconfined.may key with
    | same hsame => rw [hsame, hagent]
    | trainee htaken hown =>
        rw [← hown] at hkey
        exact absurd (Arena.mem_traineeKeys htaken) hkey
    | mentor hmentor hown =>
        rw [← hown, (hapart _ hmentor).1] at hagent
        cases hagent
  · intro agent hagent
    cases hconfined.may (instanceKey agent.name) with
    | same hsame => exact .inl (by rw [hsame])
    | trainee hother hown htraits =>
        have hdistinct : ((Arena.newTrainees env.store plan).map
            fun agent => instanceKey agent.name).Nodup := by
          rw [Arena.keys_newTrainees]
          exact Arena.nodup_traineeKeys 0 plan.profiles
        rw [List.inj_on_of_nodup_map hdistinct hother hagent hown] at htraits
        exact htraits
    | mentor hmentor hown =>
        have hnot := (hapart _ hmentor).2
        rw [hown] at hnot
        exact absurd (Arena.mem_traineeKeys hagent) hnot
  · intro key agent hnone hagent
    cases hconfined.may key with
    | same hsame =>
        rw [hsame, hnone] at hagent
        cases hagent
    | trainee htaken hown =>
        rw [← hown]
        exact .inl (Arena.mem_traineeKeys htaken)
    | mentor hmentor hown hnew =>
        rw [hagent] at hnew
        cases hnew
        obtain ⟨place, hplace, hname, -⟩ := Mentors.exists_of_mem_recruits hmentor
        refine .inr ⟨hmentor, place, hplace, ?_⟩
        rw [← hown, hname, Mentors.instanceKey_mentorName, Nat.min_eq_right (by omega)]

def hermit : Store :=
  Store.empty.save { Agent.create "guildhall.agent.mentor-3" "mentor-3" 8 with status := .busy }

/-- A trainee who is called a mentor, too, and two new mentors lie beside the old one. -/
theorem run_framed_hermit :
    let plan := { ArenaPlan.default with
      profiles := [{ name := "mentor", skills := [], modelSettings := none }]
      questsPerTrainee := 1
      mentored := true
      bootstrapMentors := 2 }
    let after := (Arena.run Rehearsal.quiet plan false true (Rehearsal.onStore hermit)).2
    Rehearsal.quiet.Framed plan hermit after.store ∧
      after.store.agents.order.map Prod.snd = ["mentor-3", "mentor-1", "mentor-4", "mentor-5"] := by
  intro plan after
  have hkeyed : hermit.WellKeyed Store.defaultSpace :=
    (Store.wellKeyed_empty _).save (by decide +kernel)
  exact ⟨Rehearsal.hosts_quiet_lasting.run_framed plan false true (Rehearsal.onStore hermit) hkeyed
    rfl (by decide +kernel), by decide +kernel⟩

end Environment

end QuestAcademy
