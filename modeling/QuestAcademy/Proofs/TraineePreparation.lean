import QuestAcademy.Proofs.QuestAccounting
import QuestAcademy.Proofs.ReadyHall
import QuestAcademy.Proofs.TraineeNames

namespace QuestAcademy

variable {ω : Type}

namespace Environment

variable {env : Environment ω} {view : HallView ω} {plan : ArenaPlan} {idempotent : Bool}
  {world : ω} {session : Session ω}

section Finding

theorem Hosts.findByName_eq (hosts : env.Hosts view) (h : env.HallReady view world)
    (name : String) :
    ∃ after, env.store.findByName name world =
        (.ok (((view.hall world).store.agents.find? (instanceKey name)).filter
          fun agent => agent.name = name), after) ∧
      view.hall after = view.hall world ∧ env.HallReady view after := by
  obtain ⟨hanswer, hhall, -⟩ := hosts.listAgents.hall_eq h.1
  have hafter := hosts.preserves_ready.listAgents h
  rcases hlist : env.store.listAgents world with ⟨answer, after⟩
  rw [hlist] at hanswer hhall hafter
  simp only [Store.listAgents, h.2.working.reads, Bool.false_eq_true, if_false] at hanswer hhall
  refine ⟨after, ?_, hhall, hafter⟩
  rw [StoreAccess.findByName, hlist, hanswer]
  simp only [h.2.keyed.find?_name name]

theorem Hosts.putAgent_eq (hosts : env.Hosts view) (h : env.HallReady view world) (key : String)
    (agent : Agent) :
    ∃ after, env.store.putAgent key agent world = (.ok (), after) ∧
      ∀ other, (view.hall after).store.agents.find? other =
        if other = key then some agent else (view.hall world).store.agents.find? other := by
  obtain ⟨hanswer, hhall, -⟩ := (hosts.putAgent key agent).hall_eq h.1
  rcases hput : env.store.putAgent key agent world with ⟨answer, after⟩
  rw [hput] at hanswer hhall
  simp only [Store.putAgent, h.2.working.writes, Bool.false_eq_true, if_false] at hanswer hhall
  refine ⟨after, by rw [hanswer], ?_⟩
  intro other
  rw [hhall]
  exact AgentTable.find?_put _ key other agent

/-- An agent is stored under a key, and all others are as they were. -/
structure StoresAt (view : HallView ω) (key : String) (agent : Agent) (before after : ω) :
    Prop where
  stored : (view.hall after).store.agents.find? key = some agent
  others : ∀ other, other ≠ key → (view.hall after).store.agents.find? other =
    (view.hall before).store.agents.find? other

theorem Hosts.prepareOne_eq (hosts : env.Hosts view) (h : env.HallReady view world)
    (idempotent : Bool) (profile : TraineeProfile) (name : String) :
    ∃ preparation after,
      Arena.prepareOne env.store false idempotent profile name world = (.ok preparation, after) ∧
        StoresAt view (instanceKey name) preparation.agent world after := by
  have hmade : ∀ {found : ω}, env.HallReady view found → view.hall found = view.hall world →
      ∃ after, env.store.putAgent (instanceKey name) (Arena.newTrainee env.store profile name)
          found = (.ok (), after) ∧
        StoresAt view (instanceKey name) (Arena.newTrainee env.store profile name) world after := by
    intro found hfound hsame
    obtain ⟨after, hput, hstored⟩ := hosts.putAgent_eq hfound (instanceKey name)
      (Arena.newTrainee env.store profile name)
    rw [hsame] at hstored
    refine ⟨after, hput, ?_, fun other hother => ?_⟩
    · rw [hstored, if_pos rfl]
    · rw [hstored, if_neg hother]
  unfold Arena.prepareOne
  simp only [Bool.false_eq_true, if_false]
  cases idempotent with
  | false =>
      obtain ⟨after, hput, hstores⟩ := hmade h rfl
      simp only [Bool.false_eq_true, if_false, hput]
      exact ⟨_, after, rfl, hstores⟩
  | true =>
      obtain ⟨found, hfind, hsame, hready⟩ := hosts.findByName_eq h name
      simp only [if_true, hfind]
      cases hfilter : ((view.hall world).store.agents.find? (instanceKey name)).filter
          fun agent => agent.name = name with
      | some agent =>
          have hagent := (Option.filter_eq_some_iff.mp hfilter).1
          refine ⟨.reused agent, found, rfl, ?_, fun other _ => ?_⟩ <;> rw [hsame]
          exact hagent
      | none =>
          obtain ⟨after, hput, hstores⟩ := hmade hready hsame
          simp only [hput]
          exact ⟨_, after, rfl, hstores⟩

end Finding

/-- In a hall that is ready, all trainees are stored as they were last seen. -/
structure SeenAsStored (env : Environment ω) (view : HallView ω) (session : Session ω) : Prop where
  ready : env.HallReady view session.world
  stored : ∀ trainee ∈ session.trainees,
    (view.hall session.world).store.agents.find? trainee.key = some trainee.agent

theorem SeenAsStored.enlist (h : env.SeenAsStored view session) {name : String} {target : Nat}
    {preparation : Arena.Preparation} {after : ω}
    (hstores : StoresAt view (instanceKey name) preparation.agent session.world after)
    (hready : env.HallReady view after)
    (hnew : instanceKey name ∉ session.trainees.map Trainee.key) :
    env.SeenAsStored view
      (Arena.enlist name target preparation { session with world := after }) := by
  constructor
  · rw [world_enlist]
    exact hready
  · rw [world_enlist, Arena.trainees_enlist]
    intro trainee htrainee
    rcases List.mem_append.mp htrainee with hold | hlast
    · have hother : trainee.key ≠ instanceKey name := fun hkey =>
        hnew (hkey ▸ List.mem_map_of_mem hold)
      exact (hstores.others _ hother).trans (h.stored trainee hold)
    · rw [List.mem_singleton.mp hlast]
      exact hstores.stored

theorem Hosts.prepare_eq (hosts : env.Hosts view) (hpermits : env.Permits view.works)
    (plan : ArenaPlan) (idempotent : Bool) {done : Nat} {profiles : List (TraineeProfile × Nat)}
    (h : env.SeenAsStored view session)
    (hkeys : (session.trainees.map Trainee.key ++
      Arena.traineeKeys done (profiles.map Prod.fst)).Nodup) :
    ∃ last, Arena.prepare env plan false idempotent done profiles session = (.ok (), last) ∧
      env.SeenAsStored view last := by
  induction profiles generalizing done session with
  | nil => exact ⟨session, rfl, h⟩
  | cons pair rest ih =>
      obtain ⟨profile, goal⟩ := pair
      let name := profile.traineeName (done + 1)
      have hkeyed : Arena.traineeKeys done (((profile, goal) :: rest).map Prod.fst) =
          instanceKey name :: Arena.traineeKeys (done + 1) (rest.map Prod.fst) := rfl
      rw [hkeyed] at hkeys
      obtain ⟨checked, hcheck⟩ := hpermits.check h.ready.1
      obtain ⟨hchecked, hsame⟩ := h.ready.checked hosts hcheck
      let event := Arena.preparingEvent name (done + 1) plan.profiles.length
      have hreported := hosts.preserves_ready.report event hchecked
      obtain ⟨preparation, after, hprepare, hstores⟩ :=
        hosts.prepareOne_eq hreported idempotent profile name
      have hafter := hosts.preserves_ready.prepareOne false idempotent profile name hreported
      rw [hprepare] at hafter
      have hstored : StoresAt view (instanceKey name) preparation.agent session.world after := by
        refine ⟨hstores.stored, fun other hother => ?_⟩
        rw [hstores.others other hother, (hosts.report event checked).1, hsame]
      have hnew : instanceKey name ∉ session.trainees.map Trainee.key := fun hmem =>
        List.disjoint_of_nodup_append hkeys hmem List.mem_cons_self
      rw [Arena.prepare]
      simp only [hcheck]
      rw [hprepare]
      refine ih (h.enlist hstored hafter hnew) ?_
      rw [Arena.keys_enlist, List.append_assoc]
      exact hkeys

section Mentors

theorem Hosts.resolveMentors_eq (hosts : env.Hosts view) (h : env.HallReady view session.world)
    (hnone : plan.bootstrapMentors = 0) :
    ∃ mentors after, Arena.resolveMentors env plan false session =
        (.ok mentors, { session with world := after }) ∧
      view.hall after = view.hall session.world ∧ env.HallReady view after := by
  obtain ⟨hanswer, hhall, -⟩ := hosts.listAgents.hall_eq h.1
  have hafter := hosts.preserves_ready.listAgents h
  rcases hlist : env.store.listAgents session.world with ⟨answer, after⟩
  rw [hlist] at hanswer hhall hafter
  simp only [Store.listAgents, h.2.working.reads, Bool.false_eq_true, if_false] at hanswer hhall
  unfold Arena.resolveMentors Mentors.find
  simp only [hlist, hanswer, hnone, if_true]
  split
  · exact ⟨_, after, rfl, hhall, hafter⟩
  · exact ⟨_, after, rfl, hhall, hafter⟩

theorem Hosts.mentorPhase_eq (hosts : env.Hosts view) (h : env.SeenAsStored view session)
    (hmentors : plan.mentored = false ∨ plan.bootstrapMentors = 0) :
    ∃ last, Arena.mentorPhase env plan false session = (.ok (), last) ∧
      env.SeenAsStored view last := by
  unfold Arena.mentorPhase
  cases hmentored : plan.mentored with
  | false => exact ⟨session, rfl, h⟩
  | true =>
      have hnone : plan.bootstrapMentors = 0 := by simpa [hmentored] using hmentors
      obtain ⟨mentors, after, hresolve, hhall, hready⟩ := hosts.resolveMentors_eq h.ready hnone
      have hstored := h.stored
      rw [← hhall] at hstored
      simp only [if_true, Arena.ensureMentors, hresolve]
      cases mentors with
      | nil => exact ⟨_, rfl, hready, hstored⟩
      | cons mentor rest =>
          refine ⟨_, rfl, hready, ?_⟩
          intro trainee htrainee
          obtain ⟨before, hbefore, hagent, hkey⟩ := Trainee.exists_of_unmentored
            (Arena.unmentored_assignMentors plan (mentor :: rest) session.trainees) htrainee
          rw [← hagent, ← hkey]
          exact hstored before hbefore

end Mentors

/-- A run in a hall that is ready comes to its training. -/
theorem Hosts.ready_eq (hosts : env.Hosts view) (hpermits : env.Permits view.works)
    (h : env.HallReady view world) {curriculum : Curriculum}
    (hload : (TemplateSource.choose plan.domain plan.questFile).load env.folder = .ok curriculum)
    (hmentors : plan.mentored = false ∨ plan.bootstrapMentors = 0) (idempotent : Bool) :
    ∃ opening, Arena.ready env plan false idempotent (.start false world) =
        (.ok curriculum, opening) ∧ env.SeenAsStored view opening := by
  obtain ⟨checked, hcheck⟩ := hpermits.check h.1
  have hstart : env.SeenAsStored view (.start false checked) :=
    ⟨(h.checked hosts hcheck).1, by simp [Session.start]⟩
  have hkeys : ((Session.start false checked).trainees.map Trainee.key ++
      Arena.traineeKeys 0 ((plan.profiles.zip
        (plan.targets.tierGoals plan.profiles.length)).map Prod.fst)).Nodup :=
    Arena.nodup_traineeKeys 0 _
  obtain ⟨prepared, hprepare, hprepared⟩ := hosts.prepare_eq hpermits plan idempotent
    hstart hkeys
  obtain ⟨opening, hmentored, hopening⟩ := hosts.mentorPhase_eq hprepared hmentors
  refine ⟨opening, ?_, hopening⟩
  unfold Arena.mentorPhase at hmentored
  unfold Session.start at hprepare ⊢
  simp only [Arena.ready, hcheck, hload, hprepare, hmentored]

end Environment

end QuestAcademy
