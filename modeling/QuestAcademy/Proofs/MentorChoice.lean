import QuestAcademy.Proofs.ArenaFrame
import QuestAcademy.Proofs.MentorTurns
import QuestAcademy.Proofs.QuestAccounting
import QuestAcademy.Proofs.WorkLog

namespace QuestAcademy

variable {ω : Type}

theorem Agent.isQualifiedMentor_iff {agent : Agent} :
    agent.isQualifiedMentor = true ↔
      trainingSkill ∈ agent.skills ∧ Tier.journeyman.rank ≤ agent.tier.rank ∧
        agent.status = .idle := by
  simp [isQualifiedMentor, hasSkill, isIdle, and_assoc]

namespace Mentors

theorem validate_roster {count : Nat} (hcount : count ≠ 0) (first : Nat) :
    (roster count first).validate = .ok () := by
  have hpattern : Text.isBlank namePattern = false ∧
      AgentBatch.countMarks namePattern.toList = 1 ∧ Level.isValid startLevel = true := by
    decide +kernel
  obtain ⟨hblank, hmarks, hlevel⟩ := hpattern
  simp [roster, RosterPlan.validate, RosterPlan.validateAll, AgentBatch.validate, hblank, hmarks,
    hlevel, hcount]

/-- An agent who is stored, fit to be a mentor and none of the excluded. -/
structure Fit (store : Store) (excluded : List String) (agent : Agent) : Prop where
  stored : agent ∈ store.agents.toList
  trains : trainingSkill ∈ agent.skills
  tier : Tier.journeyman.rank ≤ agent.tier.rank
  idle : agent.status = .idle
  apart : agent.id ∉ excluded

theorem mem_find {env : Environment ω} {view : HallView ω} (hosts : env.Hosts view)
    {excluded : List String} {world after : ω} {found : List Agent}
    (h : find env.store excluded world = (.ok found, after)) {agent : Agent} :
    agent ∈ found ↔ Fit (view.hall world).store excluded agent := by
  unfold find at h
  split at h
  · cases h
  · rename_i agents listed hlist
    cases h
    simp only [List.mem_filter, hosts.listed_of_listAgents hlist, Bool.and_eq_true,
      Agent.isQualifiedMentor_iff, Bool.not_eq_true', List.contains_eq_mem,
      decide_eq_false_iff_not]
    constructor
    · rintro ⟨hstored, hapart, htrains, htier, hidle⟩
      exact ⟨hstored, htrains, htier, hidle, hapart⟩
    · rintro ⟨hstored, htrains, htier, hidle, hapart⟩
      exact ⟨hstored, hapart, htrains, htier, hidle⟩

end Mentors

namespace Arena

open Mentors

variable {env : Environment ω} {view : HallView ω} {plan : ArenaPlan}

theorem mentor_assignMentors {mentors : List String} {trainees : List Trainee} :
    ∀ trainee ∈ assignMentors plan mentors trainees, ∀ id ∈ trainee.mentor, id ∈ mentors := by
  intro trainee htrainee id hid
  obtain ⟨⟨other, mentor⟩, hpair, rfl⟩ := List.mem_map.mp htrainee
  cases hid
  exact mem_of_assign (List.of_mem_zip hpair).2

theorem mentor_prepare (dryRun idempotent : Bool) {done : Nat}
    {profiles : List (TraineeProfile × Nat)} {session last : Session ω}
    (h : prepare env plan dryRun idempotent done profiles session = (.ok (), last))
    (hnone : ∀ trainee ∈ session.trainees, trainee.mentor = none) :
    ∀ trainee ∈ last.trainees, trainee.mentor = none := by
  induction profiles generalizing done session with
  | nil =>
      cases h
      exact hnone
  | cons pair rest ih =>
      obtain ⟨profile, goal⟩ := pair
      rw [prepare] at h
      split at h
      · cases h
      · simp only at h
        split at h
        · cases h
        · refine ih h ?_
          rw [trainees_enlist]
          exact List.forall_mem_append.mpr ⟨hnone, List.forall_mem_singleton.mpr rfl⟩

section Resolving

variable (plan) (hosts : env.Hosts view)
include hosts

theorem fit_spawnMentors {excluded mentors : List String} {session last : Session ω}
    (h : spawnMentors env plan false excluded session = (.ok mentors, last)) :
    ∀ id ∈ mentors, ∃ agent, agent.id = id ∧
      Fit (view.hall last.world).store excluded agent := by
  unfold spawnMentors at h
  split at h
  · cases h
  · simp only at h
    split at h
    · cases h
    · rename_i spawned placed _
      simp only [Bool.false_eq_true, if_false] at h
      split at h
      · cases h
      · rename_i qualified found hfind
        obtain ⟨hids, hlast⟩ := Prod.mk.inj h
        have hsame := hosts.hall_find excluded placed
        rw [hfind] at hsame
        split at hids
        · cases hids
        · cases hids
          intro id hid
          obtain ⟨agent, hagent, hsameId⟩ := List.any_eq_true.mp (List.mem_filter.mp hid).2
          refine ⟨agent, of_decide_eq_true hsameId, ?_⟩
          rw [← hlast, show view.hall found = view.hall placed from hsame]
          exact (mem_find hosts hfind).mp hagent

theorem fit_resolveMentors {mentors : List String} {session last : Session ω}
    (h : resolveMentors env plan false session = (.ok mentors, last)) :
    ∀ id ∈ mentors, ∃ agent, agent.id = id ∧ Fit (view.hall last.world).store
      (session.trainees.map fun trainee => trainee.agent.id) agent := by
  unfold resolveMentors at h
  simp only at h
  split at h
  · cases h
  · rename_i found after hfind
    split at h
    · cases h
      have hsame := hosts.hall_find (session.trainees.map fun trainee => trainee.agent.id)
        session.world
      rw [hfind] at hsame
      intro id hid
      obtain ⟨agent, hagent, rfl⟩ := List.mem_map.mp hid
      refine ⟨agent, rfl, ?_⟩
      rw [show view.hall after = view.hall session.world from hsame]
      exact (mem_find hosts hfind).mp hagent
    · split at h
      · cases h
        simp
      · exact fit_spawnMentors plan hosts h

theorem idles_resolveMentors {session : Session ω}
    (hfit : ∃ agent, Fit (view.hall session.world).store
      (session.trainees.map fun trainee => trainee.agent.id) agent) :
    env.Idles session.world (resolveMentors env plan false session).2.world ∧
      (resolveMentors env plan false session).2.report = session.report := by
  have hidle := Environment.idles_find env
    (session.trainees.map fun trainee => trainee.agent.id) session.world
  obtain ⟨agent, hagent⟩ := hfit
  unfold resolveMentors
  simp only
  split <;> rename_i hfind <;> rw [hfind] at hidle
  · exact ⟨hidle, rfl⟩
  · rename_i found after
    have hmem := (mem_find hosts hfind).mpr hagent
    cases found with
    | nil => cases hmem
    | cons first rest => exact ⟨hidle, rfl⟩

end Resolving

section Failing

variable {dryRun : Bool} {session last : Session ω}

/-- Why there are no mentors: the store does not answer, no new mentor is fit, or leave has ended.
-/
def Foreseen (e : MentorError) : Prop :=
  (∃ error, e = .lookup error) ∨ e = .noneCreated ∨ ∃ halt, e = .halted halt

theorem foreseen_spawnMentors (hcount : plan.bootstrapMentors ≠ 0) {excluded : List String}
    {e : MentorError} (h : spawnMentors env plan dryRun excluded session = (.error e, last)) :
    Foreseen e := by
  unfold spawnMentors at h
  split at h
  · cases h
    exact .inl ⟨_, rfl⟩
  · simp only at h
    split at h
    · rename_i hseed
      obtain ⟨halt, herror⟩ := Roster.halted_of_seed env _ dryRun true
        (validate_roster hcount _) hseed
      rw [herror] at h
      cases h
      exact .inr (.inr ⟨halt, rfl⟩)
    · split at h
      · split at h
        · cases h
          exact .inr (.inl rfl)
        · cases h
      · split at h
        · cases h
          exact .inl ⟨_, rfl⟩
        · split at h
          · cases h
            exact .inr (.inl rfl)
          · cases h

theorem foreseen_resolveMentors {e : MentorError}
    (h : resolveMentors env plan dryRun session = (.error e, last)) : Foreseen e := by
  unfold resolveMentors at h
  simp only at h
  split at h
  · cases h
    exact .inl ⟨_, rfl⟩
  · split at h
    · cases h
    · split at h
      · cases h
      · rename_i hcount
        exact foreseen_spawnMentors hcount h

end Failing

/-- What the phase of the mentors comes to, with the trainees that were prepared before. -/
structure MentorsChosen (env : Environment ω) (view : HallView ω) (plan : ArenaPlan)
    (prepared opening : Session ω) (result : Except SeedError Unit) : Prop where
  /-- Mentors are all that trainees get. -/
  trainees : opening.trainees.map Trainee.unmentored = prepared.trainees
  fit : ∀ trainee ∈ opening.trainees, ∀ id ∈ trainee.mentor, ∃ agent, agent.id = id ∧
    Fit (view.hall opening.world).store
      (opening.trainees.map fun trainee => trainee.agent.id) agent
  /-- Nobody is created while somebody is fit. -/
  spared : (∃ agent, Fit (view.hall prepared.world).store
      (prepared.trainees.map fun trainee => trainee.agent.id) agent) →
    env.Idles prepared.world opening.world ∧
      opening.report.agentsCreated = prepared.report.agentsCreated ∧
      opening.report.npcsSpawned = prepared.report.npcsSpawned
  /-- Without mentors the run goes on, with an entry that says why; only a halt is final. -/
  failing : ∀ e session, resolveMentors env plan false prepared = (.error e, session) →
    (∃ halt, e = .halted halt ∧ result = .error (.halted halt)) ∨
      ((e = .noneCreated ∨ ∃ error, e = .lookup error) ∧ result = .ok () ∧
        opening.trainees = prepared.trainees ∧
        opening.report = session.report.noteError e.message)

theorem map_unmentored {trainees : List Trainee}
    (hnone : ∀ trainee ∈ trainees, trainee.mentor = none) :
    trainees.map Trainee.unmentored = trainees := by
  refine (List.map_congr_left fun trainee htrainee => ?_).trans (List.map_id trainees)
  rw [Trainee.unmentored, ← hnone trainee htrainee]
  rfl

theorem ids_of_unmentored {trainees others : List Trainee}
    (h : trainees.map Trainee.unmentored = others) :
    (trainees.map fun trainee => trainee.agent.id) =
      others.map fun trainee => trainee.agent.id := by
  rw [← h, List.map_map]
  rfl

theorem fit_ensureMentors (hosts : env.Hosts view) {prepared : Session ω}
    (hnone : ∀ trainee ∈ prepared.trainees, trainee.mentor = none) :
    ∀ trainee ∈ (ensureMentors env plan false prepared).2.trainees, ∀ id ∈ trainee.mentor,
      ∃ agent, agent.id = id ∧
        Fit (view.hall (ensureMentors env plan false prepared).2.world).store
          (prepared.trainees.map fun trainee => trainee.agent.id) agent := by
  have hsame := (resolveMentors_counts env plan false prepared).1
  have hnobody : ∀ trainee ∈ prepared.trainees, ∀ id, id ∉ trainee.mentor := by
    intro trainee htrainee id hid
    rw [hnone trainee htrainee] at hid
    cases hid
  rw [← hsame] at hnobody
  unfold ensureMentors
  split <;> rename_i hresolve <;> rw [hresolve] at hnobody
  · exact fun trainee htrainee id hid => absurd hid (hnobody trainee htrainee id)
  · exact fun trainee htrainee id hid => absurd hid (hnobody trainee htrainee id)
  · exact fun trainee htrainee id hid => absurd hid (hnobody trainee htrainee id)
  · intro trainee htrainee id hid
    exact fit_resolveMentors plan hosts hresolve id (mentor_assignMentors trainee htrainee id hid)

theorem idles_ensureMentors (hosts : env.Hosts view) {prepared : Session ω}
    (hfit : ∃ agent, Fit (view.hall prepared.world).store
      (prepared.trainees.map fun trainee => trainee.agent.id) agent) :
    env.Idles prepared.world (ensureMentors env plan false prepared).2.world ∧
      (ensureMentors env plan false prepared).2.report.agentsCreated =
        prepared.report.agentsCreated ∧
      (ensureMentors env plan false prepared).2.report.npcsSpawned =
        prepared.report.npcsSpawned := by
  obtain ⟨hidle, hreport⟩ := idles_resolveMentors plan hosts hfit
  have hcounts : (resolveMentors env plan false prepared).2.report.agentsCreated =
        prepared.report.agentsCreated ∧
      (resolveMentors env plan false prepared).2.report.npcsSpawned =
        prepared.report.npcsSpawned := by
    rw [hreport]
    exact ⟨rfl, rfl⟩
  unfold ensureMentors
  split <;> rename_i hresolve <;> rw [hresolve] at hidle hcounts <;> exact ⟨hidle, hcounts⟩

theorem ensureMentors_of_error {prepared session : Session ω} {e : MentorError}
    (h : resolveMentors env plan false prepared = (.error e, session)) :
    (∃ halt, e = .halted halt ∧
        ensureMentors env plan false prepared = (.error (.halted halt), session)) ∨
      ((e = .noneCreated ∨ ∃ error, e = .lookup error) ∧
        ensureMentors env plan false prepared =
          (.ok (), { session with report := session.report.noteError e.message })) := by
  unfold ensureMentors
  rw [h]
  rcases foreseen_resolveMentors h with ⟨error, rfl⟩ | rfl | ⟨halt, rfl⟩
  · exact .inr ⟨.inr ⟨error, rfl⟩, rfl⟩
  · exact .inr ⟨.inl rfl, rfl⟩
  · exact .inl ⟨halt, rfl, rfl⟩

theorem mentorsChosen_ensureMentors (plan : ArenaPlan) (hosts : env.Hosts view)
    {prepared : Session ω}
    (hnone : ∀ trainee ∈ prepared.trainees, trainee.mentor = none) :
    MentorsChosen env view plan prepared (ensureMentors env plan false prepared).2
      (ensureMentors env plan false prepared).1 := by
  have htrainees : (ensureMentors env plan false prepared).2.trainees.map Trainee.unmentored =
      prepared.trainees :=
    (ensureMentors_counts env plan false prepared).1.trans (map_unmentored hnone)
  refine ⟨htrainees, ?_, idles_ensureMentors hosts, ?_⟩
  · rw [ids_of_unmentored htrainees]
    exact fit_ensureMentors hosts hnone
  · intro e session hresolve
    have hsame := (resolveMentors_counts env plan false prepared).1
    rw [hresolve] at hsame
    rcases ensureMentors_of_error hresolve with ⟨halt, he, heq⟩ | ⟨he, heq⟩ <;> rw [heq]
    · exact .inl ⟨halt, he, rfl⟩
    · exact .inr ⟨he, rfl, hsame, rfl⟩

/-- After its trainees are prepared, a run with mentors comes to their phase, and then to its
training. -/
theorem phases_of_prepared {idempotent : Bool} {world checked : ω} {curriculum : Curriculum}
    {prepared : Session ω} (hmentored : plan.mentored = true)
    (hcheck : env.check world = (.ok (), checked))
    (htemplates : (TemplateSource.choose plan.domain plan.questFile).load env.folder =
      .ok curriculum)
    (hprepare : preparePhase env plan false idempotent (.start false checked) =
      (.ok (), prepared)) :
    phases env plan false idempotent (.start false world) =
      match ensureMentors env plan false prepared with
      | (.error e, session) => (.error e, session)
      | (.ok (), session) =>
        ((Training.train env plan curriculum session).1.mapError .halted,
          (Training.train env plan curriculum session).2) := by
  have hstart : (Session.start false world).world = world := rfl
  have hprepared : prepare env plan false idempotent 0
      (plan.profiles.zip (plan.targets.tierGoals plan.profiles.length))
      { Session.start false world with world := checked } = (.ok (), prepared) := hprepare
  simp only [phases, hstart, hcheck, htemplates, hprepared, hmentored, if_true,
    Bool.false_eq_true, if_false]
  cases ensureMentors env plan false prepared with
  | mk result opening =>
      cases result with
      | error e => rfl
      | ok done =>
          simp only
          cases Training.train env plan curriculum opening with
          | mk answer last => cases answer <;> rfl

end Arena

namespace Environment

open Arena

variable {env : Environment ω} {view : HallView ω} {plan : ArenaPlan} {world checked : ω}
  {curriculum : Curriculum} {prepared : Session ω}

/-- Every run that prepared its trainees gives them mentors, if at all, who are stored, fit and none
of the trainees. It creates new ones only if nobody is fit, and when there are none it notes why and
comes to its training without. -/
theorem Hosts.mentors_chosen (hosts : env.Hosts view) (hmentored : plan.mentored = true)
    (idempotent : Bool) (hcheck : env.check world = (.ok (), checked))
    (htemplates : (TemplateSource.choose plan.domain plan.questFile).load env.folder =
      .ok curriculum)
    (hprepare : preparePhase env plan false idempotent (.start false checked) =
      (.ok (), prepared)) :
    (∀ trainee ∈ prepared.trainees, trainee.mentor = none) ∧
      ∃ result opening, ensureMentors env plan false prepared = (result, opening) ∧
        MentorsChosen env view plan prepared opening result ∧
        (∀ e, result = .error e → phases env plan false idempotent (.start false world) =
          (.error e, opening)) ∧
        (result = .ok () → phases env plan false idempotent (.start false world) =
          ((Training.train env plan curriculum opening).1.mapError .halted,
            (Training.train env plan curriculum opening).2)) := by
  have hnone : ∀ trainee ∈ prepared.trainees, trainee.mentor = none :=
    mentor_prepare false idempotent hprepare fun _ htrainee => by cases htrainee
  have hchosen := mentorsChosen_ensureMentors plan hosts hnone
  have hphases := phases_of_prepared hmentored hcheck htemplates hprepare
  cases hensure : ensureMentors env plan false prepared with
  | mk result opening =>
      rw [hensure] at hchosen hphases
      refine ⟨hnone, result, opening, rfl, hchosen, ?_, ?_⟩
      · rintro e rfl
        exact hphases
      · rintro rfl
        exact hphases

/-- Two trainees and a mentor who is busy. Of two new mentors one cannot be stored; the other one
takes one trainee. -/
theorem Hosts.mentors_chosen_hermit :
    let plan := { ArenaPlan.default with
      profiles := List.replicate 2 { name := "scout", skills := [], modelSettings := none }
      mentored := true
      bootstrapMentors := 2
      traineesPerMentor := 1 }
    let world := { Rehearsal.onStore hermit with storeCalls := .create [("put_agent", [3])] }
    ∃ prepared, preparePhase Rehearsal.quiet plan false true (.start false world) =
        (.ok (), prepared) ∧
      (∀ trainee ∈ prepared.trainees, trainee.mentor = none) ∧
      ∃ result opening, ensureMentors Rehearsal.quiet plan false prepared = (result, opening) ∧
        MentorsChosen Rehearsal.quiet Rehearsal.hallView plan prepared opening result ∧
        opening.trainees.map (fun trainee => trainee.mentor) =
          [some "guildhall.agent.mentor-5", none] := by
  intro plan world
  have hok : ((preparePhase Rehearsal.quiet plan false true
      (.start false world)).1.toOption.map fun _ => true) = some true := by decide +kernel
  have hmentors : ((ensureMentors Rehearsal.quiet plan false (preparePhase Rehearsal.quiet plan
      false true (.start false world)).2).2.trainees.map fun trainee => trainee.mentor) =
        [some "guildhall.agent.mentor-5", none] := by decide +kernel
  have hmentored : plan.mentored = true := rfl
  have hcheck : Rehearsal.quiet.check world = (.ok (), world) := rfl
  have htemplates : (TemplateSource.choose plan.domain plan.questFile).load
      Rehearsal.quiet.folder = .ok (.ofCollection Bundled.general) := rfl
  obtain ⟨done, prepared, hprepare, -⟩ := exists_ok_of_map hok
  obtain ⟨hnone, result, opening, hensure, hchosen, -⟩ :=
    Rehearsal.hosts_quiet.mentors_chosen hmentored true hcheck htemplates hprepare
  rw [hprepare, hensure] at hmentors
  exact ⟨prepared, hprepare, hnone, result, opening, hensure, hchosen, hmentors⟩

end Environment

end QuestAcademy
