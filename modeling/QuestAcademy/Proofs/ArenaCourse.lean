import QuestAcademy.Arena
import QuestAcademy.Proofs.TierGoals
import QuestAcademy.Proofs.TrainingCourse

namespace QuestAcademy

variable {ω : Type}

def Session.start (dryRun : Bool) (world : ω) : Session ω :=
  { trainees := [], report := Report.start .trainingArena dryRun, world }

def Trainee.unmentored (trainee : Trainee) : Trainee :=
  { trainee with mentor := none }

theorem Trainee.exists_of_unmentored {trainees others : List Trainee}
    (h : trainees.map unmentored = others.map unmentored) {trainee : Trainee}
    (htrainee : trainee ∈ trainees) :
    ∃ other ∈ others, other.agent = trainee.agent ∧ other.key = trainee.key := by
  have hmem := List.mem_map_of_mem (f := unmentored) htrainee
  rw [h] at hmem
  obtain ⟨other, hother, heq⟩ := List.mem_map.mp hmem
  exact ⟨other, hother, congrArg (fun unmentored => unmentored.agent) heq,
    congrArg (fun unmentored => unmentored.key) heq⟩

namespace Arena

def Preparation.agent : Preparation → Agent
  | .reused agent | .created agent => agent

theorem trainees_enlist (name : String) (target : Nat) (preparation : Preparation)
    (session : Session ω) :
    (enlist name target preparation session).trainees = session.trainees ++
      [{ agent := preparation.agent, key := instanceKey name, target, mentor := none }] := by
  cases preparation <;> rfl

/-- How a profile comes to an agent. In a dry run the store is not asked; else an agent of the name
is found, or a new one is put there. -/
inductive Prepares (store : StoreAccess ω) (idempotent : Bool) (profile : TraineeProfile)
    (name : String) (world : ω) : Bool → Preparation → ω → Prop
  | dry : Prepares store idempotent profile name world true
      (.created (newTrainee store profile name)) world
  | reused {agent : Agent} {after : ω} (hasked : idempotent = true)
      (hfind : store.findByName name world = (.ok (some agent), after)) :
      Prepares store idempotent profile name world false (.reused agent) after
  | created {ready after : ω}
      (hmissing : (if idempotent then store.findByName name world else (.ok none, world)) =
        (.ok none, ready))
      (hput : store.putAgent (instanceKey name) (newTrainee store profile name) ready =
        (.ok (), after)) :
      Prepares store idempotent profile name world false
        (.created (newTrainee store profile name)) after

theorem prepares_of_prepareOne {store : StoreAccess ω} {dryRun idempotent : Bool}
    {profile : TraineeProfile} {name : String} {preparation : Preparation} {world after : ω}
    (h : prepareOne store dryRun idempotent profile name world = (.ok preparation, after)) :
    Prepares store idempotent profile name world dryRun preparation after := by
  unfold prepareOne at h
  simp only at h
  split at h
  · rename_i hdry
    cases h
    rw [hdry]
    exact .dry
  · rename_i hdry
    rw [Bool.not_eq_true] at hdry
    rw [hdry]
    split at h
    · cases h
    · rename_i hlookup
      cases h
      split at hlookup
      · rename_i hasked
        exact .reused hasked hlookup
      · cases hlookup
    · rename_i hmissing
      split at h
      · cases h
      · rename_i hput
        cases h
        exact .created hmissing hput

end Arena

section Reports

variable (env : Environment ω) (dryRun idempotent : Bool)

def Report.quests (report : Report) : Nat × Nat :=
  (report.questsRun, report.questsCompleted)

theorem Report.quests_noteFounding (report : Report) (founding : Founding) :
    (report.noteFounding founding).quests = report.quests := by
  cases founding <;> rfl

theorem Report.quests_notePlacement (report : Report) (placement : Placement) :
    (report.notePlacement placement).quests = report.quests := by
  cases placement <;> rfl

theorem Report.quests_absorb (report : Report) {other : Report} (h : other.quests = (0, 0)) :
    (report.absorb other).quests = report.quests := by
  obtain ⟨hrun, hcompleted⟩ := Prod.mk.inj h
  simp only [quests, absorb, hrun, hcompleted, Nat.add_zero]

theorem Roster.quests_seedGuilds (total done : Nat) (charters : List GuildCharter)
    (report : Report) (world : ω) :
    (seedGuilds env dryRun total done charters report world).2.1.quests = report.quests := by
  induction charters generalizing done report world with
  | nil => rfl
  | cons charter rest ih =>
      rw [seedGuilds]
      split
      · rfl
      · simp only
        rw [ih, Report.quests_noteFounding]

theorem Roster.quests_seedAgents (total done : Nat) (items : List (AgentBatch × String))
    (report : Report) (world : ω) :
    (seedAgents env dryRun idempotent total done items report world).2.1.quests =
      report.quests := by
  induction items generalizing done report world with
  | nil => rfl
  | cons item rest ih =>
      rw [seedAgents]
      split
      · rfl
      · simp only
        rw [ih, Report.quests_notePlacement]

theorem Roster.quests_seed {plan : RosterPlan} {world after : ω} {report : Report}
    (h : seed env plan dryRun idempotent world = (.ok report, after)) : report.quests = (0, 0) := by
  unfold seed at h
  simp only at h
  split at h
  · cases h
  · have hguilds := Roster.quests_seedGuilds env dryRun plan.charters.length 0 plan.charters
      (Report.start .tieredRoster dryRun) world
    split at h <;> rename_i heq <;> rw [heq] at hguilds
    · cases h
    · rename_i founded foundedWorld
      have hagents := Roster.quests_seedAgents env dryRun idempotent plan.agentCount 0
        plan.items founded foundedWorld
      split at h <;> rename_i hseeded <;> rw [hseeded] at hagents
      · cases h
      · cases h
        exact hagents.trans hguilds

end Reports

namespace Arena

variable (env : Environment ω) (plan : ArenaPlan) (dryRun idempotent : Bool)

section Preparing

variable {session last : Session ω}

theorem length_enlist (name : String) (target : Nat) (preparation : Preparation)
    (session : Session ω) :
    (enlist name target preparation session).trainees.length = session.trainees.length + 1 := by
  cases preparation <;> exact List.length_append

theorem report_enlist (name : String) (target : Nat) (preparation : Preparation)
    (session : Session ω) :
    (enlist name target preparation session).report.quests = session.report.quests ∧
      (enlist name target preparation session).report.errors = session.report.errors := by
  cases preparation <;> exact ⟨rfl, rfl⟩

theorem length_prepare {done : Nat} {profiles : List (TraineeProfile × Nat)}
    (h : prepare env plan dryRun idempotent done profiles session = (.ok (), last)) :
    last.trainees.length = session.trainees.length + profiles.length := by
  induction profiles generalizing done session with
  | nil =>
      cases h
      rfl
  | cons pair rest ih =>
      obtain ⟨profile, goal⟩ := pair
      rw [prepare] at h
      split at h
      · cases h
      · simp only at h
        split at h
        · cases h
        · rw [ih h, length_enlist, List.length_cons, Nat.add_assoc, Nat.add_comm 1]

theorem report_prepare (done : Nat) (profiles : List (TraineeProfile × Nat))
    (session : Session ω) :
    (prepare env plan dryRun idempotent done profiles session).2.report.quests =
        session.report.quests ∧
      (prepare env plan dryRun idempotent done profiles session).2.report.errors =
        session.report.errors := by
  induction profiles generalizing done session with
  | nil => exact ⟨rfl, rfl⟩
  | cons pair rest ih =>
      obtain ⟨profile, goal⟩ := pair
      rw [prepare]
      split
      · exact ⟨rfl, rfl⟩
      · simp only
        split
        · exact ⟨rfl, rfl⟩
        · rename_i preparation made _
          obtain ⟨hquests, herrors⟩ := report_enlist (profile.traineeName (done + 1))
            plan.targets.convergenceLevel preparation { session with world := made }
          obtain ⟨hsame, hnone⟩ := ih (done + 1) (enlist (profile.traineeName (done + 1))
            plan.targets.convergenceLevel preparation { session with world := made })
          exact ⟨hsame.trans hquests, hnone.trans herrors⟩

theorem unmentored_assignMentors (mentors : List String) (trainees : List Trainee) :
    (assignMentors plan mentors trainees).map Trainee.unmentored =
      trainees.map Trainee.unmentored := by
  have hlength : trainees.length ≤
      (Mentors.assign trainees.length mentors plan.traineesPerMentor).length := by
    simp [Mentors.assign]
  calc (assignMentors plan mentors trainees).map Trainee.unmentored
      = ((trainees.zip (Mentors.assign trainees.length mentors plan.traineesPerMentor)).map
          Prod.fst).map Trainee.unmentored := by
        rw [assignMentors, List.map_map, List.map_map]
        rfl
    _ = trainees.map Trainee.unmentored := by rw [List.map_fst_zip hlength]

theorem spawnMentors_counts (excluded : List String) (session : Session ω) :
    (spawnMentors env plan dryRun excluded session).2.trainees = session.trainees ∧
      (spawnMentors env plan dryRun excluded session).2.report.quests =
        session.report.quests := by
  unfold spawnMentors
  split
  · exact ⟨rfl, rfl⟩
  · simp only
    split
    · exact ⟨rfl, rfl⟩
    · rename_i hseed
      have hnone := Roster.quests_seed env dryRun true hseed
      have hsame := session.report.quests_absorb hnone
      split
      · exact ⟨rfl, hsame⟩
      · split <;> exact ⟨rfl, hsame⟩

theorem resolveMentors_counts (session : Session ω) :
    (resolveMentors env plan dryRun session).2.trainees = session.trainees ∧
      (resolveMentors env plan dryRun session).2.report.quests = session.report.quests := by
  unfold resolveMentors
  simp only
  split
  · exact ⟨rfl, rfl⟩
  · split
    · exact ⟨rfl, rfl⟩
    · split
      · exact ⟨rfl, rfl⟩
      · exact spawnMentors_counts env plan dryRun _ _

/-- Mentors are all that trainees get. -/
theorem ensureMentors_counts (session : Session ω) :
    (ensureMentors env plan dryRun session).2.trainees.map Trainee.unmentored =
        session.trainees.map Trainee.unmentored ∧
      (ensureMentors env plan dryRun session).2.report.quests = session.report.quests := by
  obtain ⟨hsame, hcount⟩ := resolveMentors_counts env plan dryRun session
  unfold ensureMentors
  split <;> rename_i heq <;> rw [heq] at hsame hcount <;> simp only at hsame hcount
  · rw [hsame]
    exact ⟨rfl, hcount⟩
  · rw [hsame]
    exact ⟨rfl, hcount⟩
  · rw [hsame]
    exact ⟨rfl, hcount⟩
  · rw [unmentored_assignMentors, hsame]
    exact ⟨rfl, hcount⟩

theorem length_tierGoals (targets : LevelTargets) (agents : Nat) :
    agents ≤ (targets.tierGoals agents).length :=
  Nat.le_of_eq (targets.length_tierGoals agents).symm

/-- Of the plan only the number of profiles and the level of convergence matter to those who prepare
trainees, and the goals of the trainees do not. -/
theorem prepare_congr {plan other : ArenaPlan}
    (hcount : other.profiles.length = plan.profiles.length)
    (htarget : other.targets.convergenceLevel = plan.targets.convergenceLevel) (done : Nat)
    {pairs others : List (TraineeProfile × Nat)}
    (hprofiles : others.map Prod.fst = pairs.map Prod.fst) (session : Session ω) :
    prepare env other dryRun idempotent done others session =
      prepare env plan dryRun idempotent done pairs session := by
  induction pairs generalizing others done session with
  | nil =>
      rw [List.map_eq_nil_iff.mp hprofiles]
      rfl
  | cons pair rest ih =>
      cases others with
      | nil => cases hprofiles
      | cons another more =>
          obtain ⟨hfirst, hmore⟩ := List.cons.inj hprofiles
          simp only [prepare, hcount, htarget, show another.1 = pair.1 from hfirst, ih _ hmore]

end Preparing

/-- The phases before the training: the templates are loaded, and the trainees are prepared and
given mentors. -/
def ready (session : Session ω) : Except SeedError Curriculum × Session ω :=
  match env.check session.world with
  | (.error halt, world) => (.error (.halted halt), { session with world })
  | (.ok (), world) =>
    match (TemplateSource.choose plan.domain plan.questFile).load env.folder with
    | .error e => (.error (.templates e), { session with world })
    | .ok curriculum =>
      let profiles := plan.profiles.zip (plan.targets.tierGoals plan.profiles.length)
      match prepare env plan dryRun idempotent 0 profiles { session with world } with
      | (.error e, session) => (.error e, session)
      | (.ok (), session) =>
        let mentored : Except SeedError Unit × Session ω :=
          if plan.mentored then ensureMentors env plan dryRun session else (.ok (), session)
        match mentored with
        | (.error e, session) => (.error e, session)
        | (.ok (), session) => (.ok curriculum, session)

/-- Before the training no quest is tried. -/
theorem quests_ready (session : Session ω) :
    (ready env plan dryRun idempotent session).2.report.quests = session.report.quests := by
  unfold ready
  split
  · rfl
  · split
    · rfl
    · rename_i checked _ _ _ _
      have hprepared := (report_prepare env plan dryRun idempotent 0
        (plan.profiles.zip (plan.targets.tierGoals plan.profiles.length))
        { session with world := checked }).1
      simp only
      split <;> rename_i hprepare <;> rw [hprepare] at hprepared
      · exact hprepared
      · rename_i prepared
        have hmentored : (if plan.mentored then ensureMentors env plan dryRun prepared
            else (.ok (), prepared)).2.report.quests = prepared.report.quests := by
          split
          · exact (ensureMentors_counts env plan dryRun prepared).2
          · rfl
        split <;> rename_i heq <;> rw [heq] at hmentored <;> exact hmentored.trans hprepared

theorem ready_counts {world : ω} {curriculum : Curriculum} {opening : Session ω}
    (h : ready env plan dryRun idempotent (.start dryRun world) = (.ok curriculum, opening)) :
    opening.trainees.length = plan.profiles.length ∧ opening.report.questsRun = 0 := by
  have hquests := quests_ready env plan dryRun idempotent (.start dryRun world)
  rw [h] at hquests
  refine ⟨?_, congrArg Prod.fst hquests⟩
  unfold ready at h
  split at h
  · cases h
  · split at h
    · cases h
    · simp only at h
      split at h
      · cases h
      · rename_i prepared hprepare
        have hprofiles : prepared.trainees.length = plan.profiles.length := by
          rw [length_prepare env plan dryRun idempotent hprepare, List.length_zip,
            Nat.min_eq_left (length_tierGoals _ _)]
          exact Nat.zero_add _
        split at h
        · cases h
        · rename_i hmentored
          cases h
          split at hmentored
          · have hmentors := (ensureMentors_counts env plan dryRun prepared).1
            rw [hmentored] at hmentors
            have hsame := congrArg List.length hmentors
            simp only [List.length_map] at hsame
            exact hsame.trans hprofiles
          · cases hmentored
            exact hprofiles

/-- A run in terms of the phases before the training and the training. -/
theorem phases_eq (session : Session ω) :
    phases env plan dryRun idempotent session =
      match ready env plan dryRun idempotent session with
      | (.error e, session) => (.error e, session)
      | (.ok curriculum, session) =>
        if dryRun then (.ok (), session)
        else
          match Training.train env plan curriculum session with
          | (.error halt, session) => (.error (.halted halt), session)
          | (.ok (), session) => (.ok (), session) := by
  unfold phases ready
  cases env.check session.world with
  | mk permit checked =>
      cases permit with
      | error halt => rfl
      | ok done =>
          cases (TemplateSource.choose plan.domain plan.questFile).load env.folder with
          | error e => rfl
          | ok curriculum =>
              simp only
              cases prepare env plan dryRun idempotent 0
                  (plan.profiles.zip (plan.targets.tierGoals plan.profiles.length))
                  { session with world := checked } with
              | mk prepared opening =>
                  cases prepared with
                  | error e => rfl
                  | ok done =>
                      simp only
                      cases (if plan.mentored then ensureMentors env plan dryRun opening
                          else (.ok (), opening)) with
                      | mk mentored opening =>
                          cases mentored with
                          | error e => rfl
                          | ok done => rfl

/-- The rounds of a run and how its phases end. A run that fails before the training, and a dry run,
have none. -/
inductive Course (world : ω) : List (TrainingRound ω) → Except SeedError Unit → Session ω → Prop
  | unready {e : SeedError} {last : Session ω}
      (hready : ready env plan dryRun idempotent (.start dryRun world) = (.error e, last)) :
      Course world [] (.error e) last
  | dry {curriculum : Curriculum} {last : Session ω} (hdry : dryRun = true)
      (hready : ready env plan dryRun idempotent (.start dryRun world) = (.ok curriculum, last)) :
      Course world [] (.ok ()) last
  | trained {curriculum : Curriculum} {opening last : Session ω} {log : List (TrainingRound ω)}
      {result : Except Halt Unit} (hdry : dryRun = false)
      (hready : ready env plan dryRun idempotent (.start dryRun world) =
        (.ok curriculum, opening))
      (hcourse : Training.Course env plan (Training.budget plan opening.trainees.length)
        (Selector.create curriculum plan.selection) opening log result last) :
      Course world log (result.mapError .halted) last

theorem course_phases (world : ω) :
    ∃ log, Course env plan dryRun idempotent world log
      (phases env plan dryRun idempotent (.start dryRun world)).1
      (phases env plan dryRun idempotent (.start dryRun world)).2 := by
  rw [phases_eq]
  cases hready : ready env plan dryRun idempotent (.start dryRun world) with
  | mk answer opening =>
      cases answer with
      | error e => exact ⟨[], .unready hready⟩
      | ok curriculum =>
          simp only
          cases hdry : dryRun with
          | true =>
              subst hdry
              exact ⟨[], .dry rfl hready⟩
          | false =>
              subst hdry
              obtain ⟨log, hcourse⟩ := Training.course_rounds env plan
                (Training.budget plan opening.trainees.length)
                (Selector.create curriculum plan.selection) opening
                (Training.budget plan opening.trainees.length) (Nat.le_add_left _ _)
              refine ⟨log, ?_⟩
              have htrained := Course.trained rfl hready hcourse
              simp only [Training.train, Bool.false_eq_true, if_false]
              split <;> rename_i htrain <;> rw [htrain] at htrained <;> exact htrained

/-- The rounds of a run and what it returns. A plan that is not valid has none; only a run that
comes to its end reads its trainees once more. -/
inductive Run (world : ω) : List (TrainingRound ω) → Except Failure Report → ω → Prop
  | refused {fault : PlanFault} (hvalid : plan.validate = .error fault) :
      Run world [] (.error ((Report.start .trainingArena dryRun).fail (.plan fault))) world
  | failed {log : List (TrainingRound ω)} {e : SeedError} {last : Session ω}
      (hvalid : plan.validate = .ok ())
      (hcourse : Course env plan dryRun idempotent world log (.error e) last) :
      Run world log (.error ((withTrainees last.report last.trainees).fail e)) last.world
  | completed {log : List (TrainingRound ω)} {last : Session ω} {trainees : List Trainee}
      {after : ω} (hvalid : plan.validate = .ok ())
      (hcourse : Course env plan dryRun idempotent world log (.ok ()) last)
      (hread : (if dryRun then (last.trainees, last.world)
        else refreshAll env.store last.trainees last.world) = (trainees, after)) :
      Run world log (.ok (withTrainees last.report trainees)) after

theorem run_run (world : ω) :
    ∃ log, Run env plan dryRun idempotent world log
      (run env plan dryRun idempotent world).1 (run env plan dryRun idempotent world).2 := by
  unfold run
  simp only
  split
  · rename_i fault hvalid
    exact ⟨[], .refused hvalid⟩
  · rename_i hvalid
    obtain ⟨log, hcourse⟩ := course_phases env plan dryRun idempotent world
    unfold Session.start at hcourse
    split <;> rename_i hphases <;> rw [hphases] at hcourse
    · exact ⟨log, .failed hvalid hcourse⟩
    · exact ⟨log, .completed hvalid hcourse rfl⟩

def scouts : ArenaPlan :=
  { ArenaPlan.default with
    profiles := List.replicate 3 { name := "scout", skills := [], modelSettings := none }
    questsPerTrainee := 1 }

end Arena

end QuestAcademy
