import QuestAcademy.Proofs.MentorChoice
import QuestAcademy.Proofs.Recording

namespace QuestAcademy

variable {ω : Type}

namespace Arena

variable {env : Environment ω} {written : ω → List Agent} {plan : ArenaPlan}
  {base lost : List Agent} {dryRun idempotent : Bool} {session : Session ω} {world after : ω}

/-- The agent that was stored for a profile. -/
def storedFor : Except StoreError Preparation → List Agent
  | .ok (.created agent) => [agent]
  | .ok (.reused _) | .error _ => []

theorem records_prepareOne (h : env.Records written) (idempotent : Bool)
    (profile : TraineeProfile) (name : String) (world : ω) :
    written (prepareOne env.store false idempotent profile name world).2 =
      written world ++ storedFor (prepareOne env.store false idempotent profile name world).1 := by
  have hlookup : written (if idempotent then env.store.findByName name world
      else (.ok none, world)).2 = written world := by
    split
    · exact h.findByName name world
    · rfl
  unfold prepareOne
  simp only [Bool.false_eq_true, if_false]
  split <;> rename_i heq <;> rw [heq] at hlookup
  · exact hlookup.trans (List.append_nil _).symm
  · exact hlookup.trans (List.append_nil _).symm
  · split <;> rename_i hput
    · exact ((h.refused hput).trans hlookup).trans (List.append_nil _).symm
    · exact (h.stored hput).trans (congrArg (· ++ _) hlookup)

theorem written_of_unprepared (h : env.Records written) {profile : TraineeProfile} {name : String}
    {e : StoreError}
    (hmade : prepareOne env.store dryRun idempotent profile name world = (.error e, after)) :
    written after = written world := by
  cases dryRun with
  | true => cases hmade
  | false =>
      have hstored := records_prepareOne h idempotent profile name world
      rw [hmade] at hstored
      exact hstored.trans (List.append_nil _)

theorem isNpc_prepareOne {profile : TraineeProfile} {name : String} {agent : Agent}
    (h : prepareOne env.store dryRun idempotent profile name world =
      (.ok (.created agent), after)) : agent.isNpc = false := by
  cases prepares_of_prepareOne h with
  | dry | created => rfl

/-- The report counts whom it lists, the trainees included; and unless the run is dry, it counts
whoever was written since the start, but for those that are lost. -/
structure Booked (written : ω → List Agent) (base : List Agent) (dryRun : Bool)
    (lost : List Agent) (session : Session ω) : Prop where
  listed : session.trainees.length + session.report.agents.length =
    session.report.agentsCreated + session.report.agentsSkipped
  counted : dryRun = false → ∃ reported, written session.world = base ++ (reported ++ lost) ∧
    session.report.agentsCreated = reported.length ∧
    session.report.npcsSpawned = reported.countP Agent.isNpc

theorem Booked.at_world (h : Booked written base dryRun lost session)
    (hsame : written after = written session.world) :
    Booked written base dryRun lost { session with world := after } := by
  refine ⟨h.listed, ?_⟩
  rw [hsame]
  exact h.counted

theorem Booked.enlist (h : Booked written base dryRun [] session) (hrecords : env.Records written)
    {profile : TraineeProfile} {name : String} {preparation : Preparation}
    (hmade : prepareOne env.store dryRun idempotent profile name session.world =
      (.ok preparation, after)) (target : Nat) :
    Booked written base dryRun []
      (enlist name target preparation { session with world := after }) := by
  have hlisted := h.listed
  constructor
  · cases preparation <;> simp only [Arena.enlist, List.length_append, List.length_singleton] <;>
      omega
  · rintro rfl
    obtain ⟨reported, hwritten, hcreated, hnpcs⟩ := h.counted rfl
    have hstored := records_prepareOne hrecords idempotent profile name session.world
    rw [hmade, hwritten, List.append_nil] at hstored
    cases preparation with
    | reused agent =>
        refine ⟨reported, ?_, hcreated, hnpcs⟩
        rw [List.append_nil]
        exact hstored.trans (List.append_nil _)
    | created agent =>
        have hplayer : agent.isNpc = false := isNpc_prepareOne hmade
        refine ⟨reported ++ [agent], ?_, ?_, ?_⟩
        · rw [List.append_nil, ← List.append_assoc]
          exact hstored
        · rw [List.length_append, ← hcreated]
          rfl
        · rw [List.countP_append, List.countP_singleton, hplayer]
          exact hnpcs

theorem booked_prepare (plan : ArenaPlan) (idempotent : Bool) (hrecords : env.Records written)
    (done : Nat)
    (profiles : List (TraineeProfile × Nat)) (h : Booked written base dryRun [] session) :
    Booked written base dryRun []
      (prepare env plan dryRun idempotent done profiles session).2 := by
  induction profiles generalizing done session with
  | nil => exact h
  | cons pair rest ih =>
      obtain ⟨profile, goal⟩ := pair
      have hchecked := hrecords.check session.world
      rw [prepare]
      split <;> rename_i hcheck <;> rw [hcheck] at hchecked
      · exact h.at_world hchecked
      · rename_i checked
        have hreported := hrecords.report
          (preparingEvent (profile.traineeName (done + 1)) (done + 1) plan.profiles.length) checked
        have hopen := h.at_world (hreported.trans hchecked)
        simp only
        split <;> rename_i hmade
        · exact hopen.at_world (written_of_unprepared hrecords hmade)
        · exact ih _ (hopen.enlist hrecords hmade _)

/-- Leave ended while new mentors were placed, and these had been stored by then. -/
def Cut (env : Environment ω) (written : ω → List Agent) (plan : ArenaPlan) (halt : Halt)
    (lost : List Agent) (after : ω) : Prop :=
  ∃ first asked failure,
    Roster.seed env (Mentors.roster plan.bootstrapMentors first) false true asked =
      (.error failure, after) ∧
    failure.error = .halted halt ∧ written after = written asked ++ lost ∧
    failure.partialReport.agentsCreated = lost.length ∧
    failure.partialReport.npcsSpawned = lost.countP Agent.isNpc

/-- The books are right, or they lack the mentors of a roster that was halted. -/
def Accounted {ε α : Type} (env : Environment ω) (written : ω → List Agent) (plan : ArenaPlan)
    (base : List Agent) (dryRun : Bool) (tell : Halt → ε) (answer : Except ε α)
    (session : Session ω) : Prop :=
  ∃ lost, Booked written base dryRun lost session ∧
    (lost = [] ∨ ∃ halt, answer = .error (tell halt) ∧ Cut env written plan halt lost session.world)

theorem Booked.accounted {ε α : Type} {tell : Halt → ε} {answer : Except ε α}
    (h : Booked written base dryRun [] session) :
    Accounted env written plan base dryRun tell answer session :=
  ⟨[], h, .inl rfl⟩

theorem Accounted.booked {ε α : Type} {tell : Halt → ε} {answer : Except ε α}
    (h : Accounted env written plan base dryRun tell answer session)
    (hgoes : ∀ halt, answer ≠ .error (tell halt)) : Booked written base dryRun [] session := by
  obtain ⟨lost, hbooked, rfl | ⟨halt, hhalt, -⟩⟩ := h
  · exact hbooked
  · exact absurd hhalt (hgoes halt)

theorem Accounted.relay {ε δ α β : Type} {tell : Halt → ε} {relate : Halt → δ}
    {answer : Except ε α} {other : Except δ β}
    (h : Accounted env written plan base dryRun tell answer session)
    (hrelay : ∀ halt, answer = .error (tell halt) → other = .error (relate halt)) :
    Accounted env written plan base dryRun relate other session := by
  obtain ⟨lost, hbooked, hlost⟩ := h
  refine ⟨lost, hbooked, hlost.imp_right ?_⟩
  rintro ⟨halt, hhalt, hcut⟩
  exact ⟨halt, hrelay halt hhalt, hcut⟩

theorem guildless_roster (count first : Nat) :
    ∀ item ∈ (Mentors.roster count first).items, item.1.guildId = none := by
  intro item hitem
  obtain ⟨batch, hbatch, hitem⟩ := List.mem_flatMap.mp hitem
  obtain ⟨name, -, rfl⟩ := List.mem_map.mp hitem
  rw [List.mem_singleton.mp hbatch]

theorem Booked.absorb (h : Booked written base dryRun [] session) (hrecords : env.Records written)
    {count first : Nat} {spawned : Report}
    (hsame : written world = written session.world)
    (hseed : Roster.seed env (Mentors.roster count first) dryRun true world =
      (.ok spawned, after)) :
    Booked written base dryRun []
      { session with report := session.report.absorb spawned, world := after } := by
  have hlisted := Roster.listed_seed env (Mentors.roster count first) dryRun true world
  rw [hseed] at hlisted
  constructor
  · calc session.trainees.length + (session.report.agents ++ spawned.agents).length
        = (session.trainees.length + session.report.agents.length) + spawned.agents.length := by
          rw [List.length_append, Nat.add_assoc]
      _ = (session.report.agentsCreated + session.report.agentsSkipped) +
          (spawned.agentsCreated + spawned.agentsSkipped) :=
          congrArg₂ (· + ·) h.listed hlisted
      _ = (session.report.agentsCreated + spawned.agentsCreated) +
          (session.report.agentsSkipped + spawned.agentsSkipped) := Nat.add_add_add_comm _ _ _ _
  · rintro rfl
    obtain ⟨reported, hwritten, hcreated, hnpcs⟩ := h.counted rfl
    obtain ⟨agents, hstored, hspawned, hspawnedNpcs⟩ :=
      Roster.records_seed hrecords (guildless_roster count first) true world
    rw [hseed] at hstored hspawned hspawnedNpcs
    refine ⟨reported ++ agents, ?_, ?_, ?_⟩
    · rw [hsame, hwritten, List.append_nil, List.append_assoc] at hstored
      rw [List.append_nil]
      exact hstored
    · rw [List.length_append, ← hcreated, ← hspawned]
      rfl
    · rw [List.countP_append, ← hnpcs, ← hspawnedNpcs]
      rfl

/-- A roster of mentors that is halted leaves the books as they were, but for what it stored. -/
theorem Booked.cut {halt : Halt} (h : Booked written base dryRun [] session)
    (hrecords : env.Records written) {first : Nat} {failure : Failure}
    (hsame : written world = written session.world) (herror : failure.error = .halted halt)
    (hseed : Roster.seed env (Mentors.roster plan.bootstrapMentors first) dryRun true world =
      (.error failure, after)) :
    ∃ lost, Booked written base dryRun lost { session with world := after } ∧
      (lost = [] ∨ Cut env written plan halt lost after) := by
  cases dryRun with
  | true => exact ⟨[], ⟨h.listed, nofun⟩, .inl rfl⟩
  | false =>
      obtain ⟨lost, hstored, hcreated, hnpcs⟩ :=
        Roster.records_seed hrecords (guildless_roster plan.bootstrapMentors first) true world
      rw [hseed] at hstored hcreated hnpcs
      refine ⟨lost, ⟨h.listed, fun _ => ?_⟩,
        .inr ⟨first, world, failure, hseed, herror, hstored, hcreated, hnpcs⟩⟩
      obtain ⟨reported, hwritten, hcounts⟩ := h.counted rfl
      refine ⟨reported, ?_, hcounts⟩
      rw [hsame, hwritten, List.append_nil, List.append_assoc] at hstored
      exact hstored

theorem Booked.settle (h : Booked written base dryRun [] session) (hrecords : env.Records written)
    (template : Template) (budget : Nat) (trainee : Trainee) (place : Nat)
    (outcome : Except AttemptError Receipt) :
    Booked written base dryRun []
      (Training.settle env template budget trainee place outcome session).2 := by
  have hnoted : ∀ {answer : Except Halt Unit} {report : Report},
      Training.noteAttempt session.report trainee template outcome = (answer, report) →
        Booked written base dryRun [] { session with report } := by
    intro answer report hnote
    cases outcome with
    | ok receipt =>
        cases hnote
        exact ⟨h.listed, h.counted⟩
    | error e => cases e <;> cases hnote <;> exact ⟨h.listed, h.counted⟩
  unfold Training.settle
  split <;> rename_i hnote
  · exact hnoted hnote
  · rename_i report
    have hsame := (hrecords.refresh trainee (env.report
      (Training.roundEvent trainee template report.questsRun budget) session.world)).trans
        (hrecords.report _ session.world)
    obtain ⟨hlisted, hcounted⟩ := (hnoted hnote).at_world hsame
    refine ⟨?_, hcounted⟩
    rw [List.length_set]
    exact hlisted

theorem length_assignMentors (mentors : List String) (trainees : List Trainee) :
    (assignMentors plan mentors trainees).length = trainees.length := by
  simpa using congrArg List.length (unmentored_assignMentors plan mentors trainees)

section Runs

variable (plan idempotent) (hrecords : env.Records written)
include hrecords

theorem accounted_spawnMentors (hcount : plan.bootstrapMentors ≠ 0) (excluded : List String)
    (h : Booked written base dryRun [] session) :
    Accounted env written plan base dryRun MentorError.halted
      (spawnMentors env plan dryRun excluded session).1
      (spawnMentors env plan dryRun excluded session).2 := by
  have hlisted := hrecords.listAgents session.world
  unfold spawnMentors
  split <;> rename_i hlist <;> rw [hlist] at hlisted
  · exact (h.at_world hlisted).accounted
  · simp only
    split <;> rename_i hseed
    · -- Only the error of the failed roster goes on; what its report tells is lost here.
      obtain ⟨halt, herror⟩ := Roster.halted_of_seed env _ dryRun true
        (Mentors.validate_roster hcount _) hseed
      obtain ⟨lost, hbooked, hlost⟩ := h.cut hrecords hlisted herror hseed
      refine ⟨lost, hbooked, hlost.imp_right fun hcut => ⟨halt, ?_, hcut⟩⟩
      rw [herror]
    · rename_i spawned placed
      have hbooked := h.absorb hrecords hlisted hseed
      split
      · exact hbooked.accounted
      · have hfound := hrecords.find excluded placed
        split <;> rename_i hfind <;> rw [hfind] at hfound
        · exact (hbooked.at_world hfound).accounted
        · exact (hbooked.at_world hfound).accounted

theorem accounted_resolveMentors (h : Booked written base dryRun [] session) :
    Accounted env written plan base dryRun MentorError.halted
      (resolveMentors env plan dryRun session).1 (resolveMentors env plan dryRun session).2 := by
  have hfound := hrecords.find (session.trainees.map fun trainee => trainee.agent.id)
    session.world
  unfold resolveMentors
  simp only
  split <;> rename_i hfind <;> rw [hfind] at hfound
  · exact (h.at_world hfound).accounted
  · split
    · exact (h.at_world hfound).accounted
    · split
      · exact (h.at_world hfound).accounted
      · rename_i hcount
        exact accounted_spawnMentors plan hrecords hcount _ (h.at_world hfound)

theorem accounted_ensureMentors (h : Booked written base dryRun [] session) :
    Accounted env written plan base dryRun SeedError.halted
      (ensureMentors env plan dryRun session).1 (ensureMentors env plan dryRun session).2 := by
  have hresolved := accounted_resolveMentors plan hrecords h
  unfold ensureMentors
  split <;> rename_i hresolve <;> rw [hresolve] at hresolved
  · refine hresolved.relay ?_
    rintro _ hhalt
    cases hhalt
    rfl
  · -- Any other error is noted, and the books are those that it left.
    rename_i e _ hother
    have hbooked := hresolved.booked fun halt hhalt => hother halt (Except.error.inj hhalt)
    exact Booked.accounted ⟨hbooked.listed, hbooked.counted⟩
  · exact (hresolved.booked nofun).accounted
  · have hbooked := hresolved.booked nofun
    refine Booked.accounted ⟨?_, hbooked.counted⟩
    rw [length_assignMentors]
    exact hbooked.listed

theorem accounted_ready (h : Booked written base dryRun [] session) :
    Accounted env written plan base dryRun SeedError.halted
      (ready env plan dryRun idempotent session).1
      (ready env plan dryRun idempotent session).2 := by
  have hchecked := hrecords.check session.world
  unfold ready
  split <;> rename_i hcheck <;> rw [hcheck] at hchecked
  · exact (h.at_world hchecked).accounted
  · split
    · exact (h.at_world hchecked).accounted
    · have hprepared := booked_prepare plan idempotent hrecords 0
        (plan.profiles.zip (plan.targets.tierGoals plan.profiles.length)) (h.at_world hchecked)
      simp only
      split <;> rename_i hprepare <;> rw [hprepare] at hprepared
      · exact hprepared.accounted
      · rename_i prepared
        have hmentored : Accounted env written plan base dryRun SeedError.halted
            (if plan.mentored then ensureMentors env plan dryRun prepared
              else (.ok (), prepared)).1
            (if plan.mentored then ensureMentors env plan dryRun prepared
              else (.ok (), prepared)).2 := by
          split
          · exact accounted_ensureMentors plan hrecords hprepared
          · exact hprepared.accounted
        split <;> rename_i heq <;> rw [heq] at hmentored
        · refine hmentored.relay ?_
          rintro _ hhalt
          cases hhalt
          rfl
        · exact (hmentored.booked nofun).accounted

theorem upholds_booked :
    Training.Upholds env plan (Booked written base dryRun []) fun _ => True where
  trainees := fun _ _ _ => trivial
  check := fun h => h.at_world (hrecords.check _)
  attempt := fun template trainee _ _ h => h.at_world (hrecords.attempt plan template trainee _)
  settle := fun template budget place outcome trainee _ _ h =>
    h.settle hrecords template budget trainee place outcome
  noteError := fun _ _ h => ⟨h.listed, h.counted⟩

theorem accounted_phases (h : Booked written base dryRun [] session) :
    Accounted env written plan base dryRun SeedError.halted
      (phases env plan dryRun idempotent session).1
      (phases env plan dryRun idempotent session).2 := by
  have hready := accounted_ready plan idempotent hrecords h
  rw [phases_eq]
  split <;> rename_i heq <;> rw [heq] at hready
  · refine hready.relay ?_
    rintro _ hhalt
    cases hhalt
    rfl
  · rename_i curriculum opening
    have hopening := hready.booked nofun
    split
    · exact hopening.accounted
    · have htrained := (upholds_booked plan hrecords).rounds
        (Training.budget plan opening.trainees.length)
        (Training.budget plan opening.trainees.length)
        (Selector.create curriculum plan.selection) hopening
      simp only [Training.train]
      split <;> rename_i htrain <;> rw [htrain] at htrained <;> exact htrained.accounted

/-- What a failed run says of those who were written since it began. -/
theorem accounted_run {failure : Failure}
    (h : run env plan dryRun idempotent world = (.error failure, after)) :
    failure.partialReport.agents.length =
        failure.partialReport.agentsCreated + failure.partialReport.agentsSkipped ∧
      (dryRun = false → ∃ reported lost, written after = written world ++ (reported ++ lost) ∧
        failure.partialReport.agentsCreated = reported.length ∧
        failure.partialReport.npcsSpawned = reported.countP Agent.isNpc ∧
        (lost = [] ∨ ∃ halt, failure.error = .halted halt ∧
          Cut env written plan halt lost after)) := by
  have hstart : Booked written (written world) dryRun []
      { trainees := [], report := Report.start .trainingArena dryRun, world } :=
    ⟨rfl, fun _ => ⟨[], (List.append_nil _).symm, rfl, rfl⟩⟩
  have hphases := accounted_phases plan idempotent hrecords hstart
  unfold run at h
  simp only at h
  split at h
  · cases h
    exact ⟨rfl, fun _ => ⟨[], [], (List.append_nil _).symm, rfl, rfl, .inl rfl⟩⟩
  · split at h <;> rename_i heq
    · rw [heq] at hphases
      cases h
      obtain ⟨lost, hbooked, hlost⟩ := hphases
      refine ⟨?_, fun hwet => ?_⟩
      · have hlisted := hbooked.listed
        simpa [withTrainees, Report.fail, Report.noteError] using hlisted
      · obtain ⟨reported, hwritten, hcreated, hnpcs⟩ := hbooked.counted hwet
        refine ⟨reported, lost, hwritten, hcreated, hnpcs, hlost.imp_right ?_⟩
        rintro ⟨halt, hhalt, hcut⟩
        exact ⟨halt, Except.error.inj hhalt, hcut⟩
    · cases h

end Runs

end Arena

/-- The agents that an arena run puts into the store itself, one after the other. -/
def Arena.stored (env : Environment ω) (plan : ArenaPlan) (dryRun idempotent : Bool)
    (world : ω) : List Agent :=
  (run env.recording plan dryRun idempotent (world, [])).2.2

namespace Arena

variable {env : Environment ω} {plan : ArenaPlan} {world after : ω} {failure : Failure}

/-- The mentors that are missing in the report of a failed run: leave ended while a roster of new
mentors was placed, and the report of that roster, which knows of them, was dropped. -/
def LostMentors (env : Environment ω) (plan : ArenaPlan) (failure : Failure) (after : ω)
    (lost : List Agent) : Prop :=
  ∃ first asked halt dropped,
    let roster := Mentors.roster plan.bootstrapMentors first
    Roster.seed env roster false true asked = (.error dropped, after) ∧
      dropped.error = .halted halt ∧ failure.error = .halted halt ∧
      Roster.stored env roster false true asked = lost ∧
      dropped.partialReport.agentsCreated = lost.length ∧
      dropped.partialReport.npcsSpawned = lost.countP Agent.isNpc

/-- A failed run lists whom it counts. It counts all agents that it put into the store, and it
counts the mentors among them, unless leave ended while new mentors were placed; then it counts all
but these. -/
theorem run_accounts_for_stored (idempotent : Bool) {dryRun : Bool}
    (h : run env plan dryRun idempotent world = (.error failure, after)) :
    failure.partialReport.agents.length =
        failure.partialReport.agentsCreated + failure.partialReport.agentsSkipped ∧
      (dryRun = false → ∃ reported lost,
        stored env plan false idempotent world = reported ++ lost ∧
        failure.partialReport.agentsCreated = reported.length ∧
        failure.partialReport.npcsSpawned = reported.countP Agent.isNpc ∧
        (lost = [] ∨ LostMentors env plan failure after lost)) := by
  -- The run with a log fails as this one does, and the log is what this one stored.
  have hshown := env.shows_recording.run plan dryRun idempotent (world, [])
  rw [h] at hshown
  cases hrun : run env.recording plan dryRun idempotent (world, []) with
  | mk result last =>
      rw [hrun] at hshown
      cases hshown
      obtain ⟨hlisted, hcounted⟩ := accounted_run plan idempotent env.records_recording hrun
      refine ⟨hlisted, ?_⟩
      rintro rfl
      obtain ⟨reported, lost, hwritten, hcreated, hnpcs, hlost⟩ := hcounted rfl
      refine ⟨reported, lost, ?_, hcreated, hnpcs, hlost.imp_right ?_⟩
      · rw [stored, hrun]
        exact hwritten
      · rintro ⟨halt, herror, first, asked, dropped, hseed, hhalt, hlogged, hcounts⟩
        obtain ⟨hdropped, hstored⟩ := Roster.stored_of_recording hseed
        exact ⟨first, asked.1, halt, dropped, hdropped, hhalt, herror,
          List.append_cancel_left (hstored.symm.trans hlogged), hcounts⟩

end Arena

/-- A rehearsal in which leave ends when the second event is announced. -/
def Rehearsal.curfew : Environment Rehearsal :=
  environment Store.defaultSpace [] {
    revokeOnEvent := some 2
    revokingExecutions := []
    failingExecutions := []
    failingAgents := []
    failureText := ""
    scorer := .default
    silent := false }

namespace Arena

def novice : ArenaPlan :=
  { ArenaPlan.default with
    profiles := [{ name := "scout", skills := [], modelSettings := none }]
    mentored := true
    bootstrapMentors := 2 }

/-- The first of two new mentors is placed while leave ends. -/
theorem run_accounts_for_stored_novice :
    let world := Rehearsal.onStore .empty
    ∃ failure after reported lost,
      run Rehearsal.curfew novice false true world = (.error failure, after) ∧
        failure.partialReport.agents.length =
          failure.partialReport.agentsCreated + failure.partialReport.agentsSkipped ∧
        stored Rehearsal.curfew novice false true world = reported ++ lost ∧
        failure.partialReport.agentsCreated = reported.length ∧
        failure.partialReport.npcsSpawned = reported.countP Agent.isNpc ∧
        (lost = [] ∨ LostMentors Rehearsal.curfew novice failure after lost) ∧
        (reported.length, lost.length) = (1, 1) := by
  intro world
  have hcreated :
      (reportOf (run Rehearsal.curfew novice false true world).1).agentsCreated = 1 := by
    decide +kernel
  have hstored : (stored Rehearsal.curfew novice false true world).length = 2 := by decide +kernel
  have hfails : (run Rehearsal.curfew novice false true world).1.isOk = false := by decide +kernel
  cases hrun : run Rehearsal.curfew novice false true world with
  | mk result after =>
      rw [hrun] at hcreated hfails
      cases result with
      | ok report => cases hfails
      | error failure =>
          obtain ⟨hlisted, hcounted⟩ := run_accounts_for_stored true hrun
          obtain ⟨reported, lost, heq, hreported, hnpcs, hlost⟩ := hcounted rfl
          have hone : reported.length = 1 := hreported.symm.trans hcreated
          rw [heq, List.length_append] at hstored
          exact ⟨failure, after, reported, lost, rfl, hlisted, heq, hreported, hnpcs, hlost,
            Prod.ext hone (by omega)⟩

/-- The mentor that was placed is stored and told by nobody: the failed run counts and lists the
scout alone. -/
theorem run_hides_mentor :
    let world := Rehearsal.onStore .empty
    let ended := run Rehearsal.curfew novice false true world
    let report := reportOf ended.1
    ended.1.isOk = false ∧
      (stored Rehearsal.curfew novice false true world).map
          (fun agent => (agent.name, agent.isNpc)) =
        [("scout-1", false), ("mentor-1", true)] ∧
      ended.2.store.agents.toList.map (fun agent => agent.name) = ["scout-1", "mentor-1"] ∧
      (report.agentsCreated, report.agentsSkipped, report.npcsSpawned) = (1, 0, 0) ∧
      report.agents.map AgentSummary.name = ["scout-1"] := by
  decide +kernel

end Arena

end QuestAcademy
