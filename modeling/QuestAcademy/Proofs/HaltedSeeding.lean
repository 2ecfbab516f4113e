import QuestAcademy.Proofs.WorkLog

/-!
Runs beside their unhalted twins. `Paced` compares what is done under a permit that may end with
what is done under one that never ends: either both come to the same, or the first was halted after
some of the jobs of the other. Here it is shown of the parts of a run that make guilds and agents.
-/

namespace QuestAcademy

variable {ω : Type}

namespace Environment

variable (env : Environment ω) {ε δ α β σ τ : Type}

/-- The work of an agent on a quest may itself come to a halt, whatever the permit says. -/
def AgentHalts (halt : Halt) : Prop :=
  ∃ agent quest world, (env.execute agent quest world).1 = .error (.halted halt)

/-- If an answer tells of a halt, then this comes from the work of an agent. -/
def OnlyAgentsHalt (tells : Halt → ε → Prop) (answer : Except ε α) : Prop :=
  ∀ halt e, answer = .error e → tells halt e → env.AgentHalts halt

/-- The last of some jobs was done when leave for the next was refused; the answer tells of it. -/
def Refused (tells : Halt → ε → Prop) (world : ω) (done : List (Piece ω)) (last : ω)
    (answer : Except ε α) : Prop :=
  ∃ asked halt e, env.Stretch world done asked ∧ env.check asked = (.error halt, last) ∧
    answer = .error e ∧ tells halt e

/-- Two ways to go on from a world, the second under a permit that never ends. Unless they come to
the same, the first was refused leave, and up to then it has done what the other does. -/
def Paced (tells : Halt → ε → Prop) (worldOf : σ → ω) (world : ω) (one other : Except ε α × σ) :
    Prop :=
  ∃ done rest : List (Piece ω), env.Stretch world done (worldOf one.2) ∧
    env.unhalted.Stretch world (done ++ rest) (worldOf other.2) ∧
    ((one = other ∧ rest = []) ∨ env.Refused tells world done (worldOf one.2) one.1) ∧
    env.OnlyAgentsHalt tells other.1

section Pacing

variable {env} {tells : Halt → ε → Prop} {worldOf : σ → ω} {world middle last : ω}
  {done : List (Piece ω)} {answer : Except ε α} {one other : Except ε α × σ}

theorem OnlyAgentsHalt.ok (a : α) : env.OnlyAgentsHalt tells (.ok a) := nofun

theorem OnlyAgentsHalt.error {e : ε} (h : ∀ halt, ¬ tells halt e) :
    env.OnlyAgentsHalt tells (.error e : Except ε α) := by
  rintro halt _ ⟨⟩ htells
  exact absurd htells (h halt)

theorem OnlyAgentsHalt.relay {relates : Halt → δ → Prop} {e : ε} {d : δ}
    (hown : env.OnlyAgentsHalt tells (.error e : Except ε α))
    (h : ∀ halt, relates halt d → tells halt e) :
    env.OnlyAgentsHalt relates (.error d : Except δ β) := by
  rintro halt _ ⟨⟩ hrelates
  exact hown halt e rfl (h halt hrelates)

theorem Refused.after_idling (hidle : env.Idles world middle)
    (h : env.Refused tells middle done last answer) :
    env.Refused tells world done last answer := by
  obtain ⟨asked, halt, e, hasked, htold⟩ := h
  exact ⟨asked, halt, e, hasked.after_idling hidle, htold⟩

theorem Refused.after {more : List (Piece ω)} (hdone : env.Stretch world done middle)
    (h : env.Refused tells middle more last answer) :
    env.Refused tells world (done ++ more) last answer := by
  obtain ⟨asked, halt, e, hasked, htold⟩ := h
  exact ⟨asked, halt, e, hdone.append hasked, htold⟩

theorem Paced.idle (h : env.Idles world (worldOf one.2)) (hown : env.OnlyAgentsHalt tells one.1) :
    env.Paced tells worldOf world one one :=
  ⟨[], [], .idle h, .idle h.unhalted, .inl ⟨rfl, rfl⟩, hown⟩

theorem Paced.after_idling (hidle : env.Idles world middle)
    (h : env.Paced tells worldOf middle one other) : env.Paced tells worldOf world one other := by
  obtain ⟨done, rest, hdone, hall, hend, hown⟩ := h
  exact ⟨done, rest, hdone.after_idling hidle, hall.after_idling hidle.unhalted,
    hend.imp_right (.after_idling hidle), hown⟩

section Asking

variable {stop : Halt → ω → Except ε α × σ} {go : ω → Except ε α × σ}

theorem Paced.ask (hgo : env.Paced tells worldOf (env.check world).2 (go (env.check world).2) other)
    (hstop : ∀ halt after, (∃ e, (stop halt after).1 = .error e ∧ tells halt e) ∧
      worldOf (stop halt after).2 = after) :
    env.Paced tells worldOf world
      (match env.check world with
        | (.error halt, after) => stop halt after
        | (.ok (), after) => go after) other := by
  have hidle : env.Idles world (env.check world).2 := Idles.nothing.check
  obtain ⟨done, rest, hdone, hall, hend, hown⟩ := hgo
  cases hcheck : env.check world with
  | mk permit checked =>
      rw [hcheck] at hidle hdone hall hend
      cases permit with
      | ok _ =>
          exact ⟨done, rest, hdone.after_idling hidle, hall.after_idling hidle.unhalted,
            hend.imp_right (.after_idling hidle), hown⟩
      | error halt =>
          obtain ⟨⟨e, he, htells⟩, hworld⟩ := hstop halt checked
          refine ⟨[], done ++ rest, ?_, hall.after_idling hidle.unhalted,
            .inr ⟨world, halt, e, .idle .nothing, ?_, he, htells⟩, hown⟩
          · rw [hworld]
            exact .idle hidle
          · rw [hworld, hcheck]

/-- To ask for leave, and to do a job when it is given. -/
theorem Paced.job (job : Job)
    (hgo : env.Paced tells worldOf (job.act env world) (go (env.check world).2) other)
    (hstop : ∀ halt after, (∃ e, (stop halt after).1 = .error e ∧ tells halt e) ∧
      worldOf (stop halt after).2 = after) :
    env.Paced tells worldOf world
      (match env.check world with
        | (.error halt, after) => stop halt after
        | (.ok (), after) => go after) other := by
  obtain ⟨done, rest, hdone, hall, hend, hown⟩ := hgo
  have hwhole : env.unhalted.Stretch world
      ({ job, asked := world, after := job.act env world } :: (done ++ rest))
      (worldOf other.2) := by
    rw [← Job.act_unhalted] at hall ⊢
    exact .work .nothing rfl hall
  -- The job is part of the log only when leave was given; the other run does it in any case.
  have hwork : ∀ {more last}, (env.check world).1 = .ok () →
      env.Stretch (job.act env world) more last → env.Stretch world
        ({ job, asked := world, after := job.act env world } :: more) last :=
    fun hleave hmore => .work .nothing hleave hmore
  have hidle : env.Idles world (env.check world).2 := Idles.nothing.check
  cases hcheck : env.check world with
  | mk permit checked =>
      rw [hcheck] at hwork hidle hdone hend
      cases permit with
      | ok _ =>
          refine ⟨_, rest, hwork rfl hdone, hwhole, hend.imp ?_ ?_, hown⟩
          · exact id
          · rintro ⟨asked, halt, e, hasked, htold⟩
            exact ⟨asked, halt, e, hwork rfl hasked, htold⟩
      | error halt =>
          obtain ⟨⟨e, he, htells⟩, hworld⟩ := hstop halt checked
          refine ⟨[], _, ?_, hwhole, .inr ⟨world, halt, e, .idle .nothing, ?_, he, htells⟩, hown⟩
          · rw [hworld]
            exact .idle hidle
          · rw [hworld, hcheck]

end Asking

/-- What comes next keeps the pace, if it does so from wherever it starts and goes no further when
what came before was refused leave. -/
theorem Paced.next {relates : Halt → δ → Prop} {worldOf' : τ → ω}
    {f g : Except ε α × σ → Except δ β × τ}
    (hnext : ∀ start, env.OnlyAgentsHalt tells start.1 →
      env.Paced relates worldOf' (worldOf start.2) (f start) (g start))
    (hhalted : ∀ halt e state, tells halt e →
      (∃ d, (f (.error e, state)).1 = .error d ∧ relates halt d) ∧
        worldOf' (f (.error e, state)).2 = worldOf state) :
    ∀ one other, env.Paced tells worldOf world one other →
      env.Paced relates worldOf' world (f one) (g other) := by
  rintro one other ⟨done, rest, hdone, hall, ⟨rfl, rfl⟩ | hrefused, hown⟩
  -- Nobody was halted, so that both go on from the same world.
  · obtain ⟨more, left, hmore, hleft, hend, hlast⟩ := hnext one hown
    rw [List.append_nil] at hall
    refine ⟨done ++ more, left, hdone.append hmore, ?_, hend.imp_right (.after hdone), hlast⟩
    rw [List.append_assoc]
    exact hall.append hleft
  -- One was halted; whatever the other still does comes after what both have done.
  · obtain ⟨more, left, -, hleft, -, hlast⟩ := hnext other hown
    obtain ⟨asked, halt, e, hasked, hcheck, he, htells⟩ := hrefused
    obtain ⟨answer, state⟩ := one
    obtain rfl : answer = .error e := he
    obtain ⟨⟨d, hd, hrelates⟩, hworld⟩ := hhalted halt e state htells
    refine ⟨done, rest ++ (more ++ left), ?_, ?_,
      .inr ⟨asked, halt, d, hasked, ?_, hd, hrelates⟩, hlast⟩
    · rw [hworld]
      exact hdone
    · rw [← List.append_assoc]
      exact hall.append hleft
    · rw [hworld]
      exact hcheck

end Pacing

end Environment

def SeedError.Tells (halt : Halt) (error : SeedError) : Prop :=
  error = .halted halt

theorem SeedError.eq_of_tells {told halt : Halt} (h : (SeedError.halted halt).Tells told) :
    told = halt :=
  (SeedError.halted.inj h).symm

def MentorError.Tells (halt : Halt) (error : MentorError) : Prop :=
  error = .halted halt

def Failure.Tells (halt : Halt) (failure : Failure) : Prop :=
  failure.error.Tells halt

namespace Roster

variable (env : Environment ω) (dryRun idempotent : Bool)

theorem paced_seedGuilds (total done : Nat) (charters : List GuildCharter) (report : Report)
    (world : ω) :
    env.Paced Eq Prod.snd world (seedGuilds env dryRun total done charters report world)
      (seedGuilds env.unhalted dryRun total done charters report world) := by
  induction charters generalizing done report world with
  | nil => exact .idle .nothing (.ok _)
  | cons charter rest ih =>
      unfold seedGuilds
      refine .job (.found dryRun charter (done + 1) total) (ih _ _ _) ?_
      intro halt after
      exact ⟨⟨halt, rfl, rfl⟩, rfl⟩

theorem paced_seedAgents (total done : Nat) (items : List (AgentBatch × String)) (report : Report)
    (world : ω) :
    env.Paced Eq Prod.snd world
      (seedAgents env dryRun idempotent total done items report world)
      (seedAgents env.unhalted dryRun idempotent total done items report world) := by
  induction items generalizing done report world with
  | nil => exact .idle .nothing (.ok _)
  | cons item rest ih =>
      unfold seedAgents
      refine .job (.place dryRun idempotent item (done + 1) total) (ih _ _ _) ?_
      intro halt after
      exact ⟨⟨halt, rfl, rfl⟩, rfl⟩

theorem success_of_seed_error {plan : RosterPlan} {world : ω} {failure : Failure}
    (h : (seed env plan dryRun idempotent world).1 = .error failure) :
    failure.partialReport.success = false := by
  unfold seed at h
  simp only at h
  split at h
  · cases h
    rfl
  · split at h
    · cases h
      rfl
    · split at h <;> cases h
      rfl

theorem paced_seed (plan : RosterPlan) (world : ω) :
    env.Paced Failure.Tells id world (seed env plan dryRun idempotent world)
      (seed env.unhalted plan dryRun idempotent world) := by
  unfold seed
  cases plan.validate with
  | error fault => exact .idle .nothing (.error nofun)
  | ok valid =>
      have hguilds := paced_seedGuilds env dryRun plan.charters.length 0 plan.charters
        (.start .tieredRoster dryRun) world
      simp only
      generalize seedGuilds env dryRun plan.charters.length 0 plan.charters
        (.start .tieredRoster dryRun) world = one at hguilds ⊢
      generalize seedGuilds env.unhalted dryRun plan.charters.length 0 plan.charters
        (.start .tieredRoster dryRun) world = other at hguilds ⊢
      revert one other
      refine Environment.Paced.next ?_ ?_
      · rintro ⟨answer, report, founded⟩ hown
        cases answer with
        | error halt => exact .idle .nothing (hown.relay fun _ => SeedError.eq_of_tells)
        | ok done =>
            have hagents := paced_seedAgents env dryRun idempotent plan.agentCount 0 plan.items
              report founded
            simp only
            generalize seedAgents env dryRun idempotent plan.agentCount 0 plan.items report
              founded = one at hagents ⊢
            generalize seedAgents env.unhalted dryRun idempotent plan.agentCount 0 plan.items
              report founded = other at hagents ⊢
            revert one other
            refine Environment.Paced.next ?_ ?_
            · rintro ⟨answer, report, placed⟩ hown
              cases answer with
              | error halt => exact .idle .nothing (hown.relay fun _ => SeedError.eq_of_tells)
              | ok done => exact .idle .nothing (.ok _)
            · rintro halt _ state rfl
              exact ⟨⟨_, rfl, rfl⟩, rfl⟩
      · rintro halt _ state rfl
        exact ⟨⟨_, rfl, rfl⟩, rfl⟩

end Roster

namespace Arena

variable (env : Environment ω) (plan : ArenaPlan) (dryRun idempotent : Bool)

theorem paced_prepare (done : Nat) (profiles : List (TraineeProfile × Nat)) (session : Session ω) :
    env.Paced SeedError.Tells Session.world session.world
      (prepare env plan dryRun idempotent done profiles session)
      (prepare env.unhalted plan dryRun idempotent done profiles session) := by
  induction profiles generalizing done session with
  | nil => exact .idle .nothing (.ok _)
  | cons pair rest ih =>
      obtain ⟨profile, goal⟩ := pair
      unfold prepare
      refine .job (.prepare dryRun idempotent profile (done + 1) plan.profiles.length) ?_ ?_
      · simp only [Environment.check_unhalted, Environment.store_unhalted,
          Environment.report_unhalted, Job.act]
        split <;> rename_i hmade <;> rw [hmade]
        · exact .idle .nothing (.error nofun)
        · rename_i preparation made
          have hrest := ih (done + 1) (enlist (profile.traineeName (done + 1))
            plan.targets.convergenceLevel preparation { session with world := made })
          rw [Environment.world_enlist] at hrest
          exact hrest
      · intro halt after
        exact ⟨⟨_, rfl, rfl⟩, rfl⟩

theorem onlyAgentsHalt_qualified (ids : List String) :
    env.OnlyAgentsHalt MentorError.Tells
      (if ids.isEmpty then .error .noneCreated else .ok ids) := by
  split
  · exact .error nofun
  · exact .ok _

theorem paced_spawnMentors (excluded : List String) (session : Session ω) :
    env.Paced MentorError.Tells Session.world session.world
      (spawnMentors env plan dryRun excluded session)
      (spawnMentors env.unhalted plan dryRun excluded session) := by
  have hlisted : env.Idles session.world (env.store.listAgents session.world).2 :=
    Environment.Idles.nothing.listAgents
  unfold spawnMentors
  simp only [Environment.store_unhalted]
  split <;> rename_i heq <;> rw [heq] at hlisted
  · exact .idle hlisted (.error nofun)
  · rename_i stored listed
    refine .after_idling hlisted ?_
    have hseeded := Roster.paced_seed env dryRun true (Mentors.roster plan.bootstrapMentors
      (Mentors.nextOrdinal (stored.map (fun agent => agent.name)
        ++ session.trainees.map fun trainee => trainee.agent.name))) listed
    generalize Roster.seed env _ dryRun true listed = one at hseeded ⊢
    generalize Roster.seed env.unhalted _ dryRun true listed = other at hseeded ⊢
    revert one other
    refine Environment.Paced.next ?_ ?_
    · rintro ⟨answer, seeded⟩ hown
      cases answer with
      | error failure =>
          refine .idle .nothing (hown.relay ?_)
          intro halt htells
          split at htells
          · rename_i hhalted
            cases htells
            exact hhalted
          · cases htells
      | ok spawned =>
          simp only
          split
          · exact .idle .nothing (onlyAgentsHalt_qualified env _)
          · have hfound := Environment.idles_find env excluded seeded
            split <;> rename_i hfind <;> rw [hfind] at hfound
            · exact .idle hfound (.error nofun)
            · exact .idle hfound (onlyAgentsHalt_qualified env _)
    · intro halt failure seeded htells
      simp only [show failure.error = .halted halt from htells]
      exact ⟨⟨_, rfl, rfl⟩, rfl⟩

theorem paced_resolveMentors (session : Session ω) :
    env.Paced MentorError.Tells Session.world session.world
      (resolveMentors env plan dryRun session)
      (resolveMentors env.unhalted plan dryRun session) := by
  have hfound := Environment.idles_find env (session.trainees.map fun trainee => trainee.agent.id)
    session.world
  unfold resolveMentors
  simp only [Environment.store_unhalted]
  split <;> rename_i heq <;> rw [heq] at hfound
  · exact .idle hfound (.error nofun)
  · split
    · exact .idle hfound (.ok _)
    · split
      · exact .idle hfound (.ok _)
      · rename_i _ found _ _
        refine .after_idling hfound ?_
        exact paced_spawnMentors env plan dryRun _ { session with world := found }

theorem paced_ensureMentors (session : Session ω) :
    env.Paced SeedError.Tells Session.world session.world
      (ensureMentors env plan dryRun session) (ensureMentors env.unhalted plan dryRun session) := by
  have hresolved := paced_resolveMentors env plan dryRun session
  unfold ensureMentors
  generalize resolveMentors env plan dryRun session = one at hresolved ⊢
  generalize resolveMentors env.unhalted plan dryRun session = other at hresolved ⊢
  revert one other
  refine Environment.Paced.next ?_ ?_
  · intro start hown
    split
    · refine .idle .nothing (hown.relay ?_)
      rintro _ ⟨⟩
      rfl
    · exact .idle .nothing (.ok _)
    · exact .idle .nothing (.ok _)
    · exact .idle .nothing (.ok _)
  · rintro halt _ state rfl
    exact ⟨⟨_, rfl, rfl⟩, rfl⟩

end Arena

end QuestAcademy
