import QuestAcademy.Proofs.QuestAccounting
import QuestAcademy.Proofs.RosterAccounting
import QuestAcademy.Proofs.Shadowing

/-!
Worlds with a log of the agents that a run puts into the store. `Records` says what such a log does
during single calls, and `recording` adds a log to any world; `shows_recording` says that a run over
worlds with a log is the run without, so that the log tells what every run stores. Of rosters
without guilds, `Roster.records_seed` says that whom they store is whom they report.
-/

namespace QuestAcademy

variable {ω : Type}

namespace Environment

/-- The same environment, in which a run itself puts no agent into the store. -/
def unstoring (env : Environment ω) : Environment ω :=
  { env with store := { env.store with putAgent := fun _ _ world => (.ok (), world) } }

/-- The world keeps the agents that a run puts into the store, one after the other. Agents that the
board stores again are not among them. -/
structure Records (env : Environment ω) (written : ω → List Agent) : Prop where
  stored : ∀ {key agent world after}, env.store.putAgent key agent world = (.ok (), after) →
    written after = written world ++ [agent]
  refused : ∀ {key agent e world after}, env.store.putAgent key agent world = (.error e, after) →
    written after = written world
  others : ∀ log, env.unstoring.Preserves fun world => written world = log

section Asking

variable {env : Environment ω} {written : ω → List Agent} (h : env.Records written)
include h

theorem Records.check (world : ω) : written (env.check world).2 = written world :=
  (h.others _).check rfl

theorem Records.report (event : ProgressEvent) (world : ω) :
    written (env.report event world) = written world :=
  (h.others _).report event rfl

theorem Records.listAgents (world : ω) :
    written (env.store.listAgents world).2 = written world :=
  (h.others _).listAgents rfl

theorem Records.findByName (name : String) (world : ω) :
    written (env.store.findByName name world).2 = written world :=
  (h.others _).findByName name rfl

theorem Records.find (excluded : List String) (world : ω) :
    written (Mentors.find env.store excluded world).2 = written world :=
  (h.others _).findMentors excluded rfl

theorem Records.attempt (plan : ArenaPlan) (template : Template) (trainee : Trainee) (world : ω) :
    written (Training.attempt env plan template trainee world).2 = written world :=
  (h.others _).attempt plan template trainee rfl

theorem Records.refresh (trainee : Trainee) (world : ω) :
    written (Training.refresh env.store trainee world).2 = written world :=
  (h.others _).refresh trainee rfl

end Asking

def beside {α : Type} (call : ω → α × ω) (pair : ω × List Agent) : α × (ω × List Agent) :=
  ((call pair.1).1, (call pair.1).2, pair.2)

/-- The same environment over worlds with a log of the agents that were put into the store. -/
def recording (env : Environment ω) : Environment (ω × List Agent) where
  store := {
    space := env.store.space
    putAgent := fun key agent pair =>
      match env.store.putAgent key agent pair.1 with
      | (.ok (), world) => (.ok (), world, pair.2 ++ [agent])
      | (.error e, world) => (.error e, world, pair.2)
    getAgent := fun key => beside (env.store.getAgent key)
    listAgents := beside env.store.listAgents
    putGuild := fun id guild => beside (env.store.putGuild id guild)
    getGuild := fun id => beside (env.store.getGuild id)
    updateGuild := fun id change => beside (env.store.updateGuild id change) }
  board := {
    post := fun draft => beside (env.board.post draft)
    claim := fun questId agentId => beside (env.board.claim questId agentId)
    start := fun questId => beside (env.board.start questId)
    submit := fun questId output verdict => beside (env.board.submit questId output verdict)
    abandon := fun questId => beside (env.board.abandon questId) }
  execute := fun agent quest => beside (env.execute agent quest)
  judge := fun strictness template output => beside (env.judge strictness template output)
  report := fun event pair => (env.report event pair.1, pair.2)
  check := beside env.check
  folder := env.folder

theorem records_recording (env : Environment ω) : env.recording.Records Prod.snd where
  stored := by
    intro key agent world after hput
    simp only [recording] at hput
    split at hput <;> cases hput
    rfl
  refused := by
    intro key agent e world after hput
    simp only [recording] at hput
    split at hput <;> cases hput
    rfl
  others := fun _ => {
    putAgent := fun _ hlog => hlog
    getAgent := fun _ _ hlog => hlog
    listAgents := fun hlog => hlog
    putGuild := fun _ _ _ hlog => hlog
    updateGuild := fun _ _ _ hlog => hlog
    report := fun _ _ hlog => hlog
    check := fun hlog => hlog
    post := fun _ _ hlog => hlog
    claim := fun _ _ _ hlog => hlog
    start := fun _ _ hlog => hlog
    submit := fun _ _ _ _ hlog => hlog
    abandon := fun _ _ hlog => hlog
    execute := fun _ _ _ hlog => hlog
    judge := fun _ _ _ _ hlog => hlog }

theorem shows_recording (env : Environment ω) : env.recording.Shows Prod.fst env where
  space := rfl
  folder := rfl
  putAgent := by
    intro key agent pair
    simp only [recording]
    obtain ⟨_ | _, _⟩ := env.store.putAgent key agent pair.1 <;> rfl
  getAgent := fun _ _ => rfl
  listAgents := fun _ => rfl
  putGuild := fun _ _ _ => rfl
  updateGuild := fun _ _ _ => rfl
  report := fun _ _ => rfl
  check := fun _ => rfl
  post := fun _ _ => rfl
  claim := fun _ _ _ => rfl
  start := fun _ _ => rfl
  submit := fun _ _ _ _ => rfl
  abandon := fun _ _ => rfl
  execute := fun _ _ _ => rfl
  judge := fun _ _ _ _ => rfl

theorem shows_recording_after (env : Environment ω) (log : List Agent) :
    env.recording.Shows (Prod.map id (log ++ ·)) env.recording where
  space := rfl
  folder := rfl
  putAgent := by
    intro key agent pair
    simp only [recording, Prod.map, id]
    obtain ⟨_ | _, _⟩ := env.store.putAgent key agent pair.1
    · rfl
    · exact congrArg (fun log => (_, _, log)) (List.append_assoc _ _ _)
  getAgent := fun _ _ => rfl
  listAgents := fun _ => rfl
  putGuild := fun _ _ _ => rfl
  updateGuild := fun _ _ _ => rfl
  report := fun _ _ => rfl
  check := fun _ => rfl
  post := fun _ _ => rfl
  claim := fun _ _ _ => rfl
  start := fun _ _ => rfl
  submit := fun _ _ _ _ => rfl
  abandon := fun _ _ => rfl
  execute := fun _ _ _ => rfl
  judge := fun _ _ _ _ => rfl

end Environment

namespace Placement

def stored : Placement → List Agent
  | .placed agent _ => [agent]
  | .skipped _ | .lookupFailed _ _ | .refused _ _ => []

end Placement

namespace Roster

section Logs

variable (trials : List (Trial (AgentBatch × String) Placement ω))

theorem length_stored :
    (trials.flatMap fun trial => trial.upshot.stored).length =
      trials.countP fun trial => trial.upshot.isPlaced := by
  induction trials with
  | nil => rfl
  | cons trial rest ih =>
      rw [List.flatMap_cons, List.length_append, ih, List.countP_cons, Nat.add_comm]
      cases trial.upshot <;> rfl

theorem countP_stored :
    (trials.flatMap fun trial => trial.upshot.stored).countP Agent.isNpc =
      trials.countP fun trial => trial.upshot.isNpc := by
  induction trials with
  | nil => rfl
  | cons trial rest ih =>
      rw [List.flatMap_cons, List.countP_append, ih, List.countP_cons, Nat.add_comm]
      cases trial.upshot with
      | placed agent errors => exact congrArg _ List.countP_singleton
      | skipped | lookupFailed | refused => rfl

end Logs

variable {env : Environment ω} {written : ω → List Agent}

/-- A loop adds to what was written what its trials do. -/
theorem Tries.records {α β : Type} {announce : α → Nat → ProgressEvent} {act : α → ω → β × ω}
    {items : List α} {number : Nat} {world last : ω} {log : List (Trial α β ω)}
    {result : Except Halt Unit} (h : env.Records written) (entries : β → List Agent)
    (hact : ∀ item ∈ items, ∀ world,
      written (act item world).2 = written world ++ entries (act item world).1)
    (htries : Tries env announce act number items world log result last) :
    written last = written world ++ log.flatMap fun trial => entries trial.upshot := by
  induction htries with
  | done => exact (List.append_nil _).symm
  | @halted _ _ _ world _ _ hcheck =>
      have hchecked := h.check world
      rw [hcheck] at hchecked
      rw [List.flatMap_nil, List.append_nil]
      exact hchecked
  | @next number item rest world checked after _ _ _ _ hcheck htrial hrest ih =>
      have hchecked := h.check world
      rw [hcheck] at hchecked
      have hafter := hact item List.mem_cons_self
        (env.report (announce item (number + 1)) checked)
      rw [htrial, h.report, show written checked = written world from hchecked] at hafter
      rw [ih fun other hother => hact other (List.mem_cons_of_mem _ hother), hafter,
        List.flatMap_cons, List.append_assoc]

theorem Exit.records {idempotent : Bool} {batch : AgentBatch} {name : String} {world after : ω}
    {placement : Placement} (h : env.Records written) (hguild : batch.guildId = none)
    (hexit : Exit env.store idempotent batch name world placement after) :
    written after = written world ++ placement.stored := by
  have hfound : ∀ {answer : Except StoreError (Option Agent)} {found : ω},
      env.store.findByName name world = (answer, found) → written found = written world := by
    intro answer found hfind
    have hsame := h.findByName name world
    rw [hfind] at hsame
    exact hsame
  have habsent : ∀ {ready : ω}, Absent env.store name world idempotent ready →
      written ready = written world := by
    intro ready habsent
    cases habsent with
    | unasked => rfl
    | asked hfind => exact hfound hfind
  cases hexit with
  | skipped _ hfind | lookupFailed _ hfind =>
      rw [hfound hfind]
      exact (List.append_nil _).symm
  | refused hready hput =>
      rw [h.refused hput, habsent hready]
      exact (List.append_nil _).symm
  | alone hready _ hput =>
      rw [h.stored hput, habsent hready]
      rfl
  -- An agent that cannot join its guild would be stored twice, but this one is to join none.
  | joined _ hjoins | unjoined _ hjoins | undropped _ hjoins =>
      rw [hguild] at hjoins
      cases hjoins

theorem records_triesGuilds (h : env.Records written) {total number : Nat}
    {charters : List GuildCharter} {world last : ω} {log : List (Trial GuildCharter Founding ω)}
    {result : Except Halt Unit}
    (htries : TriesGuilds env false total number charters world log result last) :
    written last = written world := by
  have hfound : ∀ charter ∈ charters, ∀ world,
      written (foundUnless env false charter world).2 = written world ++ [] := by
    intro charter _ world
    rw [List.append_nil]
    exact (h.others _).found charter rfl
  rw [Tries.records h (fun _ => []) hfound htries]
  simp

theorem records_triesAgents (h : env.Records written) {idempotent : Bool} {total number : Nat}
    {items : List (AgentBatch × String)} {world last : ω}
    {log : List (Trial (AgentBatch × String) Placement ω)} {result : Except Halt Unit}
    (hguildless : ∀ item ∈ items, item.1.guildId = none)
    (htries : TriesAgents env false idempotent total number items world log result last) :
    written last = written world ++ log.flatMap fun trial => trial.upshot.stored :=
  Tries.records h Placement.stored
    (fun item hitem world => (exit_placeNew env.store idempotent item.1 item.2 world).records h
      (hguildless item hitem)) htries

theorem listed_seed (env : Environment ω) (plan : RosterPlan) (dryRun idempotent : Bool)
    (world : ω) :
    let report := Arena.reportOf (seed env plan dryRun idempotent world).1
    report.agents.length = report.agentsCreated + report.agentsSkipped := by
  simp only
  cases hvalid : plan.validate with
  | error fault =>
      simp only [seed, hvalid]
      rfl
  | ok done =>
      obtain ⟨log, result, after, -, hseed⟩ := tried_seed env plan dryRun idempotent hvalid world
      rw [hseed, Log.notedIn_start]
      cases result <;> exact length_summaries log.agents

/-- A run of a roster without guilds tells whom it stored, also when it fails. -/
theorem records_seed (h : env.Records written) {plan : RosterPlan}
    (hguildless : ∀ item ∈ plan.items, item.1.guildId = none) (idempotent : Bool) (world : ω) :
    let report := Arena.reportOf (seed env plan false idempotent world).1
    ∃ agents, written (seed env plan false idempotent world).2 = written world ++ agents ∧
      report.agentsCreated = agents.length ∧ report.npcsSpawned = agents.countP Agent.isNpc := by
  simp only
  cases hvalid : plan.validate with
  | error fault =>
      simp only [seed, hvalid]
      exact ⟨[], (List.append_nil _).symm, rfl, rfl⟩
  | ok done =>
      obtain ⟨log, result, after, htried, hseed⟩ :=
        tried_seed env plan false idempotent hvalid world
      refine ⟨log.agents.flatMap fun trial => trial.upshot.stored, ?_, ?_⟩
      · rw [hseed]
        cases htried with
        | halted htries =>
            rw [List.flatMap_nil, List.append_nil]
            exact records_triesGuilds h htries
        | chartered hguilds hagents =>
            rw [← records_triesGuilds h hguilds]
            exact records_triesAgents h hguildless hagents
      · rw [length_stored, countP_stored, hseed, Log.notedIn_start]
        cases result <;> exact ⟨rfl, rfl⟩

end Roster

def Roster.stored (env : Environment ω) (plan : RosterPlan) (dryRun idempotent : Bool)
    (world : ω) : List Agent :=
  (seed env.recording plan dryRun idempotent (world, [])).2.2

theorem Roster.stored_of_recording {env : Environment ω} {plan : RosterPlan}
    {dryRun idempotent : Bool} {asked after : ω × List Agent} {result : Except Failure Report}
    (h : seed env.recording plan dryRun idempotent asked = (result, after)) :
    seed env plan dryRun idempotent asked.1 = (result, after.1) ∧
      after.2 = asked.2 ++ stored env plan dryRun idempotent asked.1 := by
  have hshown := env.shows_recording.seed dryRun idempotent plan asked
  -- The run that begins with an empty log writes the same to it.
  have hlogged := (env.shows_recording_after asked.2).seed dryRun idempotent plan (asked.1, [])
  rw [h] at hshown
  rw [show Prod.map id (asked.2 ++ ·) (asked.1, ([] : List Agent)) = asked from
    congrArg (Prod.mk asked.1) (List.append_nil _), h] at hlogged
  exact ⟨hshown, congrArg (fun answer => answer.2.2) hlogged⟩

end QuestAcademy
