import QuestAcademy.Roster

/-!
The course of a roster run: the charters and the items that it tried, one by one, with what came of
each. `Course` follows both loops; `tried_seed` finds the course of every run of a valid plan, whose
report is what came of all that was tried, noted in turn.
-/

namespace QuestAcademy

variable {ω : Type}

/-- Something that a run tried, with the worlds before and after. -/
structure Trial (α β ω : Type) where
  item : α
  before : ω
  upshot : β
  after : ω

namespace Roster

/-- A loop over items. Before each one it is asked whether work may go on, and the item is
announced with its number; the trial itself begins after that. -/
inductive Tries {α β : Type} (env : Environment ω) (announce : α → Nat → ProgressEvent)
    (act : α → ω → β × ω) : Nat → List α → ω → List (Trial α β ω) → Except Halt Unit → ω → Prop
  | done (number : Nat) (world : ω) : Tries env announce act number [] world [] (.ok ()) world
  | halted {number : Nat} {item : α} {rest : List α} {world after : ω} {halt : Halt}
      (hcheck : env.check world = (.error halt, after)) :
      Tries env announce act number (item :: rest) world [] (.error halt) after
  | next {number : Nat} {item : α} {rest : List α} {world checked after last : ω} {upshot : β}
      {log : List (Trial α β ω)} {result : Except Halt Unit}
      (hcheck : env.check world = (.ok (), checked))
      (hact : act item (env.report (announce item (number + 1)) checked) = (upshot, after))
      (hrest : Tries env announce act (number + 1) rest after log result last) :
      Tries env announce act number (item :: rest) world
        ({ item, before := env.report (announce item (number + 1)) checked, upshot, after } :: log)
        result last

section Trials

variable {α β : Type} {env : Environment ω} {announce : α → Nat → ProgressEvent}
  {act : α → ω → β × ω} {number : Nat} {items : List α} {world last : ω}
  {log : List (Trial α β ω)} {result : Except Halt Unit}

theorem Tries.act_eq (h : Tries env announce act number items world log result last) :
    ∀ trial ∈ log, act trial.item trial.before = (trial.upshot, trial.after) := by
  induction h with
  | done | halted => simp
  | next hcheck hact hrest ih =>
      intro trial htrial
      rcases List.mem_cons.mp htrial with rfl | hlater
      · exact hact
      · exact ih trial hlater

theorem Tries.items_of_ok (h : Tries env announce act number items world log result last)
    (hok : result = .ok ()) : log.map Trial.item = items := by
  induction h with
  | done => rfl
  | halted => cases hok
  | next hcheck hact hrest ih => exact congrArg (List.cons _) (ih hok)

end Trials

def foundUnless (env : Environment ω) (dryRun : Bool) (charter : GuildCharter) (world : ω) :
    Founding × ω :=
  if dryRun then (.founded, world) else found env.store charter world

def placeUnless (env : Environment ω) (dryRun idempotent : Bool) (item : AgentBatch × String)
    (world : ω) : Placement × ω :=
  if dryRun then
    (.placed (item.1.build (env.store.agentId (instanceKey item.2)) item.2) [], world)
  else placeNew env.store idempotent item.1 item.2 world

/-- The charters and the items that a run tried. -/
structure Log (ω : Type) where
  guilds : List (Trial GuildCharter Founding ω)
  agents : List (Trial (AgentBatch × String) Placement ω)

/-- A report in which everything that was tried is noted. -/
def Log.notedIn (log : Log ω) (report : Report) : Report :=
  (log.agents.map Trial.upshot).foldl Report.notePlacement
    ((log.guilds.map Trial.upshot).foldl Report.noteFounding report)

section Runs

variable (env : Environment ω) (plan : RosterPlan) (dryRun idempotent : Bool)

def TriesGuilds (total : Nat) : Nat → List GuildCharter → ω → List (Trial GuildCharter Founding ω) →
    Except Halt Unit → ω → Prop :=
  Tries env (fun charter number => foundingEvent charter number total) (foundUnless env dryRun)

def TriesAgents (total : Nat) : Nat → List (AgentBatch × String) → ω →
    List (Trial (AgentBatch × String) Placement ω) → Except Halt Unit → ω → Prop :=
  Tries env (fun item number => placingEvent item.2 number total)
    (placeUnless env dryRun idempotent)

/-- What a run of a plan tried, and how it ended. The agents are tried only when all charters were.
-/
inductive Tried (world : ω) : Log ω → Except Halt Unit → ω → Prop
  | halted {guilds : List (Trial GuildCharter Founding ω)} {halt : Halt} {after : ω}
      (hguilds : TriesGuilds env dryRun plan.charters.length 0 plan.charters world guilds
        (.error halt) after) : Tried world ⟨guilds, []⟩ (.error halt) after
  | chartered {guilds : List (Trial GuildCharter Founding ω)}
      {agents : List (Trial (AgentBatch × String) Placement ω)} {result : Except Halt Unit}
      {founded after : ω}
      (hguilds : TriesGuilds env dryRun plan.charters.length 0 plan.charters world guilds
        (.ok ()) founded)
      (hagents : TriesAgents env dryRun idempotent plan.agentCount 0 plan.items founded agents
        result after) : Tried world ⟨guilds, agents⟩ result after

theorem triesGuilds_seedGuilds (total number : Nat) (charters : List GuildCharter)
    (report : Report) (world : ω) :
    ∃ log, TriesGuilds env dryRun total number charters world log
        (seedGuilds env dryRun total number charters report world).1
        (seedGuilds env dryRun total number charters report world).2.2 ∧
      (seedGuilds env dryRun total number charters report world).2.1 =
        (log.map Trial.upshot).foldl Report.noteFounding report := by
  induction charters generalizing number report world with
  | nil => exact ⟨[], .done number world, rfl⟩
  | cons charter rest ih =>
      cases hcheck : env.check world with
      | mk permit checked =>
          simp only [seedGuilds, hcheck]
          cases permit with
          | error halt => exact ⟨[], .halted hcheck, rfl⟩
          | ok done =>
              cases hfound : foundUnless env dryRun charter
                  (env.report (foundingEvent charter (number + 1) total) checked) with
              | mk founding founded =>
                  obtain ⟨log, hrest, hreport⟩ :=
                    ih (number + 1) (report.noteFounding founding) founded
                  unfold foundUnless at hfound
                  simp only [hfound]
                  exact ⟨_, .next hcheck hfound hrest, hreport⟩

theorem triesAgents_seedAgents (total number : Nat) (items : List (AgentBatch × String))
    (report : Report) (world : ω) :
    ∃ log, TriesAgents env dryRun idempotent total number items world log
        (seedAgents env dryRun idempotent total number items report world).1
        (seedAgents env dryRun idempotent total number items report world).2.2 ∧
      (seedAgents env dryRun idempotent total number items report world).2.1 =
        (log.map Trial.upshot).foldl Report.notePlacement report := by
  induction items generalizing number report world with
  | nil => exact ⟨[], .done number world, rfl⟩
  | cons item rest ih =>
      obtain ⟨batch, name⟩ := item
      cases hcheck : env.check world with
      | mk permit checked =>
          simp only [seedAgents, hcheck]
          cases permit with
          | error halt => exact ⟨[], .halted hcheck, rfl⟩
          | ok done =>
              cases hplace : placeUnless env dryRun idempotent (batch, name)
                  (env.report (placingEvent name (number + 1) total) checked) with
              | mk placement placed =>
                  obtain ⟨log, hrest, hreport⟩ :=
                    ih (number + 1) (report.notePlacement placement) placed
                  unfold placeUnless at hplace
                  simp only at hplace
                  simp only [hplace]
                  exact ⟨_, .next hcheck hplace hrest, hreport⟩

/-- Every run of a valid plan has its course. It returns the report of all that was tried, and fails
only when it is halted. -/
theorem tried_seed (hvalid : plan.validate = .ok ()) (world : ω) :
    ∃ log result after, Tried env plan dryRun idempotent world log result after ∧
      seed env plan dryRun idempotent world =
        (match result with
          | .ok () => .ok (log.notedIn (.start .tieredRoster dryRun))
          | .error halt =>
            .error ((log.notedIn (.start .tieredRoster dryRun)).fail (.halted halt)), after) := by
  obtain ⟨guilds, hguilds, hnoted⟩ := triesGuilds_seedGuilds env dryRun plan.charters.length 0
    plan.charters (.start .tieredRoster dryRun) world
  simp only [seed, hvalid]
  cases hfound : seedGuilds env dryRun plan.charters.length 0 plan.charters
      (.start .tieredRoster dryRun) world with
  | mk answer rest =>
      obtain ⟨report, founded⟩ := rest
      rw [hfound] at hguilds hnoted
      simp only at hguilds hnoted
      cases answer with
      | error halt =>
          refine ⟨⟨guilds, []⟩, .error halt, founded, .halted hguilds, ?_⟩
          simp [Log.notedIn, hnoted]
      | ok done =>
          obtain ⟨agents, hagents, hplaced⟩ := triesAgents_seedAgents env dryRun idempotent
            plan.agentCount 0 plan.items report founded
          simp only
          cases hplace : seedAgents env dryRun idempotent plan.agentCount 0 plan.items report
              founded with
          | mk answer rest =>
              obtain ⟨final, after⟩ := rest
              rw [hplace] at hagents hplaced
              simp only at hagents hplaced
              refine ⟨⟨guilds, agents⟩, answer, after, .chartered hguilds hagents, ?_⟩
              rw [hnoted] at hplaced
              cases answer with
              | error halt => simp [Log.notedIn, hplaced]
              | ok done => simp [Log.notedIn, hplaced]

theorem halted_of_seed (hvalid : plan.validate = .ok ()) {world after : ω} {failure : Failure}
    (h : seed env plan dryRun idempotent world = (.error failure, after)) :
    ∃ halt, failure.error = .halted halt := by
  obtain ⟨log, result, last, -, hseed⟩ := tried_seed env plan dryRun idempotent hvalid world
  rw [hseed] at h
  cases result with
  | ok done => cases h
  | error halt =>
      cases h
      exact ⟨halt, rfl⟩

end Runs

end Roster

end QuestAcademy
