import QuestAcademy.Proofs.HallView
import QuestAcademy.Proofs.RunInvariant

namespace QuestAcademy

variable {ω : Type}

section Keeping

variable {store : Store}

theorem Store.AllInStep.putAgent (h : store.AllInStep) (key : String) {agent : Agent}
    (hagent : agent.InStep) : (store.putAgent key agent).2.AllInStep := by
  unfold Store.putAgent
  split
  · exact h
  · intro other found hfound
    rw [AgentTable.find?_put] at hfound
    split at hfound
    · cases hfound
      exact hagent
    · exact h other found hfound

theorem Store.AllInStep.getAgent (h : store.AllInStep) (key : String) :
    (store.getAgent key).2.AllInStep := by
  unfold Store.getAgent
  split
  · exact h
  · split <;> exact h

theorem Store.AllInStep.listAgents (h : store.AllInStep) : store.listAgents.2.AllInStep := by
  unfold Store.listAgents
  split <;> exact h

theorem Store.AllInStep.listed (h : store.AllInStep) {agents : List Agent}
    (hlist : store.listAgents.1 = .ok agents) : ∀ agent ∈ agents, agent.InStep := by
  unfold Store.listAgents at hlist
  split at hlist
  · cases hlist
  · cases hlist
    intro agent hmem
    obtain ⟨key, hkey⟩ := AgentTable.exists_find?_of_mem hmem
    exact h key agent hkey

theorem Store.AllInStep.updateGuild (h : store.AllInStep) (id : String) (change : Guild → Guild) :
    (store.updateGuild id change).2.AllInStep := by
  unfold Store.updateGuild
  split <;> exact h

theorem Store.allInStep_scouted : scouted.AllInStep := by
  intro key agent hagent
  simp only [scouted, find?_save working_empty] at hagent
  split at hagent
  · cases hagent
    exact (Agent.starts_create defaultSpace "scout" 1).inStep
  · cases hagent

end Keeping

namespace Environment

variable {env : Environment ω} {view : HallView ω}

theorem Hosts.trades_inStep (h : env.Hosts view) :
    Board.Trades env.store (fun world => (view.hall world).store.AllInStep) Agent.InStep where
  listAgents := h.listAgents.keeps fun _ => Store.AllInStep.listAgents
  listed := by
    intro world agents hworld hlist
    obtain ⟨-, ⟨-, ⟨e, he⟩, -⟩ | ⟨hanswer, -⟩⟩ := h.listAgents world
    · rw [he] at hlist
      cases hlist
    · rw [hanswer] at hlist
      exact hworld.listed hlist
  putAgent := fun hagent => (h.putAgent _ _).keeps fun _ hstore => hstore.putAgent _ hagent
  withStatus := fun status hagent => hagent.withStatus status
  applyVerdict := fun verdict skills hagent => hagent.applyVerdict verdict skills

theorem Hosts.preserves_allInStep (h : env.Hosts view) :
    env.Preserves fun world => (view.hall world).store.AllInStep where
  putAgent := fun hstarts =>
    (h.putAgent _ _).keeps fun _ hstore => hstore.putAgent _ hstarts.inStep
  getAgent := fun key => (h.getAgent key).keeps fun _ hstore => hstore.getAgent key
  listAgents := h.listAgents.keeps fun _ => Store.AllInStep.listAgents
  putGuild := fun id guild => (h.putGuild id guild).keeps fun _ hstore => hstore
  updateGuild := fun id change =>
    (h.updateGuild id change).keeps fun _ hstore => hstore.updateGuild id change
  post := fun draft => (h.post draft).keeps fun _ _ hready => hready
  claim := fun questId agentId =>
    (h.claim questId agentId).keeps fun _ _ => h.trades_inStep.claim questId agentId
  start := fun questId => (h.start questId).keeps fun _ _ hready => hready
  submit := fun questId output verdict => (h.submit questId output verdict).keeps fun _ _ =>
    h.trades_inStep.submit questId output verdict
  abandon := fun questId => (h.abandon questId).keeps fun _ _ => h.trades_inStep.abandon questId
  execute := fun agent quest => (h.execute agent quest).keeps
  judge := fun strictness template output => (h.judge strictness template output).keeps
  report := fun event => (h.report event).keeps
  check := h.check.keeps

theorem Preserves.perform {P : ω → Prop} {world : ω} (h : env.Preserves P) (hworld : P world)
    (call : BoardCall) : P (env.perform world call).2 := by
  cases call with
  | post draft => exact h.post draft hworld
  | claim questId agentId => exact h.claim questId agentId hworld
  | start questId => exact h.start questId hworld
  | submit questId output verdict => exact h.submit questId output verdict hworld
  | abandon questId => exact h.abandon questId hworld

end Environment

/-- Something that is done with a world, each time in an environment of its own. -/
inductive Deed (ω : Type)
  | call (env : Environment ω) (made : BoardCall)
  | place (env : Environment ω) (plan : RosterPlan) (dryRun idempotent : Bool)
  | train (env : Environment ω) (plan : ArenaPlan) (dryRun idempotent : Bool)
  /-- Anything else, such as the choice of the calls that are to fail. -/
  | arrange (change : ω → ω)

namespace Deed

def after (world : ω) : Deed ω → ω
  | .call env made => (env.perform world made).2
  | .place env plan dryRun idempotent => (Roster.seed env plan dryRun idempotent world).2
  | .train env plan dryRun idempotent => (Arena.run env plan dryRun idempotent world).2
  | .arrange change => change world

/-- All that is done to the stored agents is done by the board and the store in memory. -/
def Within (view : HallView ω) : Deed ω → Prop
  | .call env _ | .place env _ _ _ | .train env _ _ _ => env.Hosts view
  | .arrange change =>
      ∀ world, (view.hall (change world)).store.agents = (view.hall world).store.agents

variable {view : HallView ω}

theorem Within.allInStep {deed : Deed ω} {world : ω} (h : deed.Within view)
    (hworld : (view.hall world).store.AllInStep) :
    (view.hall (deed.after world)).store.AllInStep := by
  cases deed with
  | call env made =>
      have hhosts : env.Hosts view := h
      exact hhosts.preserves_allInStep.perform hworld made
  | place env plan dryRun idempotent =>
      have hhosts : env.Hosts view := h
      exact hhosts.preserves_allInStep.seed plan dryRun idempotent hworld
  | train env plan dryRun idempotent =>
      have hhosts : env.Hosts view := h
      exact hhosts.preserves_allInStep.run plan dryRun idempotent hworld
  | arrange change =>
      intro key agent hagent
      simp only [after, h world] at hagent
      exact hworld key agent hagent

theorem allInStep_foldl {deeds : List (Deed ω)} {world : ω}
    (h : ∀ deed ∈ deeds, deed.Within view) (hworld : (view.hall world).store.AllInStep) :
    (view.hall (deeds.foldl after world)).store.AllInStep := by
  induction deeds generalizing world with
  | nil => exact hworld
  | cons deed rest ih =>
      have hdeed := (h deed List.mem_cons_self).allInStep hworld
      exact ih (fun later hlater => h later (List.mem_cons_of_mem deed hlater)) hdeed

/-- If all stored agents are in step at the beginning, they are so whatever part of the deeds has
been done. -/
theorem allInStep_throughout (view : HallView ω) (deeds : List (Deed ω)) (world : ω)
    (h : ∀ deed ∈ deeds, deed.Within view) (hworld : (view.hall world).store.AllInStep)
    (done : List (Deed ω)) (hdone : done <+: deeds) :
    (view.hall (done.foldl after world)).store.AllInStep :=
  allInStep_foldl (fun deed hdeed => h deed (hdone.subset hdeed)) hworld

def errandDeeds : List (Deed Rehearsal) :=
  let verdict : Verdict :=
    { passed := true, quality := 1, award := 250, penalty := 0, feedback := "" }
  let trainees : ArenaPlan :=
    { ArenaPlan.default with
      profiles := [{ name := "scout", skills := ["running"], modelSettings := none }] }
  [.place Rehearsal.quiet (Mentors.roster 1 1) false true,
    .call Rehearsal.quiet (.post .errand),
    .call Rehearsal.quiet (.claim "q1" "guildhall.agent.scout"),
    .call Rehearsal.quiet (.start "q1"),
    .call Rehearsal.quiet (.submit "q1" .null verdict),
    .arrange fun world => { world with board := world.board.disable .post },
    .train Rehearsal.quiet trainees false true]

theorem allInStep_throughout_errandDeeds :
    (∀ done, done <+: errandDeeds →
        ((done.foldl after (Rehearsal.onStore .scouted)).store.AllInStep)) ∧
      ((errandDeeds.foldl after (Rehearsal.onStore .scouted)).store.agents.find? "scout").map
        Agent.level = some 2 := by
  have hlevel : ((errandDeeds.foldl after (Rehearsal.onStore .scouted)).store.agents.find?
      "scout").map Agent.level = some 2 := by
    decide +kernel
  refine ⟨fun done hdone => ?_, hlevel⟩
  have hwithin : ∀ deed ∈ errandDeeds, deed.Within Rehearsal.hallView := by
    simp only [errandDeeds, List.forall_mem_cons, List.not_mem_nil, false_imp_iff,
      implies_true, and_true]
    exact ⟨Rehearsal.hosts_quiet, Rehearsal.hosts_quiet, Rehearsal.hosts_quiet,
      Rehearsal.hosts_quiet, Rehearsal.hosts_quiet, fun _ => rfl, Rehearsal.hosts_quiet⟩
  exact allInStep_throughout Rehearsal.hallView errandDeeds (Rehearsal.onStore .scouted) hwithin
    Store.allInStep_scouted done hdone

end Deed

end QuestAcademy
