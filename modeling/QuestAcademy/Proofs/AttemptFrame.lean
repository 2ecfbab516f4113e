import QuestAcademy.Proofs.AgentProgress
import QuestAcademy.Proofs.HallReads
import QuestAcademy.Proofs.ReadyHall
import QuestAcademy.Proofs.RosterPlacement

namespace QuestAcademy

variable {ω : Type}

/-- What no quest changes about an agent. -/
structure AgentTraits where
  id : String
  name : String
  skills : List String
  guilds : List String
  isNpc : Bool
  modelSettings : Option Json

def Agent.traits (agent : Agent) : AgentTraits :=
  { id := agent.id, name := agent.name, skills := agent.skills, guilds := agent.guilds,
    isNpc := agent.isNpc, modelSettings := agent.modelSettings }

theorem Board.traits_applyVerdict (verdict : Verdict) (skills : List String) (agent : Agent) :
    (applyVerdict verdict skills agent).traits = agent.traits := by
  rw [applyVerdict_eq]
  rfl

/-- From one store to another only the progress of the agent under one key has changed. -/
structure Store.Tended (space key : String) (before after : Store) : Prop where
  keyed : after.WellKeyed space
  guilds : after.guilds = before.guilds
  others : ∀ other, other ≠ key → after.agents.find? other = before.agents.find? other
  own : (after.agents.find? key).map Agent.traits = (before.agents.find? key).map Agent.traits

namespace Store

variable {space key : String} {before store : Store} {agent : Agent}

theorem Tended.refl (h : store.WellKeyed space) (key : String) : Tended space key store store :=
  ⟨h, rfl, fun _ _ => rfl, rfl⟩

theorem find?_save_or (store : Store) (agent : Agent) :
    store.save agent = store ∨ ∀ key, (store.save agent).agents.find? key =
      if key = instanceKey agent.name then some agent else store.agents.find? key := by
  unfold save
  split
  · exact .inl rfl
  · exact .inr fun key => AgentTable.find?_put store.agents (instanceKey agent.name) key agent

theorem WellKeyed.place_of_traits (h : store.WellKeyed space)
    (hagent : (store.agents.find? key).map Agent.traits = some agent.traits) :
    instanceKey agent.name = key ∧ agent.id = entityId space key := by
  obtain ⟨old, hold, htraits⟩ := Option.map_eq_some_iff.mp hagent
  have hname : old.name = agent.name := congrArg AgentTraits.name htraits
  have hid : old.id = agent.id := congrArg AgentTraits.id htraits
  rw [← hname, ← hid]
  exact ⟨h.key key old hold, h.id key old hold⟩

theorem Tended.save (h : Tended space key before store)
    (hagent : (before.agents.find? key).map Agent.traits = some agent.traits) :
    Tended space key before (store.save agent) := by
  rw [← h.own] at hagent
  obtain ⟨hkey, hid⟩ := h.keyed.place_of_traits hagent
  have hkeyed : (store.save agent).WellKeyed space := h.keyed.save (by rw [hkey, hid])
  refine ⟨hkeyed, (store.guilds_save agent).trans h.guilds, ?_, ?_⟩
  · intro other hother
    rw [← h.others other hother]
    rcases store.find?_save_or agent with hsame | hput
    · rw [hsame]
    · rw [hput, hkey, if_neg hother]
  · rw [← h.own]
    rcases store.find?_save_or agent with hsame | hput
    · rw [hsame]
    · rw [hput, hkey, if_pos rfl, hagent]
      rfl

end Store

/-- The store as it is for those who look for one agent only. -/
def StoreAccess.only (store : StoreAccess ω) (id : String) : StoreAccess ω :=
  { store with
    listAgents := fun world =>
      match store.listAgents world with
      | (.error e, world) => (.error e, world)
      | (.ok agents, world) => (.ok (agents.filter fun agent => agent.id = id), world) }

namespace Board

variable {store : StoreAccess ω} {board : Board} {questId agentId : String}

/-- Nobody but this agent has claimed the quest. -/
def Reserved (board : Board) (questId agentId : String) : Prop :=
  ∀ quest ∈ board.quests, quest.id = questId → ∀ id, quest.claimedBy = some id → id = agentId

theorem Reserved.change (h : board.Reserved questId agentId) (other : String) {f : Quest → Quest}
    (hid : ∀ quest, (f quest).id = quest.id)
    (hclaimant : ∀ quest, (f quest).claimedBy = quest.claimedBy ∨
      (f quest).claimedBy = some agentId) :
    (board.change other f).Reserved questId agentId := by
  intro changed hchanged hquest id hclaimed
  obtain ⟨quest, hmem, rfl⟩ := List.mem_map.mp hchanged
  by_cases hother : quest.id = other
  · rw [if_pos hother] at hquest hclaimed
    rw [hid] at hquest
    rcases hclaimant quest with hsame | hnew
    · rw [hsame] at hclaimed
      exact h quest hmem hquest id hclaimed
    · rw [hnew] at hclaimed
      exact (Option.some.inj hclaimed).symm
  · rw [if_neg hother] at hquest hclaimed
    exact h quest hmem hquest id hclaimed

theorem Numbered.reserved_fresh (h : board.Numbered) (draft : Draft) (agentId : String) :
    (board.add (board.fresh draft)).Reserved (board.fresh draft).id agentId := by
  intro quest hquest hid id hclaimed
  rcases List.mem_append.mp hquest with hold | hnew
  · exact absurd (List.mem_map.mpr ⟨quest, hold, hid⟩) h.freshId_not_mem
  · rw [List.mem_singleton.mp hnew] at hclaimed
    cases hclaimed

/-- A call moves one quest on from one status to another, or leaves the board alone. -/
theorem transition_eq {expected next : QuestStatus} {moved : Quest} {after : Board}
    (h : board.transition questId expected next = .ok (moved, after)) :
    after = board.setStatus questId next ∧ ∃ quest ∈ board.quests, quest.id = questId ∧
      moved = { quest with status := next } := by
  unfold transition at h
  split at h
  · cases h
  · rename_i quest hquest
    split at h
    · cases h
    · cases h
      exact ⟨rfl, quest, mem_of_quest? hquest, id_of_quest? hquest, rfl⟩

/-- The quests keep their numbers, and this one remains reserved. -/
structure Held (board : Board) (questId agentId : String) : Prop where
  numbered : board.Numbered
  reserved : board.Reserved questId agentId

theorem Held.setStatus (h : board.Held questId agentId) (status : QuestStatus) :
    (board.setStatus questId status).Held questId agentId :=
  ⟨h.numbered.change questId fun _ => rfl,
    h.reserved.change questId (fun _ => rfl) fun _ => .inl rfl⟩

theorem Held.claim (h : board.Held questId agentId) (world : ω) :
    (claim store questId agentId board world).2.1.Held questId agentId := by
  unfold Board.claim
  split
  · exact h
  · split
    · exact h
    · split
      · exact h
      · split
        · exact h
        · rename_i htransition
          have hclaimed : ∀ after, after = board.setStatus questId .claimed →
              (after.change questId fun quest =>
                { quest with claimedBy := some agentId }).Held questId agentId := by
            rintro after rfl
            have hmoved := h.setStatus .claimed
            exact ⟨hmoved.numbered.change questId fun _ => rfl,
              hmoved.reserved.change questId (fun _ => rfl) fun _ => .inr rfl⟩
          have hafter := hclaimed _ (transition_eq htransition).1
          simp only
          split <;> exact hafter

theorem Held.start (h : board.Held questId agentId) :
    (start questId board).2.Held questId agentId := by
  unfold Board.start
  split
  · exact h
  · split
    · exact h
    · rename_i htransition
      rw [(transition_eq htransition).1]
      exact h.setStatus .inProgress

theorem Held.submit (h : board.Held questId agentId) (output : Payload) (verdict : Verdict)
    (world : ω) :
    (submit store questId output verdict board world).2.1.Held questId agentId := by
  unfold Board.submit
  split
  · exact h
  · split
    · exact h
    · rename_i htransition
      have hafter := h.setStatus verdict.finalStatus
      rw [← (transition_eq htransition).1] at hafter
      split
      · exact hafter
      · split
        · exact hafter
        · simp only
          split
          · exact hafter
          · exact ⟨hafter.numbered, hafter.reserved⟩

theorem Held.abandon (h : board.Held questId agentId) (world : ω) :
    (abandon store questId board world).2.1.Held questId agentId := by
  unfold Board.abandon
  split
  · exact h
  · rename_i quest _
    have hafter : (if quest.status.isActive then
        board.change questId fun quest => { quest with status := .failed } else board).Held
          questId agentId := by
      split
      · exact h.setStatus .failed
      · exact h
    simp only
    split
    · exact hafter
    · split
      · exact hafter
      · split
        · exact hafter
        · split <;> exact hafter

section Only

theorem loadAgent_only (world : ω) :
    loadAgent (store.only agentId) agentId world = loadAgent store agentId world := by
  simp only [loadAgent, StoreAccess.getById, StoreAccess.only]
  cases store.listAgents world with
  | mk answer after =>
      cases answer with
      | error e => rfl
      | ok agents =>
          simp only [List.find?_filter, and_self, decide_eq_true_eq]

theorem saveAgent_only (agent : Agent) (world : ω) :
    saveAgent (store.only agentId) agent world = saveAgent store agent world := rfl

theorem claim_only (world : ω) :
    claim (store.only agentId) questId agentId board world =
      claim store questId agentId board world := by
  simp only [claim, loadAgent_only, saveAgent_only]

theorem submit_only (h : board.Reserved questId agentId) (output : Payload) (verdict : Verdict)
    (world : ω) :
    submit (store.only agentId) questId output verdict board world =
      submit store questId output verdict board world := by
  unfold submit
  split
  · rfl
  · split
    · rfl
    · rename_i moved after htransition
      obtain ⟨-, quest, hmem, hid, rfl⟩ := transition_eq htransition
      simp only
      cases hclaimant : quest.claimedBy with
      | none => rfl
      | some claimant =>
          obtain rfl := h quest hmem hid claimant hclaimant
          simp only [loadAgent_only, saveAgent_only]

theorem abandon_only (h : board.Reserved questId agentId) (world : ω) :
    abandon (store.only agentId) questId board world = abandon store questId board world := by
  unfold abandon
  cases hquest : board.quest? questId with
  | none => rfl
  | some quest =>
      simp only
      cases hclaimant : quest.claimedBy with
      | none => rfl
      | some claimant =>
          obtain rfl := h quest (mem_of_quest? hquest) (id_of_quest? hquest) claimant hclaimant
          simp only [loadAgent_only, saveAgent_only]

end Only

end Board

/-- The hall while a trainee is at work on a quest of its own. -/
structure Hall.AtWork (space key questId : String) (before : Store) (hall : Hall) :
    Prop where
  store : before.Tended space key hall.store
  board : hall.board.Held questId (entityId space key)

namespace HallView

variable {view : HallView ω} {world : ω}

/-- A call of the board that fails leaves the hall alone; any other does what `op` does. -/
theorem OnBoard.keeps_hall {α : Type} {R : Hall → Prop} {call : ω → Except BoardError α × ω}
    {op : Board → ω → Except BoardError α × Board × ω} (h : view.OnBoard call op)
    (hworld : R (view.hall world))
    (hop : ∀ ready, view.hall ready = view.hall world →
      R { board := (op (view.hall world).board ready).2.1
          store := (view.hall (op (view.hall world).board ready).2.2).store }) :
    R (view.hall (call world).2) := by
  obtain ⟨-, ⟨-, -, hkept⟩ | ⟨ready, hready, -, -, hafter⟩⟩ := h world
  · rw [hkept]
    exact hworld
  · rw [hafter]
    exact hop ready hready

end HallView

namespace Environment

variable {env : Environment ω} {view : HallView ω} {world : ω} {key : String} {before : Store}
  {questId : String}

theorem Hosts.trades_only (hosts : env.Hosts view) (key : String) (before : Store) :
    Board.Trades (env.store.only (entityId env.store.space key))
      (fun world => before.Tended env.store.space key (view.hall world).store)
      fun agent => (before.agents.find? key).map Agent.traits = some agent.traits where
  listAgents := by
    intro world hworld
    have hlisted := hosts.hall_listAgents world
    simp only [StoreAccess.only]
    split <;> rename_i heq <;> rw [heq] at hlisted <;> rw [hlisted] <;> exact hworld
  listed := by
    intro world agents hworld hlist agent hagent
    simp only [StoreAccess.only] at hlist
    split at hlist
    · cases hlist
    · rename_i stored listed heq
      cases hlist
      obtain ⟨hmem, hid⟩ := List.mem_filter.mp hagent
      rw [hosts.listed_of_listAgents heq] at hmem
      obtain ⟨other, hother⟩ := AgentTable.exists_find?_of_mem hmem
      rw [decide_eq_true_eq, hworld.keyed.id other agent hother, entityId_inj] at hid
      rw [← hworld.own, ← hid, hother]
      rfl
  putAgent := by
    intro agent world hagent hworld
    refine (hosts.putAgent (instanceKey agent.name) agent).keeps ?_ hworld
    intro store hstore
    rw [Store.after_putAgent rfl]
    exact hstore.save hagent
  withStatus := fun _ hagent => hagent
  applyVerdict := by
    intro agent verdict skills hagent
    rw [Board.traits_applyVerdict]
    exact hagent

section Working

variable (hosts : env.Hosts view)
  (hwork : (view.hall world).AtWork env.store.space key questId before)
include hosts hwork

theorem Hosts.atWork_claim :
    (view.hall (env.board.claim questId (entityId env.store.space key) world).2).AtWork
      env.store.space key questId before := by
  refine (hosts.claim questId _).keeps_hall hwork ?_
  intro ready hready
  refine ⟨?_, hwork.board.claim ready⟩
  rw [← Board.claim_only]
  refine (hosts.trades_only key before).claim questId _ ?_
  rw [hready]
  exact hwork.store

theorem Hosts.atWork_start :
    (view.hall (env.board.start questId world).2).AtWork env.store.space key questId before := by
  refine (hosts.start questId).keeps_hall hwork ?_
  intro ready hready
  refine ⟨?_, hwork.board.start⟩
  rw [Board.alone, hready]
  exact hwork.store

theorem Hosts.atWork_submit (output : Payload) (verdict : Verdict) :
    (view.hall (env.board.submit questId output verdict world).2).AtWork env.store.space key
      questId before := by
  refine (hosts.submit questId output verdict).keeps_hall hwork ?_
  intro ready hready
  refine ⟨?_, hwork.board.submit output verdict ready⟩
  rw [← Board.submit_only hwork.board.reserved]
  refine (hosts.trades_only key before).submit questId output verdict ?_
  rw [hready]
  exact hwork.store

theorem Hosts.atWork_abandon :
    (view.hall (env.board.abandon questId world).2).AtWork env.store.space key questId before := by
  refine (hosts.abandon questId).keeps_hall hwork ?_
  intro ready hready
  refine ⟨?_, hwork.board.abandon ready⟩
  rw [← Board.abandon_only hwork.board.reserved]
  refine (hosts.trades_only key before).abandon questId ?_
  rw [hready]
  exact hwork.store

theorem Hosts.atWork_complete (plan : ArenaPlan) (trainee : Trainee) (template : Template)
    (quest : Quest) (hquest : quest.id = questId) :
    (view.hall (Training.complete env plan trainee template quest world).2).AtWork env.store.space
      key questId before := by
  subst hquest
  have hstarted := hosts.atWork_start hwork
  unfold Training.complete
  split <;> rename_i heq <;> rw [heq] at hstarted
  · exact hstarted
  · rename_i started
    have hexecuted := (hosts.execute trainee.agent quest started).1
    split <;> rename_i hexecute <;> simp only [hexecute] at hexecuted
    · rw [hexecuted]
      exact hstarted
    · rename_i output executed
      have hjudged := (hosts.judge plan.strictness template output executed).1
      split <;> rename_i hjudge <;> simp only [hjudge] at hjudged
      · rw [hjudged, hexecuted]
        exact hstarted
      · rename_i judgement judged
        rw [← hexecuted, ← hjudged] at hstarted
        have hsubmitted := hosts.atWork_submit hstarted output (judgement.toVerdict
          (Training.baseExperience template.difficulty plan.multiplier))
        simp only
        split <;> rename_i hsubmit <;> rw [hsubmit] at hsubmitted <;> exact hsubmitted

end Working

theorem Hosts.atWork_post (hosts : env.Hosts view) {draft : Draft} {quest : Quest} {after : ω}
    (hkeyed : (view.hall world).store.WellKeyed env.store.space)
    (hnumbered : (view.hall world).board.Numbered) (key : String)
    (hpost : env.board.post draft world = (.ok quest, after)) :
    (view.hall after).AtWork env.store.space key quest.id (view.hall world).store := by
  obtain ⟨-, ⟨-, ⟨e, he⟩, -⟩ | ⟨ready, hready, -, hanswer, hafter⟩⟩ := hosts.post draft world
  · rw [hpost] at he
    cases he
  · simp only [hpost, Board.alone, hready] at hanswer hafter
    unfold Board.post at hanswer hafter
    split at hanswer
    · cases hanswer
    · rename_i henabled
      simp only [if_neg henabled] at hafter
      cases hanswer
      rw [hafter]
      exact ⟨.refl hkeyed key, hnumbered.add draft, hnumbered.reserved_fresh draft _⟩

theorem Hosts.hall_unposted (hosts : env.Hosts view) {draft : Draft} {e : BoardError} {after : ω}
    (hpost : env.board.post draft world = (.error e, after)) :
    view.hall after = view.hall world := by
  obtain ⟨-, ⟨-, -, hkept⟩ | ⟨ready, hready, -, hanswer, hafter⟩⟩ := hosts.post draft world
  · rw [hpost] at hkept
    exact hkept
  · simp only [hpost, Board.alone, hready] at hanswer hafter
    unfold Board.post at hanswer hafter
    split at hanswer
    · rename_i hdisabled
      rw [hafter, if_pos hdisabled]
    · cases hanswer

/-- An attempt touches nothing but the progress of its trainee. -/
theorem Hosts.attempt_tends (hosts : env.Hosts view) (plan : ArenaPlan) (template : Template)
    {trainee : Trainee} (htrainee : trainee.Keyed env.store.space)
    (hkeyed : (view.hall world).store.WellKeyed env.store.space)
    (hnumbered : (view.hall world).board.Numbered) :
    (view.hall world).store.Tended env.store.space trainee.key
        (view.hall (Training.attempt env plan template trainee world).2).store ∧
      (view.hall (Training.attempt env plan template trainee world).2).board.Numbered := by
  have hchecked := hosts.hall_check world
  unfold Training.attempt
  split <;> rename_i heq <;> rw [heq] at hchecked
  · rw [hchecked]
    exact ⟨.refl hkeyed _, hnumbered⟩
  · rename_i checked
    rw [← hchecked] at hkeyed hnumbered ⊢
    split <;> rename_i hpost
    · rw [hosts.hall_unposted hpost]
      exact ⟨.refl hkeyed _, hnumbered⟩
    · rename_i quest posted
      have hposted := hosts.atWork_post hkeyed hnumbered trainee.key hpost
      have hclaimed := hosts.atWork_claim hposted
      rw [← htrainee] at hclaimed
      split <;> rename_i hclaim <;> rw [hclaim] at hclaimed
      · exact ⟨hclaimed.store, hclaimed.board.numbered⟩
      · have hcompleted := hosts.atWork_complete hclaimed plan trainee template quest rfl
        split <;> rename_i hcomplete <;> rw [hcomplete] at hcompleted
        · exact ⟨hcompleted.store, hcompleted.board.numbered⟩
        · have habandoned := hosts.atWork_abandon hcompleted
          exact ⟨habandoned.store, habandoned.board.numbered⟩

end Environment

end QuestAcademy
