import QuestAcademy.Board
import QuestAcademy.Proofs.AgentTable

namespace QuestAcademy

theorem entityId_inj (space : String) {key other : String} :
    entityId space key = entityId space other ↔ key = other := by
  unfold entityId
  exact String.append_right_inj (space ++ ".agent.")

namespace Store

def load? (store : Store) (id : String) : Option Agent :=
  if store.readsDisabled then none
  else store.agents.toList.find? fun agent => agent.id = id

def save (store : Store) (agent : Agent) : Store :=
  if store.writesDisabled then store
  else { store with agents := store.agents.put (instanceKey agent.name) agent }

/-- Neither reads nor writes of agents are switched off. -/
structure Working (store : Store) : Prop where
  reads : store.readsDisabled = false
  writes : store.writesDisabled = false

/-- Every agent lies under the key of its name. -/
structure Named (store : Store) : Prop where
  sound : store.agents.Sound
  key : ∀ key agent, store.agents.find? key = some agent → instanceKey agent.name = key

/-- Every agent lies under the key of its name and has the id that belongs to the key. -/
structure WellKeyed (space : String) (store : Store) : Prop extends store.Named where
  id : ∀ key agent, store.agents.find? key = some agent → agent.id = entityId space key

theorem working_empty : empty.Working := ⟨rfl, rfl⟩

theorem wellKeyed_empty (space : String) : empty.WellKeyed space where
  sound := AgentTable.sound_empty
  key := by simp [empty]
  id := by simp [empty]

def scouted : Store :=
  empty.save (Agent.create "guildhall.agent.scout" "scout" 1)

section Saving

variable {store : Store} {space : String} {agent : Agent}

theorem find?_save (h : store.Working) (agent : Agent) (key : String) :
    (store.save agent).agents.find? key =
      if key = instanceKey agent.name then some agent else store.agents.find? key := by
  simp only [save, h.writes, Bool.false_eq_true, if_false]
  exact AgentTable.find?_put store.agents (instanceKey agent.name) key agent

theorem guilds_save (store : Store) (agent : Agent) : (store.save agent).guilds = store.guilds := by
  unfold save
  split <;> rfl

theorem Working.save (h : store.Working) (agent : Agent) : (store.save agent).Working := by
  simp only [Store.save, h.writes, Bool.false_eq_true, if_false]
  exact ⟨h.reads, rfl⟩

theorem Named.save (h : store.Named) (agent : Agent) : (store.save agent).Named := by
  unfold Store.save
  split
  · exact h
  · refine ⟨h.sound.put _ agent, ?_⟩
    intro key found hfound
    rw [AgentTable.find?_put] at hfound
    split at hfound
    · rename_i hkey
      cases hfound
      exact hkey.symm
    · exact h.key key found hfound

theorem WellKeyed.save (h : store.WellKeyed space)
    (hid : agent.id = entityId space (instanceKey agent.name)) :
    (store.save agent).WellKeyed space := by
  refine ⟨h.toNamed.save agent, ?_⟩
  unfold Store.save
  split
  · exact h.id
  · intro key found hfound
    rw [AgentTable.find?_put] at hfound
    split at hfound
    · rename_i hkey
      cases hfound
      rw [hkey]
      exact hid
    · exact h.id key found hfound

/-- A changed agent that keeps its name and its id goes back to where it was. -/
theorem WellKeyed.save_changed (h : store.WellKeyed space) {key : String} {old : Agent}
    (hold : store.agents.find? key = some old) (hname : agent.name = old.name)
    (hid : agent.id = old.id) :
    instanceKey agent.name = key ∧ (store.save agent).WellKeyed space := by
  have hkey : instanceKey agent.name = key := by
    rw [hname]
    exact h.key key old hold
  refine ⟨hkey, h.save ?_⟩
  rw [hid, hkey]
  exact h.id key old hold

end Saving

theorem wellKeyed_scouted : scouted.WellKeyed defaultSpace :=
  (wellKeyed_empty defaultSpace).save (by decide +kernel)

theorem working_scouted : scouted.Working := working_empty.save _

section Searching

variable {store : Store} {space : String}

theorem WellKeyed.load?_eq_some_iff (h : store.WellKeyed space)
    (hreads : store.readsDisabled = false) {id : String} {agent : Agent} :
    store.load? id = some agent ↔
      ∃ key, store.agents.find? key = some agent ∧ id = entityId space key := by
  simp only [load?, hreads, Bool.false_eq_true, if_false]
  constructor
  · intro hfound
    obtain ⟨key, hkey⟩ := (AgentTable.mem_toList_iff h.sound agent).mp
      (List.mem_of_find?_eq_some hfound)
    refine ⟨key, hkey, ?_⟩
    have hagent : agent.id = id := by simpa using List.find?_some hfound
    rw [← hagent]
    exact h.id key agent hkey
  · rintro ⟨key, hkey, rfl⟩
    have honly : ∀ other found, store.agents.find? other = some found →
        decide (found.id = entityId space key) = true → other = key := by
      intro other found hother hid
      rw [h.id other found hother, decide_eq_true_eq, entityId_inj] at hid
      exact hid
    rw [AgentTable.find?_toList h.sound honly, hkey]
    exact Option.filter_some_pos (by simpa using h.id key agent hkey)

theorem Named.find?_name (h : store.Named) (name : String) :
    (store.agents.toList.find? fun agent => agent.name = name) =
      (store.agents.find? (instanceKey name)).filter fun agent => agent.name = name := by
  apply AgentTable.find?_toList h.sound
  intro key agent hagent hname
  rw [← h.key key agent hagent, of_decide_eq_true hname]

theorem findByName_access (h : store.Named) (hreads : store.readsDisabled = false)
    (name : String) :
    (access space).findByName name store =
      (.ok ((store.agents.find? (instanceKey name)).filter fun agent => agent.name = name),
        store) := by
  simp only [StoreAccess.findByName, access, listAgents, hreads, Bool.false_eq_true, if_false,
    h.find?_name]

end Searching

end Store

namespace Board

variable (space : String)

theorem loadAgent_of_some {store : Store} {id : String} {agent : Agent}
    (h : store.load? id = some agent) :
    loadAgent (Store.access space) id store = (.ok agent, store) := by
  unfold Store.load? at h
  split at h
  · cases h
  · rename_i hreads
    simp [loadAgent, StoreAccess.getById, Store.access, Store.listAgents, hreads, h]

theorem loadAgent_of_none {store : Store} {id : String} (h : store.load? id = none) :
    ∃ e, loadAgent (Store.access space) id store = (.error e, store) := by
  unfold Store.load? at h
  split at h
  · rename_i hreads
    simp [loadAgent, StoreAccess.getById, Store.access, Store.listAgents, hreads]
  · rename_i hreads
    simp [loadAgent, StoreAccess.getById, Store.access, Store.listAgents, hreads, h]

def saved (store : Store) (agent : Agent) : Except BoardError Unit :=
  if store.writesDisabled then .error (.store (.writesDisabled (instanceKey agent.name)))
  else .ok ()

theorem saveAgent_eq (store : Store) (agent : Agent) :
    saveAgent (Store.access space) agent store = (saved store agent, store.save agent) := by
  simp only [saveAgent, Store.access, Store.putAgent, saved, Store.save]
  split <;> rename_i h <;> split at h <;> simp_all

end Board

end QuestAcademy
