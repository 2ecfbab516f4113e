import QuestAcademy.Proofs.StoreCalls
import QuestAcademy.Rehearsal
import QuestAcademy.Roster

namespace QuestAcademy

/-- What worlds show of a store in memory, as long as they work. -/
structure StoreView (ω : Type) where
  store : ω → Store
  works : ω → Prop

variable {ω : Type}

/-- A call does to a world what another one does to the store that the world shows. -/
def StoreView.Mirrors {α : Type} (view : StoreView ω) (call : ω → α × ω)
    (model : Store → α × Store) : Prop :=
  ∀ world, view.works world → ∃ answer after, call world = (answer, after) ∧
    model (view.store world) = (answer, view.store after) ∧ view.works after

namespace Environment

/-- All calls of the store go to a store in memory, which nothing else touches. -/
structure InMemory (env : Environment ω) (space : String) (view : StoreView ω) : Prop where
  space_eq : env.store.space = space
  putAgent : ∀ key agent, view.Mirrors (env.store.putAgent key agent)
    ((Store.access space).putAgent key agent)
  getAgent : ∀ key, view.Mirrors (env.store.getAgent key) ((Store.access space).getAgent key)
  listAgents : view.Mirrors env.store.listAgents (Store.access space).listAgents
  putGuild : ∀ id guild, view.Mirrors (env.store.putGuild id guild)
    ((Store.access space).putGuild id guild)
  getGuild : ∀ id, view.Mirrors (env.store.getGuild id) ((Store.access space).getGuild id)
  updateGuild : ∀ id change, view.Mirrors (env.store.updateGuild id change)
    ((Store.access space).updateGuild id change)
  report : ∀ event world, view.works world →
    view.store (env.report event world) = view.store world ∧ view.works (env.report event world)
  check : ∀ world, view.works world →
    view.store (env.check world).2 = view.store world ∧ view.works (env.check world).2

variable {env : Environment ω} {space : String} {view : StoreView ω}

theorem InMemory.agentId (h : env.InMemory space view) (key : String) :
    env.store.agentId key = entityId space key := by
  rw [StoreAccess.agentId, h.space_eq]

theorem InMemory.findByName (h : env.InMemory space view) (name : String) :
    view.Mirrors (env.store.findByName name) ((Store.access space).findByName name) := by
  intro world hworks
  obtain ⟨answer, after, hcall, hmodel, hafter⟩ := h.listAgents world hworks
  simp only [StoreAccess.findByName, hcall, hmodel]
  cases answer with
  | error e => exact ⟨_, after, rfl, rfl, hafter⟩
  | ok agents => exact ⟨_, after, rfl, rfl, hafter⟩

theorem InMemory.found (h : env.InMemory space view) (charter : GuildCharter) :
    view.Mirrors (Roster.found env.store charter) (Roster.found (Store.access space) charter) := by
  intro world hworks
  obtain ⟨answer, after, hcall, hmodel, hafter⟩ :=
    h.putGuild charter.id charter.toGuild world hworks
  simp only [Roster.found, hcall, hmodel]
  cases answer with
  | error e => exact ⟨_, after, rfl, rfl, hafter⟩
  | ok done => exact ⟨_, after, rfl, rfl, hafter⟩

theorem InMemory.place (h : env.InMemory space view) (batch : AgentBatch) (name : String) :
    view.Mirrors (Roster.place env.store batch name)
      (Roster.place (Store.access space) batch name) := by
  intro world hworks
  have hid : env.store.agentId (instanceKey name) =
      (Store.access space).agentId (instanceKey name) := h.agentId _
  simp only [Roster.place, hid]
  cases batch.guildId with
  | none =>
      obtain ⟨answer, after, hcall, hmodel, hafter⟩ := h.putAgent (instanceKey name)
        (batch.build ((Store.access space).agentId (instanceKey name)) name) world hworks
      simp only [hcall, hmodel]
      cases answer with
      | error e => exact ⟨_, after, rfl, rfl, hafter⟩
      | ok done => exact ⟨_, after, rfl, rfl, hafter⟩
  | some guildId =>
      generalize batch.build ((Store.access space).agentId (instanceKey name)) name = agent
      obtain ⟨answer, after, hcall, hmodel, hafter⟩ := h.putAgent (instanceKey name)
        { agent with guilds := Names.insert guildId agent.guilds } world hworks
      simp only [hcall, hmodel]
      cases answer with
      | error e => exact ⟨_, after, rfl, rfl, hafter⟩
      | ok done =>
          obtain ⟨answer, joined, hcall, hmodel, hjoined⟩ :=
            h.updateGuild guildId (fun guild => guild.addMember agent.id) after hafter
          simp only [hcall, hmodel]
          cases answer with
          | ok done => exact ⟨_, joined, rfl, rfl, hjoined⟩
          | error joinError =>
              obtain ⟨answer, dropped, hcall, hmodel, hdropped⟩ := h.putAgent (instanceKey name)
                { agent with guilds := Names.erase guildId (Names.insert guildId agent.guilds) }
                joined hjoined
              simp only [hcall, hmodel]
              cases answer with
              | ok done => exact ⟨_, dropped, rfl, rfl, hdropped⟩
              | error dropError => exact ⟨_, dropped, rfl, rfl, hdropped⟩

theorem InMemory.placeNew (h : env.InMemory space view) (idempotent : Bool) (batch : AgentBatch)
    (name : String) :
    view.Mirrors (Roster.placeNew env.store idempotent batch name)
      (Roster.placeNew (Store.access space) idempotent batch name) := by
  intro world hworks
  cases idempotent with
  | false =>
      simp only [Roster.placeNew, Bool.false_eq_true, if_false]
      exact h.place batch name world hworks
  | true =>
      obtain ⟨answer, after, hcall, hmodel, hafter⟩ := h.findByName name world hworks
      simp only [Roster.placeNew, if_true, hcall, hmodel]
      cases answer with
      | error e => exact ⟨_, after, rfl, rfl, hafter⟩
      | ok found =>
          cases found with
          | some agent => exact ⟨_, after, rfl, rfl, hafter⟩
          | none => exact h.place batch name after hafter

end Environment

namespace Rehearsal

/-- The store of a rehearsal, in which no call is to fail. -/
def view : StoreView Rehearsal where
  store := Rehearsal.store
  works := fun world => world.storeCalls.faults = []

theorem mirrors_callStore {α : Type} (call : String) (op : Store → Except StoreError α × Store) :
    view.Mirrors (callStore call op) op := by
  intro world hworks
  have hfaults : world.storeCalls.faults = [] := hworks
  have hcount : (world.storeCalls.count call).1 = none := by
    simp [CallSchedule.count, hfaults, Keyed.find?]
  refine ⟨(op world.store).1, { world with
    storeCalls := (world.storeCalls.count call).2
    store := (op world.store).2 }, ?_, rfl, hfaults⟩
  simp only [callStore, hcount]

theorem revokeIf_view (condition : Bool) (world : Rehearsal) :
    view.store (revokeIf condition world) = view.store world ∧
      (view.works world → view.works (revokeIf condition world)) := by
  unfold revokeIf
  split
  · exact ⟨rfl, id⟩
  · exact ⟨rfl, id⟩

theorem inMemory (space : String) (folder : Folder) (script : Script) :
    (environment space folder script).InMemory space view where
  space_eq := rfl
  putAgent := fun key agent => mirrors_callStore "put_agent" (Store.putAgent key agent)
  getAgent := fun key => mirrors_callStore "get_agent" (Store.getAgent key)
  listAgents := mirrors_callStore "list_all_agents" Store.listAgents
  putGuild := fun id guild => mirrors_callStore "put_guild" (Store.putGuild id guild)
  getGuild := fun id => mirrors_callStore "get_guild" (Store.getGuild id)
  updateGuild := fun id change => mirrors_callStore "update_guild" (Store.updateGuild id change)
  report := by
    intro event world hworks
    simp only [environment, report]
    split
    · exact ⟨rfl, hworks⟩
    · have hrevoke := revokeIf_view (script.revokeOnEvent = some (world.events.length + 1))
        { world with events := world.events ++ [event] }
      exact ⟨hrevoke.1, hrevoke.2 hworks⟩
  check := fun _ hworks => ⟨rfl, hworks⟩

def quiet : Environment Rehearsal :=
  environment Store.defaultSpace [] {
    revokeOnEvent := none
    revokingExecutions := []
    failingExecutions := []
    failingAgents := []
    failureText := ""
    scorer := .default
    silent := true }

theorem inMemory_quiet : quiet.InMemory Store.defaultSpace view := inMemory _ _ _

def onStore (store : Store) : Rehearsal :=
  { Rehearsal.empty with store }

theorem works_onStore (store : Store) : view.works (onStore store) := rfl

end Rehearsal

end QuestAcademy
