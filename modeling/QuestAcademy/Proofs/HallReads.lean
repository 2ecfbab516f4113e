import QuestAcademy.Mentors
import QuestAcademy.Proofs.HallView
import QuestAcademy.Training

namespace QuestAcademy

variable {ω : Type}

theorem StoreAccess.name_of_findByName {store : StoreAccess ω} {name : String} {world after : ω}
    {agent : Agent} (h : store.findByName name world = (.ok (some agent), after)) :
    agent.name = name := by
  unfold findByName at h
  split at h
  · cases h
  · simpa using List.find?_some (Except.ok.inj (congrArg Prod.fst h))

namespace Store

variable {store : Store}

theorem after_getAgent (store : Store) (key : String) : (store.getAgent key).2 = store := by
  unfold getAgent
  split
  · rfl
  · split <;> rfl

theorem after_listAgents (store : Store) : store.listAgents.2 = store := by
  unfold listAgents
  split <;> rfl

theorem after_putAgent {key : String} {agent : Agent} (hkey : instanceKey agent.name = key)
    (store : Store) : (store.putAgent key agent).2 = store.save agent := by
  unfold putAgent save
  rw [hkey]
  split <;> rfl

theorem find?_of_getAgent {key : String} {agent : Agent}
    (h : (store.getAgent key).1 = .ok agent) : store.agents.find? key = some agent := by
  unfold getAgent at h
  split at h
  · cases h
  · split at h
    · rename_i hfound
      cases h
      exact hfound
    · cases h

theorem toList_of_listAgents {agents : List Agent} (h : store.listAgents.1 = .ok agents) :
    agents = store.agents.toList := by
  unfold listAgents at h
  split at h
  · cases h
  · exact (Except.ok.inj h).symm

end Store

namespace HallView

variable {view : HallView ω} {world : ω} {α : Type} {call : ω → Except StoreError α × ω}
  {op : Store → Except StoreError α × Store}

theorem OnStore.hall_same (h : view.OnStore call op) (hop : ∀ store, (op store).2 = store)
    (world : ω) : view.hall (call world).2 = view.hall world := by
  obtain ⟨-, ⟨-, -, hkept⟩ | ⟨-, hafter⟩⟩ := h world
  · exact hkept
  · rw [hafter, hop]

theorem OnStore.op_of_ok (h : view.OnStore call op) {answer : α} {after : ω}
    (hcall : call world = (.ok answer, after)) : (op (view.hall world).store).1 = .ok answer := by
  obtain ⟨-, ⟨-, ⟨e, he⟩, -⟩ | ⟨hanswer, -⟩⟩ := h world
  · rw [hcall] at he
    cases he
  · rw [← hanswer, hcall]

end HallView

namespace Environment

variable {env : Environment ω} {view : HallView ω} {world : ω}

section Asking

variable (hosts : env.Hosts view)
include hosts

theorem Hosts.hall_check (world : ω) : view.hall (env.check world).2 = view.hall world :=
  (hosts.check world).1

theorem Hosts.hall_report (event : ProgressEvent) (world : ω) :
    view.hall (env.report event world) = view.hall world :=
  (hosts.report event world).1

theorem Hosts.hall_getAgent (key : String) (world : ω) :
    view.hall (env.store.getAgent key world).2 = view.hall world :=
  (hosts.getAgent key).hall_same (fun store => store.after_getAgent key) world

theorem Hosts.hall_listAgents (world : ω) :
    view.hall (env.store.listAgents world).2 = view.hall world :=
  hosts.listAgents.hall_same Store.after_listAgents world

theorem Hosts.hall_findByName (name : String) (world : ω) :
    view.hall (env.store.findByName name world).2 = view.hall world := by
  have hlisted := hosts.hall_listAgents world
  unfold StoreAccess.findByName
  split <;> rename_i heq <;> rw [heq] at hlisted <;> exact hlisted

theorem Hosts.hall_find (excluded : List String) (world : ω) :
    view.hall (Mentors.find env.store excluded world).2 = view.hall world := by
  have hlisted := hosts.hall_listAgents world
  unfold Mentors.find
  split <;> rename_i heq <;> rw [heq] at hlisted <;> exact hlisted

theorem Hosts.hall_refresh (trainee : Trainee) (world : ω) :
    view.hall (Training.refresh env.store trainee world).2 = view.hall world := by
  have hread := hosts.hall_getAgent trainee.key world
  unfold Training.refresh
  split <;> rename_i heq <;> rw [heq] at hread <;> exact hread

end Asking

section Answers

variable (hosts : env.Hosts view)
include hosts

theorem Hosts.stored_of_getAgent {key : String} {agent : Agent} {after : ω}
    (hget : env.store.getAgent key world = (.ok agent, after)) :
    (view.hall world).store.agents.find? key = some agent :=
  Store.find?_of_getAgent ((hosts.getAgent key).op_of_ok hget)

theorem Hosts.listed_of_listAgents {agents : List Agent} {after : ω}
    (hlist : env.store.listAgents world = (.ok agents, after)) :
    agents = (view.hall world).store.agents.toList :=
  Store.toList_of_listAgents (hosts.listAgents.op_of_ok hlist)

theorem Hosts.stored_of_findByName {name : String} {agent : Agent} {after : ω}
    (hfind : env.store.findByName name world = (.ok (some agent), after)) :
    ∃ key, (view.hall world).store.agents.find? key = some agent := by
  unfold StoreAccess.findByName at hfind
  split at hfind
  · cases hfind
  · rename_i agents listed hlist
    rw [hosts.listed_of_listAgents hlist] at hfind
    exact AgentTable.exists_find?_of_mem
      (List.mem_of_find?_eq_some (Except.ok.inj (congrArg Prod.fst hfind)))

end Answers

end Environment

end QuestAcademy
