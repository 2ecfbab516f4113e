import Mathlib.Data.List.Induction
import Mathlib.Data.List.Nodup
import QuestAcademy.Proofs.AgentTable

namespace QuestAcademy

namespace Names

theorem eraseDups_concat (names : List String) (name : String) :
    (names ++ [name]).eraseDups =
      if name ∈ names then names.eraseDups else names.eraseDups ++ [name] := by
  rw [List.eraseDups_append]
  by_cases hname : name ∈ names
  · simp [List.removeAll, hname]
  · simp [List.removeAll, hname, List.eraseDups_cons]

theorem nodup_eraseDups (names : List String) : names.eraseDups.Nodup := by
  induction names using List.reverseRecOn with
  | nil => exact List.nodup_nil
  | append_singleton names name ih =>
      rw [eraseDups_concat]
      split
      · exact ih
      · rename_i hnew
        refine List.nodup_append.mpr ⟨ih, List.pairwise_singleton _ _, ?_⟩
        rintro other hother _ (_ | ⟨_, ⟨⟩⟩) rfl
        exact hnew (List.mem_eraseDups.mp hother)

end Names

/-- Something that happens to a store: an agent is put under a key, or from now on writes fail or do
not fail. -/
inductive StoreEvent
  | put (key : String) (agent : Agent)
  | failWrites (failing : Bool)

/-- Entries that were written one after the other. -/
abbrev Writes := List (String × Agent)

namespace Writes

def keys (writes : Writes) : List String :=
  (writes.map Prod.fst).eraseDups

def latest? (writes : Writes) (key : String) : Option Agent :=
  (writes.filter fun entry => entry.1 = key).getLast?.map Prod.snd

def agents (writes : Writes) : List Agent :=
  writes.keys.filterMap writes.latest?

theorem nodup_keys (writes : Writes) : writes.keys.Nodup := Names.nodup_eraseDups _

theorem keys_concat (writes : Writes) (key : String) (agent : Agent) :
    Writes.keys (writes ++ [(key, agent)]) =
      if key ∈ writes.keys then writes.keys else writes.keys ++ [key] := by
  simp only [keys, List.map_append, List.map_cons, List.map_nil, Names.eraseDups_concat,
    List.mem_eraseDups]

theorem latest?_concat (writes : Writes) (key other : String) (agent : Agent) :
    Writes.latest? (writes ++ [(key, agent)]) other =
      if other = key then some agent else writes.latest? other := by
  by_cases hkey : other = key
  · simp [latest?, hkey]
  · simp [latest?, Ne.symm hkey, hkey]

theorem mem_keys_iff (writes : Writes) (key : String) :
    key ∈ writes.keys ↔ (writes.latest? key).isSome = true := by
  induction writes using List.reverseRecOn with
  | nil => simp [keys, latest?]
  | append_singleton writes entry ih =>
      obtain ⟨written, agent⟩ := entry
      rw [keys_concat, latest?_concat]
      by_cases hkey : key = written
      · subst hkey
        split <;> simp_all
      · rw [if_neg hkey, ← ih]
        split
        · exact Iff.rfl
        · simp [hkey]

theorem map_some_agents (writes : Writes) :
    writes.agents.map some = writes.keys.map writes.latest? := by
  rw [agents, List.map_filterMap_some_eq_filter_map_isSome, List.filter_eq_self]
  intro latest hlatest
  obtain ⟨key, hkey, rfl⟩ := List.mem_map.mp hlatest
  exact (mem_keys_iff writes key).mp hkey

end Writes

namespace AgentTable

/-- The table is what some writes made of an empty one. -/
structure Holds (writes : Writes) (table : AgentTable) : Prop where
  sound : table.Sound
  order : table.order.map Prod.snd = writes.keys
  find? : ∀ key, table.find? key = writes.latest? key

variable {writes : Writes} {table : AgentTable}

theorem holds_empty : empty.Holds [] := ⟨sound_empty, rfl, fun _ => rfl⟩

theorem Holds.put (h : table.Holds writes) (key : String) (agent : Agent) :
    (table.put key agent).Holds (writes ++ [(key, agent)]) where
  sound := h.sound.put key agent
  order := by
    -- A key that is stored keeps its number, and the index grows by new keys only.
    rw [Writes.keys_concat, ← h.order]
    have hindexed := h.sound.indexed key
    cases hkey : table.find? key with
    | some old => rw [put_of_some agent hkey, if_pos (hindexed.mpr (by simp [hkey]))]
    | none =>
        have hnew : key ∉ table.order.map Prod.snd := fun hmem => by
          simpa [hkey] using hindexed.mp hmem
        rw [put_of_none agent hkey, if_neg hnew, List.map_append]
        rfl
  find? := by
    intro other
    rw [find?_put, Writes.latest?_concat, h.find?]

theorem Holds.toList_eq (h : table.Holds writes) : table.toList = writes.agents := by
  rw [toList, Writes.agents, ← h.order, List.filterMap_map]
  exact List.filterMap_congr fun entry _ => h.find? entry.2

end AgentTable

namespace Store

def next (store : Store) : StoreEvent → Store
  | .put key agent => (store.putAgent key agent).2
  | .failWrites failing => { store with writesDisabled := failing }

def written? (store : Store) : StoreEvent → Option (String × Agent)
  | .put key agent => (store.putAgent key agent).1.toOption.map fun _ => (key, agent)
  | .failWrites _ => none

def after (store : Store) (events : List StoreEvent) : Store :=
  events.foldl next store

def writes (store : Store) : List StoreEvent → Writes
  | [] => []
  | event :: rest => (store.written? event).toList ++ (store.next event).writes rest

theorem putAgent_cases (store : Store) (key : String) (agent : Agent) :
    (store.writesDisabled = true ∧
        store.putAgent key agent = (.error (.writesDisabled key), store)) ∨
      store.putAgent key agent = (.ok (), { store with agents := store.agents.put key agent }) := by
  unfold putAgent
  split
  · exact .inl ⟨‹_›, rfl⟩
  · exact .inr rfl

theorem readsDisabled_next (store : Store) (event : StoreEvent) :
    (store.next event).readsDisabled = store.readsDisabled := by
  cases event with
  | put key agent =>
      rcases store.putAgent_cases key agent with ⟨-, hput⟩ | hput <;> simp only [next, hput]
  | failWrites failing => rfl

theorem holds_next {store : Store} {writes : Writes} (h : store.agents.Holds writes)
    (event : StoreEvent) :
    (store.next event).agents.Holds (writes ++ (store.written? event).toList) := by
  cases event with
  | put key agent =>
      rcases store.putAgent_cases key agent with ⟨-, hput⟩ | hput
      · simpa only [next, written?, hput, Except.toOption, Option.map_none, Option.toList_none,
          List.append_nil] using h
      · simpa only [next, written?, hput, Except.toOption, Option.map_some,
          Option.toList_some] using h.put key agent
  | failWrites failing => simpa only [next, written?, Option.toList_none, List.append_nil] using h

theorem holds_after (store : Store) {earlier : Writes} (h : store.agents.Holds earlier)
    (events : List StoreEvent) :
    (store.after events).agents.Holds (earlier ++ store.writes events) ∧
      (store.after events).readsDisabled = store.readsDisabled := by
  induction events generalizing store earlier with
  | nil => exact ⟨by simpa [after, writes] using h, rfl⟩
  | cons event rest ih =>
      obtain ⟨hholds, hreads⟩ := ih (store.next event) (holds_next h event)
      rw [List.append_assoc] at hholds
      exact ⟨hholds, hreads.trans (store.readsDisabled_next event)⟩

/-- Index and map of a store are in step, and what is read of its agents is what a map with an order
would tell that went through the same writes. -/
structure Ordered (space : String) (writes : Writes) (store : Store) : Prop where
  numbered : ∀ key, (store.agents.find? key).isSome = true ↔
    ∃! number, (number, key) ∈ store.agents.order
  below : ∀ entry ∈ store.agents.order, entry.1 < store.agents.next
  increasing : (store.agents.order.map Prod.fst).Pairwise (· < ·)
  pointed : ∀ entry ∈ store.agents.order, (store.agents.find? entry.2).isSome = true
  listed : store.listAgents = (.ok writes.agents, store)
  once : writes.keys.Nodup ∧ writes.agents.map some = writes.keys.map writes.latest?
  got : ∀ key, store.getAgent key =
    ((writes.latest? key).elim (.error (.noAgent key)) .ok, store)
  named : ∀ name, (access space).findByName name store =
    (.ok (writes.agents.find? fun agent => agent.name = name), store)
  identified : ∀ id, (access space).getById id store =
    ((writes.agents.find? fun agent => agent.id = id).elim (.error (.noAgentId id)) .ok, store)
  refused : ∀ key agent e, (store.putAgent key agent).1 = .error e →
    store.writesDisabled = true ∧ (store.putAgent key agent).2 = store

theorem exists_unique_number {table : AgentTable} (h : table.Sound) (key : String) :
    (table.find? key).isSome = true ↔ ∃! number, (number, key) ∈ table.order := by
  rw [← h.indexed key]
  constructor
  · intro hkey
    obtain ⟨⟨number, _⟩, hentry, rfl⟩ := List.mem_map.mp hkey
    refine ⟨number, hentry, ?_⟩
    intro other hother
    exact congrArg Prod.fst (List.inj_on_of_nodup_map h.distinct hother hentry rfl)
  · rintro ⟨number, hentry, -⟩
    exact List.mem_map.mpr ⟨_, hentry, rfl⟩

theorem ordered_of_holds (space : String) {store : Store} {writes : Writes}
    (h : store.agents.Holds writes) (hreads : store.readsDisabled = false) :
    store.Ordered space writes := by
  have hlisted : store.listAgents = (.ok writes.agents, store) := by
    simp only [listAgents, hreads, Bool.false_eq_true, if_false, h.toList_eq]
  refine {
    numbered := exists_unique_number h.sound
    below := h.sound.below
    increasing := h.sound.increasing
    pointed := fun entry hentry => (h.sound.indexed entry.2).mp (List.mem_map_of_mem hentry)
    listed := hlisted
    once := ⟨writes.nodup_keys, writes.map_some_agents⟩
    got := ?_
    named := ?_
    identified := ?_
    refused := ?_ }
  · intro key
    simp only [getAgent, hreads, Bool.false_eq_true, if_false, h.find?]
    cases writes.latest? key <;> rfl
  · intro name
    simp only [StoreAccess.findByName, access, hlisted]
  · intro id
    simp only [StoreAccess.getById, access, hlisted]
    cases writes.agents.find? fun agent => agent.id = id <;> rfl
  · intro key agent e herror
    rcases store.putAgent_cases key agent with ⟨hdisabled, hput⟩ | hput <;> rw [hput] at herror ⊢
    · exact ⟨hdisabled, rfl⟩
    · cases herror

/-- However puts, repeated keys and failing writes follow each other, the store is the map of the
writes that did not fail. -/
theorem ordered_after (space : String) (events : List StoreEvent) :
    (empty.after events).Ordered space (empty.writes events) := by
  obtain ⟨hholds, hreads⟩ := empty.holds_after AgentTable.holds_empty events
  exact ordered_of_holds space hholds hreads

end Store

end QuestAcademy
