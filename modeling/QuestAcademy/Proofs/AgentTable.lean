import Mathlib.Data.String.Basic
import QuestAcademy.Store

namespace QuestAcademy

namespace Keyed

variable {α : Type}

theorem mem_keys_iff (key : String) (entries : List (String × α)) :
    key ∈ entries.map Prod.fst ↔ (find? key entries).isSome = true := by
  induction entries with
  | nil => simp [find?]
  | cons entry rest ih =>
      obtain ⟨k, v⟩ := entry
      by_cases hk : key = k
      · simp [find?, hk]
      · simp only [List.map_cons, List.mem_cons, hk, false_or, find?, if_false]
        exact ih

theorem mem_keys_insert (key other : String) (value : α) (entries : List (String × α)) :
    other ∈ (insert key value entries).map Prod.fst ↔
      other = key ∨ other ∈ entries.map Prod.fst := by
  rw [mem_keys_iff, mem_keys_iff, find?_insert]
  by_cases ho : other = key <;> simp [ho]

theorem ordered_insert {entries : List (String × α)} (key : String) (value : α)
    (h : Ordered entries) : Ordered (insert key value entries) := by
  induction entries with
  | nil => simp [Ordered, insert]
  | cons entry rest ih =>
      obtain ⟨k, v⟩ := entry
      obtain ⟨hfirst, hrest⟩ := List.pairwise_cons.mp h
      rw [insert]
      split
      · rename_i hk
        exact List.pairwise_cons.mpr ⟨hk ▸ hfirst, hrest⟩
      · rename_i hk
        split
        · rename_i hlt
          refine List.pairwise_cons.mpr ⟨?_, h⟩
          intro other hother
          rcases List.mem_cons.mp hother with rfl | hmem
          · exact hlt
          · exact lt_trans hlt (hfirst other hmem)
        · rename_i hlt
          have hkey : k < key := lt_of_le_of_ne (not_lt.mp hlt) (Ne.symm hk)
          refine List.pairwise_cons.mpr ⟨?_, ih hrest⟩
          intro other hother
          rcases (mem_keys_insert key other value rest).mp hother with rfl | hmem
          · exact hkey
          · exact hfirst other hmem

theorem length_insert {entries : List (String × α)} (key : String) (value : α)
    (h : Ordered entries) :
    (insert key value entries).length =
      if (find? key entries).isSome then entries.length else entries.length + 1 := by
  induction entries with
  | nil => rfl
  | cons entry rest ih =>
      obtain ⟨k, v⟩ := entry
      obtain ⟨hfirst, hrest⟩ := List.pairwise_cons.mp h
      rw [insert, find?]
      by_cases hk : key = k
      · simp [hk]
      · by_cases hlt : key < k
        · have habsent : find? key rest = none := by
            rw [← Option.not_isSome_iff_eq_none, ← mem_keys_iff]
            intro hmem
            exact lt_asymm hlt (hfirst key hmem)
          simp [hk, hlt, habsent]
        · simp only [hk, hlt, if_false, List.length_cons, ih hrest]
          split <;> rfl

theorem find?_eq_none_of_lt {key : String} {entries : List (String × α)}
    (h : ∀ other ∈ entries.map Prod.fst, key < other) : find? key entries = none := by
  rw [← Option.not_isSome_iff_eq_none, ← mem_keys_iff]
  intro hmem
  exact lt_irrefl key (h key hmem)

theorem Ordered.ext {entries others : List (String × α)} (h : Ordered entries)
    (hothers : Ordered others) (hsame : ∀ key, find? key entries = find? key others) :
    entries = others := by
  induction entries generalizing others with
  | nil =>
      cases others with
      | nil => rfl
      | cons other rest => simpa [find?] using hsame other.1
  | cons entry rest ih =>
      obtain ⟨key, value⟩ := entry
      cases others with
      | nil => simpa [find?] using hsame key
      | cons other others =>
          obtain ⟨otherKey, otherValue⟩ := other
          obtain ⟨hbelow, hrest⟩ := List.pairwise_cons.mp h
          obtain ⟨hotherBelow, hothersRest⟩ := List.pairwise_cons.mp hothers
          have hkey : key = otherKey := by
            rcases lt_trichotomy key otherKey with hlt | heq | hgt
            · have hnone := find?_eq_none_of_lt fun later hlater =>
                hlt.trans (hotherBelow later hlater)
              simpa [find?, hlt.ne, hnone] using hsame key
            · exact heq
            · have hnone := find?_eq_none_of_lt fun later hlater =>
                hgt.trans (hbelow later hlater)
              simpa [find?, hgt.ne, hnone] using hsame otherKey
          subst hkey
          have hvalue : value = otherValue := by simpa [find?] using hsame key
          rw [hvalue, ih hrest hothersRest]
          intro other
          by_cases hother : other = key
          · rw [hother, find?_eq_none_of_lt hbelow, find?_eq_none_of_lt hotherBelow]
          · simpa [find?, hother] using hsame other

end Keyed

namespace AgentTable

/-- The order index and the map are in step: the order holds every key of the map once, under
increasing numbers that are all below the next one. -/
structure Sound (table : AgentTable) : Prop where
  ordered : Keyed.Ordered table.byKey
  indexed : ∀ key, key ∈ table.order.map Prod.snd ↔ (table.find? key).isSome = true
  distinct : (table.order.map Prod.snd).Nodup
  increasing : (table.order.map Prod.fst).Pairwise (· < ·)
  below : ∀ entry ∈ table.order, entry.1 < table.next

theorem sound_empty : empty.Sound where
  ordered := List.Pairwise.nil
  indexed := by simp [empty, find?, Keyed.find?]
  distinct := List.nodup_nil
  increasing := List.Pairwise.nil
  below := by simp [empty]

@[simp] theorem find?_empty (key : String) : empty.find? key = none := rfl

theorem byKey_put (table : AgentTable) (key : String) (agent : Agent) :
    (table.put key agent).byKey = Keyed.insert key agent table.byKey := by
  unfold put
  split <;> rfl

theorem find?_put (table : AgentTable) (key other : String) (agent : Agent) :
    (table.put key agent).find? other =
      if other = key then some agent else table.find? other := by
  rw [find?, byKey_put]
  exact Keyed.find?_insert key other agent table.byKey

theorem put_of_some {table : AgentTable} {key : String} {old : Agent} (agent : Agent)
    (h : table.find? key = some old) :
    table.put key agent = { table with byKey := Keyed.insert key agent table.byKey } := by
  simp only [put, h]

theorem put_of_none {table : AgentTable} {key : String} (agent : Agent)
    (h : table.find? key = none) :
    table.put key agent =
      { byKey := Keyed.insert key agent table.byKey
        order := table.order ++ [(table.next, key)]
        next := table.next + 1 } := by
  simp only [put, h]

theorem Sound.put {table : AgentTable} (h : table.Sound) (key : String) (agent : Agent) :
    (table.put key agent).Sound := by
  have hfind := fun other => find?_put table key other agent
  cases hkey : table.find? key with
  | some old =>
      rw [put_of_some agent hkey] at hfind ⊢
      refine ⟨Keyed.ordered_insert key agent h.ordered, ?_, h.distinct, h.increasing, h.below⟩
      intro other
      rw [hfind, h.indexed]
      by_cases ho : other = key
      · simp [ho, hkey]
      · simp [ho]
  | none =>
      rw [put_of_none agent hkey] at hfind ⊢
      have hnew : key ∉ table.order.map Prod.snd := by simp [h.indexed, hkey]
      refine ⟨Keyed.ordered_insert key agent h.ordered, ?_, ?_, ?_, ?_⟩
      · intro other
        rw [hfind, List.map_append, List.mem_append, h.indexed]
        by_cases ho : other = key
        · simp [ho]
        · simp [ho]
      · rw [List.map_append]
        refine List.nodup_append.mpr ⟨h.distinct, List.pairwise_singleton _ _, ?_⟩
        rintro other hother _ (_ | ⟨_, ⟨⟩⟩) rfl
        exact hnew hother
      · rw [List.map_append]
        refine List.pairwise_append.mpr ⟨h.increasing, List.pairwise_singleton _ _, ?_⟩
        rintro number hnumber _ (_ | ⟨_, ⟨⟩⟩)
        obtain ⟨entry, hentry, rfl⟩ := List.mem_map.mp hnumber
        exact h.below entry hentry
      · intro entry hentry
        rcases List.mem_append.mp hentry with hold | hlast
        · exact Nat.lt_succ_of_lt (h.below entry hold)
        · rw [List.mem_singleton.mp hlast]
          exact Nat.lt_succ_self table.next

theorem exists_find?_of_mem {table : AgentTable} {agent : Agent} (h : agent ∈ table.toList) :
    ∃ key, table.find? key = some agent := by
  rw [toList, List.mem_filterMap] at h
  obtain ⟨entry, -, hentry⟩ := h
  exact ⟨entry.2, hentry⟩

theorem mem_toList_iff {table : AgentTable} (h : table.Sound) (agent : Agent) :
    agent ∈ table.toList ↔ ∃ key, table.find? key = some agent := by
  refine ⟨exists_find?_of_mem, ?_⟩
  rintro ⟨key, hkey⟩
  have hlisted : key ∈ table.order.map Prod.snd := (h.indexed key).mpr (by simp [hkey])
  obtain ⟨entry, hentry, rfl⟩ := List.mem_map.mp hlisted
  rw [toList, List.mem_filterMap]
  exact ⟨entry, hentry, hkey⟩

/-- What only one key can hold is found in the list exactly when that key holds it. -/
theorem find?_toList {table : AgentTable} (h : table.Sound) {key : String} {p : Agent → Bool}
    (hp : ∀ other agent, table.find? other = some agent → p agent = true → other = key) :
    table.toList.find? p = (table.find? key).filter p := by
  cases hkey : (table.find? key).filter p with
  | some agent =>
      obtain ⟨hfound, hagent⟩ := Option.filter_eq_some_iff.mp hkey
      have hmem : agent ∈ table.toList := (mem_toList_iff h agent).mpr ⟨key, hfound⟩
      obtain ⟨first, hfirst⟩ := Option.isSome_iff_exists.mp
        (List.find?_isSome.mpr ⟨agent, hmem, hagent⟩)
      obtain ⟨other, hother⟩ := (mem_toList_iff h first).mp (List.mem_of_find?_eq_some hfirst)
      have hkeys := hp other first hother (List.find?_some hfirst)
      rw [hkeys, hfound] at hother
      rw [hfirst, hother]
  | none =>
      rw [List.find?_eq_none]
      intro agent hmem hagent
      obtain ⟨other, hother⟩ := (mem_toList_iff h agent).mp hmem
      have hkeys := hp other agent hother hagent
      rw [hkeys] at hother
      rw [Option.filter_eq_none_iff] at hkey
      exact hkey agent hother hagent

theorem size_put {table : AgentTable} (h : table.Sound) (key : String) (agent : Agent) :
    (table.put key agent).size =
      if (table.find? key).isSome then table.size else table.size + 1 := by
  rw [size, byKey_put]
  exact Keyed.length_insert key agent h.ordered

end AgentTable

end QuestAcademy
