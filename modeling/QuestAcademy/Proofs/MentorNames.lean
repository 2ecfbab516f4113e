import QuestAcademy.Mentors
import QuestAcademy.Proofs.TraineeNames
import QuestAcademy.Roster

namespace QuestAcademy.Mentors

/-- The largest number in a key of mentors among those of the names, or zero if there is none. -/
def topOrdinal (names : List String) : Nat :=
  ((names.filterMap ordinal?).max?).getD 0

def mentorName (ordinal : Nat) : String :=
  String.ofList (keyStart ++ Decimal.digits ordinal)

section Keys

theorem ordinal?_of_key {name other : String} (h : instanceKey name = instanceKey other) :
    ordinal? name = ordinal? other := by
  unfold ordinal?
  rw [h]

theorem instanceKey_mentorName (ordinal : Nat) :
    instanceKey (mentorName ordinal) = mentorName ordinal := by
  have hmentor : IsKey "mentor".toList :=
    ((instanceKey_eq_self_iff "mentor").mp (by decide +kernel)).resolve_left (by decide)
  apply (instanceKey_eq_self_iff _).mpr
  rw [mentorName, String.toList_ofList]
  exact .inr (hmentor.joined (isKey_digits ordinal))

theorem mentorName_injective : Function.Injective mentorName := by
  intro n m h
  have hlists := String.ofList_injective h
  exact Decimal.digits_injective (List.append_cancel_left hlists)

theorem ordinal?_mentorName {ordinal : Nat} (h : ordinal ≤ ordinalLimit) :
    ordinal? (mentorName ordinal) = some ordinal := by
  have hprefix : keyStart.isPrefixOf (keyStart ++ Decimal.digits ordinal) = true :=
    List.isPrefixOf_iff_prefix.mpr (List.prefix_append _ _)
  simp only [ordinal?, instanceKey_mentorName]
  rw [mentorName, String.toList_ofList, if_pos hprefix, List.drop_left, Decimal.value?_digits]
  simp [h]

theorem nameAt_roster (count first place : Nat) :
    ∀ batch ∈ (roster count first).batches,
      batch.nameAt place = mentorName (min ordinalLimit (first + place)) := by
  intro batch hbatch
  rw [List.mem_singleton.mp hbatch]
  have hfill : ∀ filling, AgentBatch.fill filling (keyStart ++ numberMark) =
      keyStart ++ filling := by
    intro filling
    simp [keyStart, numberMark, AgentBatch.fill]
  simp only [AgentBatch.nameAt, namePattern, String.toList_ofList, hfill]
  rfl

theorem guildId_of_mem_items {count first : Nat} :
    ∀ item ∈ (roster count first).items, item.1.guildId = none := by
  rintro ⟨batch, name⟩ hitem
  obtain ⟨other, hbatch, hname⟩ := List.mem_flatMap.mp hitem
  obtain ⟨same, -, hpair⟩ := List.mem_map.mp hname
  cases hpair
  rw [List.mem_singleton.mp hbatch]

end Keys

section Numbers

variable {taken : List String}

theorem le_topOrdinal {name : String} {n : Nat} (hname : name ∈ taken)
    (hn : ordinal? name = some n) : n ≤ topOrdinal taken := by
  have hmem : n ∈ taken.filterMap ordinal? := List.mem_filterMap.mpr ⟨name, hname, hn⟩
  unfold topOrdinal
  cases hmax : (taken.filterMap ordinal?).max? with
  | none =>
      rw [List.max?_eq_none_iff.mp hmax] at hmem
      cases hmem
  | some top => exact (List.max?_eq_some_iff.mp hmax).2 n hmem

theorem topOrdinal_le {names others : List String}
    (hsub : ∀ name ∈ names, ∃ other ∈ others, instanceKey other = instanceKey name) :
    topOrdinal names ≤ topOrdinal others := by
  have hunfold : topOrdinal names = ((names.filterMap ordinal?).max?).getD 0 := rfl
  cases hmax : (names.filterMap ordinal?).max? with
  | none =>
      rw [hunfold, hmax]
      exact Nat.zero_le _
  | some top =>
      rw [hunfold, hmax]
      obtain ⟨name, hname, htop⟩ := List.mem_filterMap.mp (List.max?_eq_some_iff.mp hmax).1
      obtain ⟨other, hother, hkey⟩ := hsub name hname
      exact le_topOrdinal hother ((ordinal?_of_key hkey).trans htop)

/-- The largest number depends on the keys alone. -/
theorem topOrdinal_congr {names others : List String}
    (hsub : ∀ name ∈ names, ∃ other ∈ others, instanceKey other = instanceKey name)
    (hsup : ∀ other ∈ others, ∃ name ∈ names, instanceKey name = instanceKey other) :
    topOrdinal names = topOrdinal others :=
  Nat.le_antisymm (topOrdinal_le hsub) (topOrdinal_le hsup)

theorem nextOrdinal_eq_min (taken : List String) :
    nextOrdinal taken = min ordinalLimit (topOrdinal taken + 1) := by
  unfold nextOrdinal topOrdinal
  split <;> rename_i hmax <;> rw [hmax] <;> rfl

theorem nextOrdinal_eq (h : topOrdinal taken < ordinalLimit) :
    nextOrdinal taken = topOrdinal taken + 1 := by
  rw [nextOrdinal_eq_min]
  omega

end Numbers

section Recruits

variable {space : String} {count first : Nat} {agent : Agent}

/-- The agents that a roster of new mentors stores. -/
def recruits (space : String) (count first : Nat) : List Agent :=
  (roster count first).items.map fun (batch, name) =>
    batch.build (entityId space (instanceKey name)) name

theorem exists_of_mem_recruits (h : agent ∈ recruits space count first) :
    ∃ place < count, agent.name = mentorName (min ordinalLimit (first + place)) ∧
      agent.id = entityId space (instanceKey agent.name) := by
  obtain ⟨⟨batch, name⟩, hitem, rfl⟩ := List.mem_map.mp h
  obtain ⟨other, hbatch, hname⟩ := List.mem_flatMap.mp hitem
  obtain ⟨same, hsame, hpair⟩ := List.mem_map.mp hname
  cases hpair
  obtain ⟨place, hplace, rfl⟩ := List.mem_map.mp hsame
  have hcount : batch.count = count := by
    rw [List.mem_singleton.mp hbatch]
  refine ⟨place, ?_, nameAt_roster count first place batch hbatch, rfl⟩
  rw [← hcount]
  exact List.mem_range.mp hplace

theorem key_recruit_ne (h : agent ∈ recruits space count first)
    (hroom : first + count ≤ ordinalLimit + 1) {name : String}
    (hname : ∀ n, ordinal? name = some n → n < first) :
    instanceKey agent.name ≠ instanceKey name := by
  obtain ⟨place, hplace, hagent, -⟩ := exists_of_mem_recruits h
  intro hkey
  have hmin : min ordinalLimit (first + place) = first + place := by omega
  have hordinal := ordinal?_mentorName (Nat.min_le_left ordinalLimit (first + place))
  rw [← hagent, ordinal?_of_key hkey, hmin] at hordinal
  have hsmall := hname _ hordinal
  omega

end Recruits

end QuestAcademy.Mentors
