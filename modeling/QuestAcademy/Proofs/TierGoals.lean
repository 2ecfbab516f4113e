import Mathlib.Algebra.GroupWithZero.Nat
import QuestAcademy.Plan.Targets

namespace QuestAcademy.LevelTargets

def countOf (targets : LevelTargets) (tier : Tier) : Nat :=
  (targets.tierCounts tier).getD 0

def countAbove (targets : LevelTargets) (tier : Tier) : Nat :=
  ((Tier.descending.filter fun other => tier.rank < other.rank).map targets.countOf).sum

/-- The goals that some tiers ask for, whatever the number of trainees. -/
def wanted (targets : LevelTargets) (tiers : List Tier) : List Nat :=
  tiers.flatMap fun tier => List.replicate (targets.countOf tier) (targets.tierGoal tier)

section Filling

/-- Adds a goal so many times, one by one, and stops when every trainee has a goal. -/
def addGoals (agents goal : Nat) : Nat → List Nat → List Nat
  | 0, goals => goals
  | count + 1, goals =>
    if goals.length = agents then goals else addGoals agents goal count (goals ++ [goal])

/-- Gives each trainee one of the goals. Goals beyond the number of trainees are dropped, and
trainees beyond the number of goals get the same one. -/
def resize (agents goal : Nat) (goals : List Nat) : List Nat :=
  goals.take agents ++ List.replicate (agents - goals.length) goal

variable (targets : LevelTargets) (agents : Nat)

theorem addGoals_take (goal count : Nat) (before : List Nat) :
    addGoals agents goal count (before.take agents) =
      (before ++ List.replicate count goal).take agents := by
  induction count generalizing before with
  | zero => simp [addGoals]
  | succ count ih =>
      rw [addGoals, List.length_take]
      split
      · rename_i hfull
        rw [List.take_append_of_le_length (by omega)]
      · rename_i hopen
        have hall : before.take agents ++ [goal] = (before ++ [goal]).take agents := by
          rw [List.take_of_length_le (by omega), List.take_of_length_le]
          rw [List.length_append, List.length_singleton]
          omega
        rw [hall, ih, List.append_assoc]
        rfl

theorem take_append_replicate (goal count : Nat) (before : List Nat) :
    before.take agents ++
        List.replicate (min count (agents - (before.take agents).length)) goal =
      (before ++ List.replicate count goal).take agents := by
  rw [List.take_append, List.take_replicate, List.length_take]
  congr 2
  omega

/-- If each tier adds its goals as long as there are trainees without one, the goals are the first
so many of those that are wanted. -/
theorem foldl_eq_take (add : List Nat → Tier → List Nat)
    (hadd : ∀ before tier, add (before.take agents) tier =
      (before ++ List.replicate (targets.countOf tier) (targets.tierGoal tier)).take agents)
    (tiers : List Tier) (before : List Nat) :
    tiers.foldl add (before.take agents) = (before ++ targets.wanted tiers).take agents := by
  induction tiers generalizing before with
  | nil => simp [wanted]
  | cons tier rest ih =>
      rw [List.foldl_cons, hadd, ih, List.append_assoc]
      rfl

theorem resize_take (goal : Nat) (goals : List Nat) {more : Nat} (hmore : agents ≤ more) :
    resize agents goal (goals.take agents) =
      (goals ++ List.replicate more goal).take agents := by
  rw [resize, List.take_take, Nat.min_self, List.take_append, List.take_replicate,
    List.length_take]
  congr 2
  omega

theorem tierGoals_eq {more : Nat} (hmore : agents ≤ more) :
    targets.tierGoals agents = (targets.wanted Tier.descending ++
      List.replicate more targets.convergenceLevel).take agents := by
  have hassigned := targets.foldl_eq_take agents
    (fun goals tier => goals ++ List.replicate
      (min (targets.countOf tier) (agents - goals.length)) (targets.tierGoal tier))
    (fun before tier => take_append_replicate agents _ _ before) Tier.descending []
  rw [List.take_nil, List.nil_append] at hassigned
  calc targets.tierGoals agents
      = (targets.wanted Tier.descending).take agents ++ List.replicate
          (agents - ((targets.wanted Tier.descending).take agents).length)
          targets.convergenceLevel := by
        rw [← hassigned]
        rfl
    _ = resize agents targets.convergenceLevel
          ((targets.wanted Tier.descending).take agents) := by
        rw [resize, List.take_take, Nat.min_self]
    _ = _ := resize_take agents _ _ hmore

/-- Everybody has one goal, however many the tiers are meant to have. -/
theorem length_tierGoals : (targets.tierGoals agents).length = agents := by
  rw [targets.tierGoals_eq agents (Nat.le_refl _), List.length_take, List.length_append,
    List.length_replicate]
  omega

theorem tierGoals_eq_resize :
    targets.tierGoals agents = resize agents targets.convergenceLevel
      (Tier.descending.foldl (fun goals tier =>
        addGoals agents (targets.tierGoal tier) (targets.countOf tier) goals) []) := by
  have hadded := targets.foldl_eq_take agents
    (fun goals tier => addGoals agents (targets.tierGoal tier) (targets.countOf tier) goals)
    (fun before tier => addGoals_take agents _ _ before) Tier.descending []
  rw [List.take_nil, List.nil_append] at hadded
  rw [hadded, resize_take agents _ _ (Nat.le_refl _), targets.tierGoals_eq agents (Nat.le_refl _)]

end Filling

section Places

variable (targets : LevelTargets)

theorem length_wanted (tiers : List Tier) :
    (targets.wanted tiers).length = (tiers.map targets.countOf).sum := by
  simp [wanted, List.length_flatMap]

theorem length_wanted_descending :
    (targets.wanted Tier.descending).length = targets.assigned := by
  simp only [length_wanted, Tier.descending, assigned, Tier.ascending, countOf, List.map_cons,
    List.map_nil, List.sum_cons, List.sum_nil, List.foldl_cons, List.foldl_nil]
  omega

theorem exists_descending_eq (tier : Tier) : ∃ lower, Tier.descending =
    (Tier.descending.filter fun other => tier.rank < other.rank) ++ tier :: lower := by
  cases tier <;> exact ⟨_, rfl⟩

theorem getElem?_wanted {tier : Tier} {place : Nat} (hfirst : targets.countAbove tier ≤ place)
    (hlast : place < targets.countAbove tier + targets.countOf tier) :
    (targets.wanted Tier.descending)[place]? = some (targets.tierGoal tier) := by
  obtain ⟨lower, hlower⟩ := exists_descending_eq tier
  have habove : (targets.wanted (Tier.descending.filter fun other =>
      tier.rank < other.rank)).length = targets.countAbove tier := targets.length_wanted _
  rw [hlower, wanted, List.flatMap_append, List.flatMap_cons]
  rw [wanted] at habove
  rw [List.getElem?_append_right (by omega), habove,
    List.getElem?_append_left (by rw [List.length_replicate]; omega),
    List.getElem?_replicate_of_lt (by omega)]

end Places

section Bounds

variable (targets : LevelTargets)

theorem convergenceLevel_le_tierGoal (tier : Tier) :
    targets.convergenceLevel ≤ targets.tierGoal tier := by
  unfold convergenceLevel tierGoal
  omega

theorem tierGoal_le_cap (tier : Tier) : targets.tierGoal tier ≤ targets.cap :=
  Nat.min_le_right _ _

theorem tierGoal_mono {tier other : Tier} (h : tier.rank ≤ other.rank) :
    targets.tierGoal tier ≤ targets.tierGoal other := by
  have hfloors : tier.minLevel ≤ other.minLevel := by
    revert h
    cases tier <;> cases other <;> decide
  unfold tierGoal
  omega

theorem pairwise_wanted : (targets.wanted Tier.descending).Pairwise (· ≥ ·) := by
  apply List.pairwise_flatMap.mpr
  constructor
  · intro tier _
    exact List.pairwise_replicate.mpr (.inr (Nat.le_refl _))
  · have hranks : Tier.descending.Pairwise fun tier other => other.rank ≤ tier.rank := by decide
    apply hranks.imp
    rintro tier other hrank goal hgoal lower hlower
    rw [List.eq_of_mem_replicate hgoal, List.eq_of_mem_replicate hlower]
    exact targets.tierGoal_mono hrank

theorem exists_of_mem_wanted {tiers : List Tier} {goal : Nat} (h : goal ∈ targets.wanted tiers) :
    ∃ tier, goal = targets.tierGoal tier := by
  obtain ⟨tier, -, hgoal⟩ := List.mem_flatMap.mp h
  exact ⟨tier, List.eq_of_mem_replicate hgoal⟩

end Bounds

/-- What is true of the goals of so many trainees. -/
structure Planned (targets : LevelTargets) (agents : Nat) (goals : List Nat) : Prop where
  length : goals.length = agents
  falling : goals.Pairwise (· ≥ ·)
  within : ∀ goal ∈ goals, targets.convergenceLevel ≤ goal ∧ goal ≤ targets.cap
  tier : ∀ tier place, targets.countAbove tier ≤ place →
    place < targets.countAbove tier + targets.countOf tier → place < agents →
    goals[place]? = some (min (max tier.minLevel targets.minLevel) targets.cap)
  rest : ∀ place, targets.assigned ≤ place → place < agents →
    goals[place]? = some targets.convergenceLevel
  stable : ∀ more, agents ≤ more → goals <+: targets.tierGoals more
  /-- The goals are found tier by tier and one by one. -/
  filled : goals = resize agents targets.convergenceLevel
    (Tier.descending.foldl (fun goals tier =>
      addGoals agents (targets.tierGoal tier) (targets.countOf tier) goals) [])

/-- Trainees have goals from the highest tier down as far as they go, and more of them only add
goals at the end. -/
theorem tierGoals_planned (targets : LevelTargets) (agents : Nat) :
    targets.Planned agents (targets.tierGoals agents) := by
  have hgoals := targets.tierGoals_eq agents (Nat.le_refl _)
  refine ⟨targets.length_tierGoals agents, ?_, ?_, ?_, ?_, ?_, targets.tierGoals_eq_resize agents⟩
  · rw [hgoals]
    apply List.Pairwise.take
    apply List.pairwise_append.mpr
    refine ⟨targets.pairwise_wanted, List.pairwise_replicate.mpr (.inr (Nat.le_refl _)), ?_⟩
    intro goal hgoal level hlevel
    obtain ⟨tier, rfl⟩ := targets.exists_of_mem_wanted hgoal
    rw [List.eq_of_mem_replicate hlevel]
    exact targets.convergenceLevel_le_tierGoal tier
  · intro goal hgoal
    rw [hgoals] at hgoal
    rcases List.mem_append.mp (List.mem_of_mem_take hgoal) with hwanted | hrest
    · obtain ⟨tier, rfl⟩ := targets.exists_of_mem_wanted hwanted
      exact ⟨targets.convergenceLevel_le_tierGoal tier, targets.tierGoal_le_cap tier⟩
    · rw [List.eq_of_mem_replicate hrest]
      exact ⟨Nat.le_refl _, Nat.min_le_right _ _⟩
  · intro tier place hfirst hlast hplace
    have hwanted := targets.getElem?_wanted hfirst hlast
    rw [hgoals, List.getElem?_take_of_lt hplace,
      List.getElem?_append_left (List.getElem?_eq_some_iff.mp hwanted).1, hwanted]
    rfl
  · intro place hassigned hplace
    rw [← targets.length_wanted_descending] at hassigned
    rw [hgoals, List.getElem?_take_of_lt hplace, List.getElem?_append_right hassigned,
      List.getElem?_replicate_of_lt (by omega)]
  · intro more hmore
    rw [targets.tierGoals_eq agents hmore, targets.tierGoals_eq more (Nat.le_refl _)]
    exact List.take_prefix_take_left hmore

/-- Journeyman and expert goals come before the others. -/
example : LevelTargets.tierGoals
    { minLevel := 3
      maxLevel := none
      tierCounts := fun tier => if tier = .journeyman ∨ tier = .expert then some 1 else none } 4 =
    [11, 6, 3, 3] := by decide

end QuestAcademy.LevelTargets
