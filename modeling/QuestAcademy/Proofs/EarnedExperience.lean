import Mathlib.Tactic.Ring
import QuestAcademy.Proofs.Progression

namespace QuestAcademy

namespace Level

/-- The experience that leads from the lowest level to a level. -/
def price (level : Nat) : Nat :=
  50 * level * (level - 1)

theorem price_succ {level : Nat} (hlow : lowest ≤ level) (hbelow : level < highest) :
    price (level + 1) = price level + experienceToNext level := by
  have hclamp : clamp level = level := by
    simp only [clamp, lowest, highest] at *
    omega
  obtain ⟨below, rfl⟩ : ∃ below, level = below + 1 := ⟨level - 1, by
    simp only [lowest] at hlow
    omega⟩
  rw [experienceToNext, hclamp, if_neg (Nat.not_le_of_lt hbelow)]
  simp only [price, Nat.add_sub_cancel]
  ring

theorem price_mono {level other : Nat} (h : level ≤ other) : price level ≤ price other :=
  Nat.mul_le_mul (Nat.mul_le_mul_left 50 h) (Nat.sub_le_sub_right h 1)

end Level

namespace Agent

/-- What an agent has earned since the lowest level. -/
def total (agent : Agent) : Nat :=
  Level.price agent.level + agent.experience

/-- No experience is lost when it is traded for levels. -/
theorem price_rollOver {level needed : Nat} (experience : Nat) (hlow : Level.lowest ≤ level)
    (hneeded : needed = Level.experienceToNext level) :
    Level.price (rollOver level experience needed).1 + (rollOver level experience needed).2.1 =
      Level.price level + experience := by
  induction level, experience, needed using rollOver.induct with
  | case1 level experience needed hpays ih =>
      have hrest := ih (Nat.le_succ_of_le hlow) rfl
      rw [Level.price_succ hlow hpays.1, ← hneeded] at hrest
      rw [rollOver, if_pos hpays, hrest]
      omega
  | case2 level experience needed hrests => rw [rollOver, if_neg hrests]

variable {agent : Agent}

theorem InStep.total_lt (h : agent.InStep) (hbelow : agent.level < Level.highest) :
    agent.total < Level.price (agent.level + 1) := by
  have hless := h.below hbelow
  rw [h.needed] at hless
  rw [total, Level.price_succ h.lowest hbelow]
  exact Nat.add_lt_add_left hless _

theorem InStep.total_le (h : agent.InStep) : agent.total ≤ Level.price Level.highest := by
  rcases Nat.lt_or_eq_of_le h.highest with hbelow | htop
  · exact Nat.le_trans (Nat.le_of_lt (h.total_lt hbelow)) (Level.price_mono hbelow)
  · rw [total, h.spent htop, htop, Nat.add_zero]

theorem InStep.le_level (h : agent.InStep) {level : Nat} (hlevel : level ≤ Level.highest)
    (hpaid : Level.price level ≤ agent.total) : level ≤ agent.level := by
  refine Nat.le_of_not_lt fun hbelow => ?_
  have hless := h.total_lt (Nat.lt_of_lt_of_le hbelow hlevel)
  exact absurd (Nat.le_trans (Level.price_mono hbelow) hpaid) (Nat.not_le_of_lt hless)

/-- A grant is earned in full, as far as there is anything to earn. -/
theorem InStep.total_grant (h : agent.InStep) (amount : Nat) :
    (agent.grant amount).total = min (Level.price Level.highest) (agent.total + amount) := by
  have hgranted := h.grant amount
  have hsum := price_rollOver (agent.experience + amount) h.lowest h.needed
  have hlevel : (agent.grant amount).level =
    (rollOver agent.level (agent.experience + amount) agent.experienceToNext).1 := rfl
  have hkept : (agent.grant amount).experience =
    if Level.highest ≤ (agent.grant amount).level then 0
    else (rollOver agent.level (agent.experience + amount) agent.experienceToNext).2.1 := rfl
  have hbefore : Level.price agent.level + (agent.experience + amount) = agent.total + amount :=
    (Nat.add_assoc _ _ _).symm
  rw [← hlevel, hbefore] at hsum
  rcases Nat.lt_or_eq_of_le hgranted.highest with hbelow | htop
  · rw [if_neg (Nat.not_le_of_lt hbelow)] at hkept
    rw [← hkept] at hsum
    have hmost := hgranted.total_le
    change (agent.grant amount).total = _ at hsum
    omega
  · have htotal : (agent.grant amount).total = Level.price Level.highest := by
      rw [total, hgranted.spent htop, htop, Nat.add_zero]
    rw [htop] at hsum
    omega

theorem total_practiseAll (agent : Agent) (experience : Nat) (skills : List String) :
    (agent.practiseAll experience skills).total = agent.total := by
  rw [practiseAll_eq]
  rfl

theorem InStep.total_applyVerdict (h : agent.InStep) {verdict : Verdict}
    (hpassed : verdict.passed = true) (skills : List String) :
    (Board.applyVerdict verdict skills agent).total =
      min (Level.price Level.highest) (agent.total + verdict.award) := by
  rw [Board.applyVerdict_of_passed skills agent hpassed, ← h.total_grant verdict.award]
  exact total_practiseAll (agent.grant verdict.award) verdict.award skills

end Agent

end QuestAcademy
