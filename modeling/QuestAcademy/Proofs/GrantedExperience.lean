import QuestAcademy.Proofs.EarnedExperience
import QuestAcademy.Proofs.TradingLoops

namespace QuestAcademy.Agent

variable {agent other : Agent}

/-- The experience is what the curve leaves room for at the level. The tier and the skills are of no
account. -/
structure OnCurve (agent : Agent) : Prop where
  lowest : Level.lowest ≤ agent.level
  highest : agent.level ≤ Level.highest
  needed : agent.experienceToNext = Level.experienceToNext agent.level
  below : agent.level < Level.highest → agent.experience < agent.experienceToNext
  spent : agent.level = Level.highest → agent.experience = 0

theorem InStep.onCurve (h : agent.InStep) : agent.OnCurve :=
  ⟨h.lowest, h.highest, h.needed, h.below, h.spent⟩

/-- An agent on the curve lacks nothing but a tier and proficiencies to be in step. Neither total nor
grant looks at these. -/
theorem OnCurve.inStep (h : agent.OnCurve) :
    { agent with tier := Tier.ofLevel agent.level, proficiencies := [] }.InStep where
  lowest := h.lowest
  highest := h.highest
  tier := rfl
  needed := h.needed
  below := h.below
  spent := h.spent
  proficiencies := by
    intro skill p hp
    cases hp

theorem OnCurve.eq_of_total_eq (h : agent.OnCurve) (hother : other.OnCurve)
    (htotal : other.total = agent.total) :
    other.level = agent.level ∧ other.experience = agent.experience ∧
      other.experienceToNext = agent.experienceToNext := by
  have hle := hother.inStep.le_level h.highest (htotal ▸ Nat.le_add_right _ _)
  have hge := h.inStep.le_level hother.highest (htotal ▸ Nat.le_add_right _ _)
  have hlevel : other.level = agent.level := Nat.le_antisymm hge hle
  refine ⟨hlevel, ?_, by rw [hother.needed, h.needed, hlevel]⟩
  simp only [total, hlevel] at htotal
  exact Nat.add_left_cancel htotal

theorem OnCurve.grant (h : agent.OnCurve) (amount : Nat) : (agent.grant amount).OnCurve :=
  let granted := h.inStep.grant amount
  ⟨granted.lowest, granted.highest, granted.needed, granted.below, granted.spent⟩

theorem OnCurve.total_grant (h : agent.OnCurve) (amount : Nat) :
    (agent.grant amount).total = min (Level.price Level.highest) (agent.total + amount) :=
  h.inStep.total_grant amount

example : Level.price Level.highest = 19000 := rfl

/-- Two grants are one: whatever the first one rolled over, both end where the sum leads. -/
theorem OnCurve.grant_grant (h : agent.OnCurve) (amount more : Nat) :
    (agent.grant amount).grant more = agent.grant (amount + more) := by
  have hfirst := h.grant amount
  -- Both sides are on the curve, so it is enough that as much has been earned.
  have htotal : ((agent.grant amount).grant more).total = (agent.grant (amount + more)).total := by
    rw [hfirst.total_grant, h.total_grant, h.total_grant]
    omega
  obtain ⟨hlevel, hexperience, hneeded⟩ :=
    (h.grant (amount + more)).eq_of_total_eq (hfirst.grant more) htotal
  have htier : ((agent.grant amount).grant more).tier = (agent.grant (amount + more)).tier :=
    congrArg Tier.ofLevel hlevel
  rw [grant_eq (agent.grant amount), grant_eq agent (amount + more), hlevel, hexperience, hneeded,
    htier]
  rfl

/-- The roll-over of a grant ends, wherever it starts: it takes one turn for each level that is
gained. -/
theorem grant_rests (agent : Agent) (amount : Nat) :
    agent.level + agent.levelsGained amount = (agent.grant amount).level ∧
      agent.levelsGained amount ≤ Level.highest - agent.level ∧
      RestsAfter rollTurn (agent.levelsGained amount)
        (agent.level, agent.experience + amount, agent.experienceToNext)
        (rollOver agent.level (agent.experience + amount) agent.experienceToNext) := by
  obtain ⟨turns, hturns, hlevel, hrests⟩ :=
    rollOver_rests agent.level (agent.experience + amount) agent.experienceToNext
  have hgained : agent.levelsGained amount = turns := by
    change (rollOver _ _ _).1 - agent.level = turns
    rw [← hlevel, Nat.add_sub_cancel_left]
  rw [hgained]
  exact ⟨hlevel, hturns, hrests⟩

/-- What a grant makes of an agent on the curve. -/
structure Conserves (agent : Agent) (amount : Nat) : Prop where
  onCurve : (agent.grant amount).OnCurve
  total : (agent.grant amount).total = min (Level.price Level.highest) (agent.total + amount)
  only : ∀ other : Agent, other.OnCurve →
    other.total = min (Level.price Level.highest) (agent.total + amount) →
      other.level = (agent.grant amount).level ∧
        other.experience = (agent.grant amount).experience ∧
        other.experienceToNext = (agent.grant amount).experienceToNext
  tier : (agent.grant amount).tier = Tier.ofLevel (agent.grant amount).level
  gained : agent.level + agent.levelsGained amount = (agent.grant amount).level
  adds : ∀ more, (agent.grant amount).grant more = agent.grant (amount + more)

/-- The grants to agents on the curve conserve what they earn, and every roll-over ends. -/
theorem grant_conserves :
    (∀ agent : Agent, agent.OnCurve → ∀ amount, agent.Conserves amount) ∧
      ∀ (agent : Agent) (amount : Nat), agent.level ≤ (agent.grant amount).level ∧
        agent.levelsGained amount ≤ Level.highest - agent.level ∧
        ∀ turns last, RestsAfter rollTurn turns
            (agent.level, agent.experience + amount, agent.experienceToNext) last ↔
          turns = agent.levelsGained amount ∧
            last = rollOver agent.level (agent.experience + amount) agent.experienceToNext := by
  constructor
  · intro agent h amount
    have hgranted := h.grant amount
    refine ⟨hgranted, h.total_grant amount, ?_, rfl, (agent.grant_rests amount).1,
      h.grant_grant amount⟩
    intro other hother htotal
    exact hgranted.eq_of_total_eq hother (htotal.trans (h.total_grant amount).symm)
  · intro agent amount
    obtain ⟨hlevel, hturns, hrests⟩ := agent.grant_rests amount
    exact ⟨hlevel ▸ Nat.le_add_right _ _, hturns, fun _ _ => hrests.iff_eq⟩

def veteran : Agent :=
  { create "guildhall.agent.veteran" "veteran" 18 with experience := 1700 }

/-- The veteran gains both levels and loses what goes beyond; a part of the grant gives one level. -/
theorem grant_conserves_veteran :
    veteran.OnCurve ∧ veteran.Conserves 2500 ∧ veteran.levelsGained 2500 = 2 ∧
      (veteran.grant 2500).total = 19000 ∧ (veteran.grant 150).level = 19 ∧
      (veteran.grant 150).grant 2350 = veteran.grant 2500 := by
  have hcurve : veteran.OnCurve := by
    constructor <;> decide
  have hconserves := grant_conserves.1 veteran hcurve
  have htotal : min (Level.price Level.highest) (veteran.total + 2500) = 19000 := by
    decide +kernel
  refine ⟨hcurve, hconserves 2500, ?_, (hconserves 2500).total.trans htotal, ?_,
    (hconserves 150).adds 2350⟩
  · decide +kernel
  · decide +kernel

end QuestAcademy.Agent
