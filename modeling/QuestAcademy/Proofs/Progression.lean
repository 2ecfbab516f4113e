import QuestAcademy.Proofs.AgentProgress
import QuestAcademy.Roster

namespace QuestAcademy

namespace Level

theorem lowest_le_clamp (level : Nat) : lowest ≤ clamp level := Nat.le_max_left _ _

theorem clamp_le_highest (level : Nat) : clamp level ≤ highest := by
  simp only [clamp, lowest, highest]
  omega

theorem experienceToNext_pos {level : Nat} (h : level < highest) : 0 < experienceToNext level := by
  have hclamp : clamp level < highest := by
    simp only [clamp, lowest, highest] at *
    omega
  rw [experienceToNext, if_neg (Nat.not_le_of_lt hclamp)]
  have hlow := lowest_le_clamp level
  simp only [lowest] at hlow
  omega

end Level

/-- Progress beyond the width of a band has been traded for bands, as far as there are any. -/
def Proficiency.InStep (p : Proficiency) : Prop :=
  p.progress < bandWidth ∨ p.band = .master ∧ p.progress ≤ bandWidth

namespace Proficiency

theorem inStep_novice : novice.InStep := .inl (by decide)

theorem promote_inStep (band : Band) (progress : Nat) :
    (promote band progress).2 < bandWidth ∨
      (promote band progress).1 = .master ∧ (promote band progress).2 ≤ bandWidth := by
  induction band, progress using promote.induct with
  | case1 band progress hbelow =>
      rw [promote, if_pos hbelow]
      exact .inl hbelow
  | case2 band progress hfull above hnext ih =>
      rw [promote, if_neg hfull]
      simp only [hnext]
      exact ih
  | case3 band progress hfull htop =>
      -- With no band above, progress is cut off at the width, which is where only a master can be.
      rw [promote, if_neg hfull]
      simp only [htop]
      cases band with
      | master => exact .inr ⟨rfl, Nat.le_refl _⟩
      | novice | apprentice | journeyman | expert => cases htop

theorem inStep_record (p : Proficiency) (experience : Nat) : (p.record experience).InStep :=
  promote_inStep p.band (min countLimit (p.progress + gain experience))

end Proficiency

namespace Agent

/-- The tier and the experience to the next level are those of the level; experience that pays for
the next level has been spent on it, and at the highest level none is kept. -/
structure InStep (agent : Agent) : Prop where
  lowest : Level.lowest ≤ agent.level
  highest : agent.level ≤ Level.highest
  tier : agent.tier = Tier.ofLevel agent.level
  needed : agent.experienceToNext = Level.experienceToNext agent.level
  below : agent.level < Level.highest → agent.experience < agent.experienceToNext
  spent : agent.level = Level.highest → agent.experience = 0
  proficiencies : ∀ skill p, Keyed.find? skill agent.proficiencies = some p → p.InStep

/-- An agent as it is made for a key: idle, at the very start of a level, and with no skill beyond
that of a novice. -/
structure Starts (space key : String) (agent : Agent) : Prop where
  named : instanceKey agent.name = key
  id : agent.id = entityId space key
  status : agent.status = .idle
  lowest : Level.lowest ≤ agent.level
  highest : agent.level ≤ Level.highest
  tier : agent.tier = Tier.ofLevel agent.level
  experience : agent.experience = 0
  needed : agent.experienceToNext = Level.experienceToNext agent.level
  proficiencies : ∀ skill p, Keyed.find? skill agent.proficiencies = some p → p = .novice

section Making

variable {space key : String} {agent : Agent}

theorem Starts.inStep (h : agent.Starts space key) : agent.InStep where
  lowest := h.lowest
  highest := h.highest
  tier := h.tier
  needed := h.needed
  below := by
    intro hbelow
    rw [h.experience, h.needed]
    exact Level.experienceToNext_pos hbelow
  spent := fun _ => h.experience
  proficiencies := by
    intro skill p hp
    rw [h.proficiencies skill p hp]
    exact Proficiency.inStep_novice

theorem starts_create (space name : String) (level : Nat) :
    (create (entityId space (instanceKey name)) name level).Starts space (instanceKey name) where
  named := rfl
  id := rfl
  status := rfl
  lowest := Level.lowest_le_clamp level
  highest := Level.clamp_le_highest level
  tier := rfl
  experience := rfl
  needed := rfl
  proficiencies := by
    intro skill p hp
    cases hp

theorem Starts.with (h : agent.Starts space key) (skills guilds : List String) (isNpc : Bool)
    (modelSettings : Option Json) :
    { agent with skills, guilds, isNpc, modelSettings }.Starts space key :=
  ⟨h.named, h.id, h.status, h.lowest, h.highest, h.tier, h.experience, h.needed, h.proficiencies⟩

theorem novice_of_find?_foldl (skills : List String) {known : List (String × Proficiency)}
    (h : ∀ skill p, Keyed.find? skill known = some p → p = .novice) :
    ∀ skill p, Keyed.find? skill (skills.foldl (fun known skill =>
      match Keyed.find? skill known with
      | some _ => known
      | none => Keyed.insert skill .novice known) known) = some p → p = .novice := by
  induction skills generalizing known with
  | nil => exact h
  | cons first rest ih =>
      apply ih
      intro skill p hp
      simp only at hp
      split at hp
      · exact h skill p hp
      · rw [Keyed.find?_insert] at hp
        split at hp
        · cases hp
          rfl
        · exact h skill p hp

theorem Starts.withNoviceProficiencies (h : agent.Starts space key) :
    agent.withNoviceProficiencies.Starts space key :=
  ⟨h.named, h.id, h.status, h.lowest, h.highest, h.tier, h.experience, h.needed,
    novice_of_find?_foldl agent.skills h.proficiencies⟩

end Making

theorem rollOver_inStep {level needed : Nat} (experience : Nat) (hhigh : level ≤ Level.highest)
    (hneeded : needed = Level.experienceToNext level) :
    level ≤ (rollOver level experience needed).1 ∧
      (rollOver level experience needed).1 ≤ Level.highest ∧
      (rollOver level experience needed).2.2 =
        Level.experienceToNext (rollOver level experience needed).1 ∧
      ((rollOver level experience needed).1 < Level.highest →
        (rollOver level experience needed).2.1 < (rollOver level experience needed).2.2) := by
  induction level, experience, needed using rollOver.induct with
  | case1 level experience needed hpays ih =>
      rw [rollOver, if_pos hpays]
      obtain ⟨hrises, hrest⟩ := ih hpays.1 rfl
      exact ⟨Nat.le_of_succ_le hrises, hrest⟩
  | case2 level experience needed hrests =>
      rw [rollOver, if_neg hrests]
      refine ⟨Nat.le_refl level, hhigh, hneeded, ?_⟩
      intro hbelow
      exact Nat.lt_of_not_le fun hpays => hrests ⟨hbelow, hpays⟩

section Changing

variable {agent : Agent}

theorem InStep.grant (h : agent.InStep) (amount : Nat) : (agent.grant amount).InStep := by
  obtain ⟨hrises, hhigh, hneeded, hbelow⟩ :=
    rollOver_inStep (agent.experience + amount) h.highest h.needed
  have hlevel : (agent.grant amount).level =
    (rollOver agent.level (agent.experience + amount) agent.experienceToNext).1 := rfl
  have hkept : (agent.grant amount).experience =
    if Level.highest ≤ (agent.grant amount).level then 0
    else (rollOver agent.level (agent.experience + amount) agent.experienceToNext).2.1 := rfl
  refine ⟨Nat.le_trans h.lowest hrises, hhigh, rfl, hneeded, ?_, ?_, h.proficiencies⟩
  · intro hlt
    rw [hkept, if_neg (Nat.not_le_of_lt hlt)]
    exact hbelow hlt
  · intro htop
    rw [hkept, if_pos (Nat.le_of_eq htop.symm)]

theorem InStep.deduct (h : agent.InStep) (amount : Nat) : (agent.deduct amount).InStep where
  lowest := h.lowest
  highest := h.highest
  tier := h.tier
  needed := h.needed
  below := fun hbelow => Nat.lt_of_le_of_lt (Nat.sub_le _ _) (h.below hbelow)
  spent := by
    intro htop
    have hnone := h.spent htop
    simp only [Agent.deduct, hnone, Nat.zero_sub]
  proficiencies := h.proficiencies

theorem InStep.practise (h : agent.InStep) (experience : Nat) (skill : String) :
    (agent.practise experience skill).InStep := by
  refine ⟨h.lowest, h.highest, h.tier, h.needed, h.below, h.spent, ?_⟩
  intro other p hp
  simp only [Agent.practise, Keyed.find?_insert] at hp
  split at hp
  · cases hp
    exact Proficiency.inStep_record _ experience
  · exact h.proficiencies other p hp

theorem InStep.practiseAll (h : agent.InStep) (experience : Nat) (skills : List String) :
    (agent.practiseAll experience skills).InStep := by
  induction skills generalizing agent with
  | nil => exact h
  | cons skill rest ih => exact ih (h.practise experience skill)

theorem InStep.withStatus (h : agent.InStep) (status : Availability) :
    { agent with status }.InStep :=
  ⟨h.lowest, h.highest, h.tier, h.needed, h.below, h.spent, h.proficiencies⟩

theorem InStep.applyVerdict (h : agent.InStep) (verdict : Verdict) (skills : List String) :
    (Board.applyVerdict verdict skills agent).InStep := by
  cases hpassed : verdict.passed with
  | true =>
      rw [Board.applyVerdict_of_passed skills agent hpassed]
      exact ((h.grant verdict.award).practiseAll verdict.award skills).withStatus .idle
  | false =>
      rw [Board.applyVerdict_of_not_passed skills agent hpassed]
      exact (h.deduct verdict.penalty).withStatus .idle

end Changing

end Agent

theorem AgentBatch.starts_build (batch : AgentBatch) (space name : String) :
    (batch.build (entityId space (instanceKey name)) name).Starts space (instanceKey name) := by
  have hcreated := Agent.starts_create space name batch.level
  have hskilled := (hcreated.with (Names.ofList batch.skills) [] false none).withNoviceProficiencies
  exact hskilled.with _ [] batch.isNpc batch.modelSettings

def Store.AllInStep (store : Store) : Prop :=
  ∀ key agent, store.agents.find? key = some agent → agent.InStep

end QuestAcademy
