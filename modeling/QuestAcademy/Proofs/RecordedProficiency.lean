import Mathlib.Algebra.GroupWithZero.Nat
import QuestAcademy.Proofs.TradingLoops

namespace QuestAcademy

theorem Band.rank_injective : Function.Injective Band.rank := by
  intro band other h
  cases band <;> cases other <;> simp [rank] at h ⊢

namespace Proficiency

def pointsBelow (band : Band) : Nat :=
  bandWidth * (band.rank - 1)

/-- The points of a proficiency, over all bands. -/
def points (p : Proficiency) : Nat :=
  pointsBelow p.band + p.progress

def mostPoints : Nat :=
  bandWidth * Band.master.rank

theorem pointsBelow_next {band above : Band} (h : band.next? = some above) :
    pointsBelow above = pointsBelow band + bandWidth := by
  cases band <;> cases h <;> rfl

theorem pointsBelow_add_le (band : Band) : pointsBelow band + bandWidth ≤ mostPoints := by
  cases band <;> decide

theorem pointsBelow_top {band : Band} (h : band.next? = none) :
    pointsBelow band + bandWidth = mostPoints := by
  cases band <;> cases h
  rfl

theorem points_promote (band : Band) (progress : Nat) :
    pointsBelow (promote band progress).1 + (promote band progress).2 =
      min mostPoints (pointsBelow band + progress) := by
  induction band, progress using promote.induct with
  | case1 band progress hbelow =>
      have hroom := pointsBelow_add_le band
      rw [promote, if_pos hbelow]
      change pointsBelow band + progress = _
      omega
  | case2 band progress hfull above hnext ih =>
      have habove := pointsBelow_next hnext
      rw [promote, if_neg hfull]
      simp only [hnext]
      omega
  | case3 band progress hfull htop =>
      have hmost := pointsBelow_top htop
      rw [promote, if_neg hfull]
      simp only [htop]
      change pointsBelow band + bandWidth = _
      omega

variable {p q : Proficiency}

/-- Points beyond the last band are lost, and with them whatever a count of 32 bits cannot hold. -/
theorem points_record (p : Proficiency) (award : Nat) :
    (p.record award).points = min mostPoints (p.points + max 1 (award / 10)) := by
  have hkept := points_promote p.band (min countLimit (p.progress + gain award))
  -- What the count cannot hold is beyond the last band anyway.
  have hmost : mostPoints ≤ countLimit := by decide
  change pointsBelow (promote p.band _).1 + (promote p.band _).2 = _
  rw [hkept, gain, points]
  omega

theorem InStep.points_le (h : p.InStep) : p.points ≤ mostPoints := by
  have hroom := pointsBelow_add_le p.band
  unfold points
  rcases h with hbelow | ⟨-, hfull⟩
  · omega
  · omega

theorem InStep.rank_eq (h : p.InStep) :
    p.band.rank = min Band.master.rank (p.points / bandWidth + 1) := by
  have hrank := p.band.rank_le
  have hpositive : 0 < p.band.rank := by cases p.band <;> decide
  simp only [points, pointsBelow, bandWidth]
  rcases h with hbelow | ⟨hmaster, -⟩
  · simp only [bandWidth] at hbelow
    omega
  · simp only [hmaster] at hrank hpositive ⊢
    omega

theorem InStep.ext (h : p.InStep) (hother : q.InStep) (hpoints : p.points = q.points)
    (hexperience : p.totalExperience = q.totalExperience) (hquests : p.questsUsed = q.questsUsed) :
    p = q := by
  have hband : p.band = q.band := by
    apply Band.rank_injective
    rw [h.rank_eq, hother.rank_eq, hpoints]
  have hprogress : p.progress = q.progress := by
    simp only [points, hband] at hpoints
    exact Nat.add_left_cancel hpoints
  obtain ⟨band, progress, totalExperience, questsUsed⟩ := p
  cases hband
  cases hprogress
  cases hexperience
  cases hquests
  rfl

theorem record_record (p : Proficiency) (award other : Nat) :
    (p.record award).record other = (p.record other).record award := by
  apply InStep.ext (inStep_record _ _) (inStep_record _ _)
  · simp only [points_record]
    omega
  · simp only [record]
    omega
  · rfl

/-- The proficiency after all the quests that had these awards. -/
def recordAll (p : Proficiency) (awards : List Nat) : Proficiency :=
  awards.foldl record p

theorem recordAll_cons (p : Proficiency) (award : Nat) (rest : List Nat) :
    p.recordAll (award :: rest) = (p.record award).recordAll rest := rfl

theorem recordAll_perm (p : Proficiency) {awards others : List Nat} (h : awards.Perm others) :
    p.recordAll awards = p.recordAll others :=
  h.foldl_eq' (fun award _ other _ p => record_record p award other) p

theorem InStep.recordAll (h : p.InStep) (awards : List Nat) : (p.recordAll awards).InStep := by
  induction awards generalizing p with
  | nil => exact h
  | cons award rest ih => exact ih (inStep_record p award)

/-- Whatever each award raises up to a limit, all of them raise by the sum up to the limit. -/
theorem capped_recordAll (amount : Proficiency → Nat) {raise : Nat → Nat} {limit : Nat}
    (hrecord : ∀ p award, amount (record p award) = min limit (amount p + raise award))
    (h : amount p ≤ limit) (awards : List Nat) :
    amount (p.recordAll awards) = min limit (amount p + (awards.map raise).sum) := by
  induction awards generalizing p with
  | nil => exact (Nat.min_eq_right h).symm
  | cons award rest ih =>
      have hfirst := hrecord p award
      have hrest := ih (p := p.record award) (hfirst ▸ Nat.min_le_left _ _)
      rw [recordAll_cons, hrest, hfirst, List.map_cons, List.sum_cons]
      omega

theorem points_recordAll (h : p.InStep) (awards : List Nat) :
    (p.recordAll awards).points =
      min mostPoints (p.points + (awards.map fun award => max 1 (award / 10)).sum) :=
  capped_recordAll points points_record h.points_le awards

theorem questsUsed_recordAll (h : p.questsUsed ≤ countLimit) (awards : List Nat) :
    (p.recordAll awards).questsUsed = min countLimit (p.questsUsed + awards.length) := by
  have hsum := capped_recordAll questsUsed (fun _ _ => rfl) h awards
  rwa [List.map_const', List.sum_replicate_nat, Nat.mul_one] at hsum

theorem totalExperience_recordAll (h : p.totalExperience ≤ experienceLimit) (awards : List Nat) :
    (p.recordAll awards).totalExperience =
      min experienceLimit (p.totalExperience + awards.sum) := by
  have hsum := capped_recordAll totalExperience (fun _ _ => rfl) h awards
  rwa [List.map_id'] at hsum

/-- What awards make of a proficiency is told by sums over them. -/
structure Sums (p : Proficiency) (awards : List Nat) : Prop where
  points : (p.recordAll awards).points =
    min mostPoints (p.points + (awards.map fun award => max 1 (award / 10)).sum)
  inStep : (p.recordAll awards).InStep
  questsUsed : (p.recordAll awards).questsUsed = min countLimit (p.questsUsed + awards.length)
  totalExperience : (p.recordAll awards).totalExperience =
    min experienceLimit (p.totalExperience + awards.sum)

/-- Awards only count by their sums, so that their order is of no account, and every promotion ends.
-/
theorem recordAll_sums :
    (∀ p : Proficiency, p.InStep → p.questsUsed ≤ countLimit →
      p.totalExperience ≤ experienceLimit → ∀ awards, p.Sums awards) ∧
      (∀ (p : Proficiency) (awards others : List Nat), awards.Perm others →
        p.recordAll awards = p.recordAll others) ∧
      ∀ (band : Band) (progress : Nat), ∃ turns ≤ Band.master.rank - band.rank,
        ∀ others last, RestsAfter promoteTurn others (band, progress) last ↔
          others = turns ∧ last = promote band progress := by
  refine ⟨?_, fun p _ _ => p.recordAll_perm, ?_⟩
  · intro p h hquests hexperience awards
    exact ⟨points_recordAll h awards, h.recordAll awards,
      questsUsed_recordAll hquests awards, totalExperience_recordAll hexperience awards⟩
  · intro band progress
    obtain ⟨turns, hturns, -, hrests⟩ := promote_rests band progress
    exact ⟨turns, hturns, fun _ _ => hrests.iff_eq⟩

def seasoned : Proficiency :=
  { band := .expert, progress := 95, totalExperience := experienceLimit - 5, questsUsed := 3 }

/-- Three awards make a master of the expert; the sum of experience stops at its limit. -/
theorem recordAll_sums_seasoned :
    seasoned.InStep ∧ seasoned.Sums [60, 7, 2000] ∧
      (seasoned.recordAll [60, 7, 2000]).points = 500 ∧
      seasoned.recordAll [60, 7, 2000] = ⟨.master, 100, experienceLimit, 6⟩ ∧
      seasoned.recordAll [2000, 60, 7] = seasoned.recordAll [60, 7, 2000] := by
  have hinStep : seasoned.InStep := .inl (by decide)
  have hsums := recordAll_sums.1 seasoned hinStep (by decide) (by decide) [60, 7, 2000]
  have hmoved : [2000, 60, 7].Perm [60, 7, 2000] := by decide
  refine ⟨hinStep, hsums, hsums.points.trans (by decide), by decide +kernel, ?_⟩
  exact recordAll_sums.2.1 seasoned _ _ hmoved

end Proficiency

end QuestAcademy
