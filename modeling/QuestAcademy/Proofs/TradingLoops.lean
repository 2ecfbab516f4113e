import QuestAcademy.Proofs.Progression

/-!
The loops of progression, turn by turn: experience is traded for levels, and points for bands, one
at a time. Both loops come to rest wherever they start, with `rollOver` and `promote` as the states
they rest in; the turns of a roll-over are the levels it gains, and those of a promotion the bands.
-/

namespace QuestAcademy

/-- A loop takes so many turns from the first state on, and rests in the last one. A turn leads to
the next state, on the left, or to the one to rest in, on the right. -/
inductive RestsAfter {σ : Type} (turn : σ → σ ⊕ σ) : Nat → σ → σ → Prop
  | rest {state last : σ} (h : turn state = .inr last) : RestsAfter turn 0 state last
  | again {state next last : σ} {turns : Nat} (h : turn state = .inl next)
      (hrest : RestsAfter turn turns next last) : RestsAfter turn (turns + 1) state last

namespace RestsAfter

variable {σ : Type} {turn : σ → σ ⊕ σ} {turns others : Nat} {state last other : σ}

theorem unique (h : RestsAfter turn turns state last) (hother : RestsAfter turn others state other) :
    others = turns ∧ other = last := by
  induction h generalizing others other with
  | rest hrest =>
      cases hother with
      | rest hagain =>
          rw [hrest] at hagain
          exact ⟨rfl, (Sum.inr.inj hagain).symm⟩
      | again hagain =>
          rw [hrest] at hagain
          cases hagain
  | again hnext _ ih =>
      cases hother with
      | rest hagain =>
          rw [hnext] at hagain
          cases hagain
      | again hagain hrest =>
          rw [hnext] at hagain
          cases Sum.inl.inj hagain
          obtain ⟨hturns, hlast⟩ := ih hrest
          exact ⟨congrArg (· + 1) hturns, hlast⟩

theorem iff_eq (h : RestsAfter turn turns state last) :
    RestsAfter turn others state other ↔ others = turns ∧ other = last := by
  constructor
  · exact h.unique
  · rintro ⟨rfl, rfl⟩
    exact h

end RestsAfter

namespace Agent

/-- One turn of a roll-over: a level is bought if the experience pays for it. -/
def rollTurn : Nat × Nat × Nat → (Nat × Nat × Nat) ⊕ (Nat × Nat × Nat)
  | (level, experience, needed) =>
    if level < Level.highest ∧ needed ≤ experience then
      .inl (level + 1, experience - needed, Level.experienceToNext (level + 1))
    else .inr (level, experience, needed)

/-- A roll-over buys a level with each of its turns, and none beyond the highest, whatever the state
it starts from. -/
theorem rollOver_rests (level experience needed : Nat) :
    ∃ turns ≤ Level.highest - level,
      level + turns = (rollOver level experience needed).1 ∧
        RestsAfter rollTurn turns (level, experience, needed)
          (rollOver level experience needed) := by
  induction level, experience, needed using rollOver.induct with
  | case1 level experience needed hpays ih =>
      obtain ⟨turns, hturns, hlevel, hrests⟩ := ih
      rw [rollOver, if_pos hpays]
      refine ⟨turns + 1, ?_, ?_, .again (if_pos hpays) hrests⟩
      · omega
      · omega
  | case2 level experience needed hrests =>
      rw [rollOver, if_neg hrests]
      exact ⟨0, Nat.zero_le _, rfl, .rest (if_neg hrests)⟩

end Agent

namespace Band

theorem rank_next {band above : Band} (h : band.next? = some above) :
    above.rank = band.rank + 1 := by
  cases band <;> cases h <;> rfl

theorem rank_le (band : Band) : band.rank ≤ Band.master.rank := by
  cases band <;> decide

end Band

namespace Proficiency

/-- One turn of a promotion: a full width of progress is traded for the band above. -/
def promoteTurn : Band × Nat → (Band × Nat) ⊕ (Band × Nat)
  | (band, progress) =>
    if progress < bandWidth then .inr (band, progress)
    else
      match band.next? with
      | some above => .inl (above, progress - bandWidth)
      | none => .inr (band, bandWidth)

/-- A promotion climbs a band with each of its turns, whatever the state it starts from. -/
theorem promote_rests (band : Band) (progress : Nat) :
    ∃ turns ≤ Band.master.rank - band.rank,
      band.rank + turns = (promote band progress).1.rank ∧
        RestsAfter promoteTurn turns (band, progress) (promote band progress) := by
  induction band, progress using promote.induct with
  | case1 band progress hbelow =>
      rw [promote, if_pos hbelow]
      exact ⟨0, Nat.zero_le _, rfl, .rest (if_pos hbelow)⟩
  | case2 band progress hfull above hnext ih =>
      obtain ⟨turns, hturns, hrank, hrests⟩ := ih
      have habove := Band.rank_next hnext
      have hhighest := above.rank_le
      have hturn : promoteTurn (band, progress) = .inl (above, progress - bandWidth) := by
        simp only [promoteTurn, if_neg hfull, hnext]
      rw [promote, if_neg hfull]
      simp only [hnext]
      refine ⟨turns + 1, ?_, ?_, .again hturn hrests⟩
      · omega
      · omega
  | case3 band progress hfull htop =>
      have hturn : promoteTurn (band, progress) = .inr (band, bandWidth) := by
        simp only [promoteTurn, if_neg hfull, htop]
      rw [promote, if_neg hfull]
      simp only [htop]
      exact ⟨0, Nat.zero_le _, rfl, .rest hturn⟩

end Proficiency

end QuestAcademy
