import QuestAcademy.Proofs.VerdictDirection

namespace QuestAcademy

namespace Limit

theorem holdsSigned_iff {i : Int} :
    holdsSigned i = true ↔ -(signed : Int) - 1 ≤ i ∧ i ≤ signed := by
  simp only [holdsSigned, Bool.and_eq_true, decide_eq_true_eq]

theorem bmod_cases {i : Int} (hlow : -(long : Int) ≤ i) (hhigh : i ≤ long) :
    (holdsSigned i = true ∧ i.bmod (long + 1) = i) ∨
      (signed < i ∧ i.bmod (long + 1) = i - (long + 1)) ∨
        (i < -(signed : Int) - 1 ∧ i.bmod (long + 1) = i + (long + 1)) := by
  simp only [holdsSigned_iff, long, signed] at *
  -- One turn away, the amount is in the range that stays as it is.
  by_cases habove : 9223372036854775807 < i
  · refine .inr (.inl ⟨habove, ?_⟩)
    rw [← Int.sub_bmod_right]
    exact Int.bmod_eq_of_le_mul_two (by omega) (by omega)
  · by_cases hbelow : i < -9223372036854775807 - 1
    · refine .inr (.inr ⟨hbelow, ?_⟩)
      rw [← Int.add_bmod_right]
      exact Int.bmod_eq_of_le_mul_two (by omega) (by omega)
    · refine .inl ⟨by omega, ?_⟩
      exact Int.bmod_eq_of_le_mul_two (by omega) (by omega)

end Limit

namespace Verdict

def amount (verdict : Verdict) : Int :=
  if verdict.passed then verdict.award else -(verdict.penalty : Int)

structure Bounded (verdict : Verdict) : Prop where
  award : verdict.award ≤ Limit.long
  penalty : verdict.penalty ≤ Limit.long

variable {verdict : Verdict}

theorem amount_of_passed (h : verdict.passed = true) : verdict.amount = verdict.award := by
  rw [amount, if_pos h]

theorem amount_of_failed (h : verdict.passed = false) : verdict.amount = -verdict.penalty := by
  rw [amount, if_neg (ne_true_of_eq_false h)]

theorem change_eq_bmod (verdict : Verdict) :
    verdict.change = verdict.amount.bmod (Limit.long + 1) := by
  unfold change amount
  split
  · rfl
  · exact Int.bmod_neg_bmod

theorem Bounded.amount (h : verdict.Bounded) :
    -(Limit.long : Int) ≤ verdict.amount ∧ verdict.amount ≤ Limit.long := by
  have haward := h.award
  have hpenalty := h.penalty
  unfold Verdict.amount
  split <;> omega

end Verdict

namespace Judgement

theorem award_le (judgement : Judgement) (base : Nat) : judgement.award base ≤ Limit.long :=
  Nat.le_of_lt_succ (UInt64.toNat_lt _)

theorem award_toVerdict_le (judgement : Judgement) (base : Nat) :
    (judgement.toVerdict base).award ≤ max (judgement.award base) 1 := by
  simp only [toVerdict]
  cases judgement.passed
  · exact Nat.zero_le _
  · exact max_le_max_left _ (by split <;> decide)

theorem penalty_toVerdict_le (judgement : Judgement) (base : Nat) :
    (judgement.toVerdict base).penalty ≤ max (base / 4) 1 := by
  simp only [toVerdict]
  cases judgement.passed
  · exact max_le_max_left _ (by split <;> decide)
  · exact Nat.zero_le _

theorem bounded_toVerdict (judgement : Judgement) {base : Nat} (hbase : base ≤ Limit.long) :
    (judgement.toVerdict base).Bounded where
  award := (judgement.award_toVerdict_le base).trans
    (Nat.max_le.mpr ⟨judgement.award_le base, by decide⟩)
  penalty := (judgement.penalty_toVerdict_le base).trans
    (Nat.max_le.mpr ⟨(Nat.div_le_self base 4).trans hbase, by decide⟩)

end Judgement

namespace Receipt

/-- How far a receipt tells what its verdict gave or took. -/
structure Tells (receipt : Receipt) (verdict : Verdict) : Prop where
  exact_iff : receipt.change = verdict.amount ↔ Limit.holdsSigned verdict.amount = true
  above : Limit.signed < verdict.amount → receipt.change = verdict.amount - (Limit.long + 1)
  below : verdict.amount < -(Limit.signed : Int) - 1 →
    receipt.change = verdict.amount + (Limit.long + 1)
  /-- An award is told as a loss if it is too great. -/
  negative_iff : verdict.passed = true → (receipt.change < 0 ↔ Limit.signed < verdict.award)
  /-- A penalty is told as a gain if it is too great. -/
  positive_iff : verdict.passed = false → (0 < receipt.change ↔ Limit.signed + 1 < verdict.penalty)

theorem tells_of_bmod {receipt : Receipt} {verdict : Verdict} (hbounded : verdict.Bounded)
    (hchange : receipt.change = verdict.amount.bmod (Limit.long + 1)) :
    receipt.Tells verdict := by
  obtain ⟨hlow, hhigh⟩ := hbounded.amount
  have hcases := Limit.bmod_cases hlow hhigh
  rw [← hchange] at hcases
  simp only [Limit.holdsSigned_iff, Limit.signed, Limit.long] at hcases
  refine ⟨?_, ?_, ?_, ?_, ?_⟩
  · simp only [Limit.holdsSigned_iff, Limit.signed]
    omega
  · simp only [Limit.signed, Limit.long]
    omega
  · simp only [Limit.signed, Limit.long]
    omega
  · intro hpassed
    have haward := hbounded.award
    rw [Verdict.amount_of_passed hpassed] at hcases
    simp only [Limit.signed, Limit.long] at haward ⊢
    omega
  · intro hfailed
    have hpenalty := hbounded.penalty
    rw [Verdict.amount_of_failed hfailed] at hcases
    simp only [Limit.signed, Limit.long] at hpenalty ⊢
    omega

end Receipt

namespace Board

variable {ω : Type} {store : StoreAccess ω} {questId : String} {output : Payload}
  {verdict : Verdict} {board : Board} {world : ω} {receipt : Receipt} {after : Board × ω}

theorem change_of_submit
    (h : submit store questId output verdict board world = (.ok receipt, after)) :
    receipt.change = verdict.change := by
  unfold submit at h
  split at h
  · cases h
  · split at h
    · cases h
    · split at h
      · cases h
      · split at h
        · cases h
        · simp only at h
          split at h
          · cases h
          · cases h
            rfl

/-- Whatever happens to its agent, a submission that is taken tells the amount of its verdict exactly
if that has room beside its sign. What a judge takes always has, what it awards need not. -/
theorem submit_tells
    (h : submit store questId output verdict board world = (.ok receipt, after))
    (hbounded : verdict.Bounded) :
    receipt.Tells verdict ∧
      ∀ judgement base, verdict = Judgement.toVerdict judgement base → base ≤ Limit.long →
        verdict.passed = false → receipt.change = -verdict.penalty := by
  have htells := Receipt.tells_of_bmod hbounded
    ((change_of_submit h).trans verdict.change_eq_bmod)
  refine ⟨htells, ?_⟩
  rintro judgement base rfl hbase hfailed
  have hpenalty := judgement.penalty_toVerdict_le base
  rw [← Verdict.amount_of_failed hfailed, htells.exact_iff, Verdict.amount_of_failed hfailed,
    Limit.holdsSigned_iff]
  simp only [Limit.signed, Limit.long] at hbase ⊢
  omega

end Board

def Judgement.flawless : Judgement :=
  { passed := true, quality := 1, scores := [], marks := [], feedback := "" }

namespace Hall

/-- What the errand costs or earns is told when it is small. -/
theorem submit_tells_errandUnderway :
    ∃ receipt after,
      Board.submit (Store.access "guildhall") "q1" .null (Judgement.flawless.toVerdict 25)
          errandUnderway.board errandUnderway.store = (.ok receipt, after) ∧
        receipt.Tells (Judgement.flawless.toVerdict 25) ∧ receipt.change = 25 := by
  have htaken : ∃ receipt after,
      Board.submit (Store.access "guildhall") "q1" .null (Judgement.flawless.toVerdict 25)
          errandUnderway.board errandUnderway.store = (.ok receipt, after) ∧
        receipt.change = 25 := ⟨_, _, rfl, by decide +kernel⟩
  obtain ⟨receipt, after, hsubmit, hchange⟩ := htaken
  have htells := Board.submit_tells hsubmit (Judgement.flawless.bounded_toVerdict (by decide))
  exact ⟨receipt, after, hsubmit, htells.1, hchange⟩

/-- The greatest base that has room beside a sign is rounded up to one that has not, so that an
errand of that base passes and its receipt tells the greatest possible loss. -/
theorem submit_tells_loss :
    ∃ receipt after,
      Board.submit (Store.access "guildhall") "q1" .null
          (Judgement.flawless.toVerdict Limit.signed) errandUnderway.board errandUnderway.store =
        (.ok receipt, after) ∧
        (Judgement.flawless.toVerdict Limit.signed).passed = true ∧
        (Judgement.flawless.toVerdict Limit.signed).award = 9223372036854775808 ∧
        receipt.change = -9223372036854775808 := by
  refine ⟨_, _, rfl, rfl, ?_, ?_⟩
  · decide +kernel
  · decide +kernel

end Hall

end QuestAcademy
