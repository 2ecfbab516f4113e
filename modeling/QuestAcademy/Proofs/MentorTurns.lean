import Mathlib.Data.Int.CardIntervalMod
import QuestAcademy.Mentors

namespace QuestAcademy.Mentors

section Turns

variable (trainees : Nat) (mentors : List String) (perMentor : Nat)

def served : Nat :=
  min trainees (mentors.length * perMentor)

theorem getElem?_assign {place : Nat} (hplace : place < trainees) :
    (assign trainees mentors perMentor)[place]? =
      some (if place < mentors.length * perMentor then mentors[place % mentors.length]?
        else none) := by
  simp [assign, hplace]

theorem assign_eq :
    assign trainees mentors perMentor =
      ((List.range (served trainees mentors perMentor)).map fun place =>
        mentors[place % mentors.length]?) ++
      List.replicate (trainees - served trainees mentors perMentor) none := by
  apply List.ext_getElem?
  intro place
  rcases Nat.lt_or_ge place (served trainees mentors perMentor) with hserved | hserved
  · obtain ⟨hplace, hopen⟩ := lt_min_iff.mp hserved
    rw [getElem?_assign _ _ _ hplace, if_pos hopen,
      List.getElem?_append_left (by simpa using hserved)]
    simp [hserved]
  · rw [List.getElem?_append_right (by simpa using hserved), List.getElem?_replicate]
    rcases Nat.lt_or_ge place trainees with hplace | hplace
    · have hfull : ¬ place < mentors.length * perMentor := by
        unfold served at hserved
        omega
      rw [getElem?_assign _ _ _ hplace, if_neg hfull, if_pos]
      simp only [List.length_map, List.length_range]
      omega
    · have hnone : ¬ place - served trainees mentors perMentor <
          trainees - served trainees mentors perMentor := by omega
      simp [assign, hplace, hnone]

variable {trainees mentors perMentor}

/-- How many trainees the mentor at a place of the list has. -/
theorem count_assign (hdistinct : mentors.Nodup) {turn : Nat} (hturn : turn < mentors.length) :
    (assign trainees mentors perMentor).count (some mentors[turn]) =
      served trainees mentors perMentor / mentors.length +
        if turn < served trainees mentors perMentor % mentors.length then 1 else 0 := by
  have hpositive : 0 < mentors.length := by omega
  have hturns : ∀ place, mentors[place % mentors.length]? = some mentors[turn] ↔
      place ≡ turn [MOD mentors.length] := by
    intro place
    rw [List.getElem?_eq_getElem (Nat.mod_lt place hpositive), Option.some_inj,
      hdistinct.getElem_inj_iff, Nat.ModEq, Nat.mod_eq_of_lt hturn]
  have hnone : (List.replicate (trainees - served trainees mentors perMentor) none).count
      (some mentors[turn]) = 0 := by
    rw [List.count_replicate]
    rfl
  calc (assign trainees mentors perMentor).count (some mentors[turn])
      = (List.range (served trainees mentors perMentor)).countP fun place =>
          mentors[place % mentors.length]? == some mentors[turn] := by
        rw [assign_eq, List.count_append, hnone, Nat.add_zero, List.count, List.countP_map]
        rfl
    _ = (served trainees mentors perMentor).count (· ≡ turn [MOD mentors.length]) := by
        apply List.countP_congr
        intro place _
        rw [beq_iff_eq, decide_eq_true_eq]
        exact hturns place
    _ = _ := by
        rw [Nat.count_modEq_card _ hpositive, Nat.mod_eq_of_lt hturn]

theorem mem_of_assign {id : String} (h : some id ∈ assign trainees mentors perMentor) :
    id ∈ mentors := by
  obtain ⟨place, -, hplace⟩ := List.mem_map.mp h
  split at hplace
  · exact List.mem_of_getElem? hplace
  · cases hplace

theorem count_assign_le (hdistinct : mentors.Nodup) (mentor : String) :
    (assign trainees mentors perMentor).count (some mentor) ≤ perMentor := by
  by_cases hmentor : mentor ∈ mentors
  · obtain ⟨turn, hturn, rfl⟩ := List.mem_iff_getElem.mp hmentor
    have hserved : served trainees mentors perMentor ≤ mentors.length * perMentor :=
      Nat.min_le_right _ _
    rw [count_assign hdistinct hturn]
    -- Once all turns are taken nothing is left over; before that, no mentor is full.
    rcases Nat.lt_or_eq_of_le hserved with hopen | hfull
    · have hquotient := Nat.div_lt_of_lt_mul hopen
      split <;> omega
    · rw [hfull, Nat.mul_mod_right, Nat.mul_div_cancel_left _ (by omega)]
      simp
  · rw [List.count_eq_zero_of_not_mem (mt mem_of_assign hmentor)]
    apply Nat.zero_le

end Turns

/-- Who serves whom, if each mentor takes so many trainees and no more. -/
structure Fair (trainees : Nat) (mentors : List String) (perMentor : Nat)
    (turns : List (Option String)) : Prop where
  length : turns.length = trainees
  served : ∀ place < min trainees (mentors.length * perMentor),
    ∃ mentor ∈ mentors, turns[place]? = some (some mentor)
  unserved : ∀ place, min trainees (mentors.length * perMentor) ≤ place → place < trainees →
    turns[place]? = some none
  capped : ∀ mentor, turns.count (some mentor) ≤ perMentor
  even : mentors.Pairwise fun earlier later =>
    turns.count (some later) ≤ turns.count (some earlier) ∧
      turns.count (some earlier) ≤ turns.count (some later) + 1

/-- Taking turns is fair, as long as no mentor is listed twice. -/
theorem assign_fair {mentors : List String} (hdistinct : mentors.Nodup)
    (trainees perMentor : Nat) :
    Fair trainees mentors perMentor (assign trainees mentors perMentor) := by
  refine ⟨by simp [assign], ?_, ?_, count_assign_le hdistinct, ?_⟩
  · intro place hserved
    obtain ⟨hplace, hopen⟩ := lt_min_iff.mp hserved
    have hpositive : 0 < mentors.length := Nat.pos_of_mul_pos_right (Nat.zero_lt_of_lt hopen)
    have hturn := Nat.mod_lt place hpositive
    refine ⟨mentors[place % mentors.length], List.getElem_mem hturn, ?_⟩
    rw [getElem?_assign _ _ _ hplace, if_pos hopen, List.getElem?_eq_getElem hturn]
  · intro place hserved hplace
    rw [getElem?_assign _ _ _ hplace, if_neg]
    omega
  · apply List.pairwise_iff_getElem.mpr
    intro first second hfirst hsecond horder
    rw [count_assign hdistinct hfirst, count_assign hdistinct hsecond]
    constructor <;> split <;> split <;> omega

/-- Two mentors have two trainees each, and the fifth trainee has none. -/
theorem assign_fair_pair :
    ["one", "two"].Nodup ∧ Fair 5 ["one", "two"] 2 (assign 5 ["one", "two"] 2) ∧
      assign 5 ["one", "two"] 2 = [some "one", some "two", some "one", some "two", none] :=
  ⟨by decide, assign_fair (by decide) 5 2, by decide⟩

end QuestAcademy.Mentors
