import QuestAcademy.Proofs.TrainingCourse

namespace QuestAcademy

variable {ω : Type}

namespace Selector

variable (selector : Selector) (level : Nat)

theorem curriculum_place (count : Nat) :
    (selector.place count).2.curriculum = selector.curriculum := by
  unfold place
  split <;> rfl

theorem place_lt {count : Nat} (h : 0 < count) : (selector.place count).1 < count := by
  unfold place
  split
  · exact h
  · exact Random.draw_lt count selector.random h

theorem curriculum_choose : (selector.choose level).2.curriculum = selector.curriculum := by
  unfold choose
  split
  · exact selector.curriculum_place _
  · rfl

theorem ne_nil_of_bucket? {curriculum : Curriculum} {difficulties : List Difficulty}
    {templates : List Template} (h : bucket? curriculum difficulties = some templates) :
    templates ≠ [] := by
  induction difficulties with
  | nil => cases h
  | cons d rest ih =>
      rw [bucket?] at h
      split at h
      · exact ih h
      · rename_i hsome
        cases h
        exact hsome

theorem bucket?_of_all_eq_nil {curriculum : Curriculum} (h : curriculum.all = [])
    (difficulties : List Difficulty) : bucket? curriculum difficulties = none := by
  induction difficulties with
  | nil => rfl
  | cons d rest ih =>
      have hnone : curriculum.ofDifficulty d = [] := by
        simp [Curriculum.ofDifficulty, h]
      rw [bucket?, hnone]
      exact ih

theorem choose_eq_none_iff : (selector.choose level).1 = none ↔ selector.curriculum.all = [] := by
  unfold choose
  cases hbucket : bucket? selector.curriculum
      (Difficulty.target (Tier.ofLevel level)).atOrBelow with
  | none => exact List.head?_eq_none_iff
  | some templates =>
      have hne := ne_nil_of_bucket? hbucket
      have hlt := selector.place_lt (List.length_pos_iff.mpr hne)
      simp only [List.getElem?_eq_none_iff]
      refine iff_of_false (Nat.not_le_of_lt hlt) ?_
      intro hempty
      rw [bucket?_of_all_eq_nil hempty] at hbucket
      cases hbucket

end Selector

namespace Training

section Places

theorem filter_zipIdx (trainees : List Trainee) (first place : Nat) :
    (trainees.zipIdx first).filter (fun pair => pair.2 = first + place) =
      (trainees[place]?).toList.map fun trainee => (trainee, first + place) := by
  induction trainees generalizing first place with
  | nil => rfl
  | cons trainee rest ih =>
      rw [List.zipIdx_cons]
      cases place with
      | zero =>
          have hlater : (rest.zipIdx (first + 1)).filter (fun pair => pair.2 = first) = [] := by
            rw [List.filter_eq_nil_iff]
            intro pair hpair
            have hle := List.le_snd_of_mem_zipIdx hpair
            simp only [decide_eq_true_eq]
            omega
          simp only [Nat.add_zero, List.filter_cons, decide_true, if_true, hlater]
          rfl
      | succ place =>
          have hrest := ih (first + 1) place
          have hplace : first + 1 + place = first + (place + 1) := by omega
          rw [hplace] at hrest
          have hfirst : ¬ first = first + (place + 1) := by omega
          simp only [List.filter_cons, hfirst, decide_false, Bool.false_eq_true, if_false, hrest]
          rfl

theorem pending_at (trainees : List Trainee) (place : Nat) :
    ((pending trainees).filter fun pair => pair.2 = place).map Prod.fst =
      (trainees[place]?).toList.filter fun trainee => !trainee.atTarget := by
  have hplace := filter_zipIdx trainees 0 place
  rw [Nat.zero_add] at hplace
  have hswap : ((pending trainees).filter fun pair => pair.2 = place) =
      (trainees.zipIdx.filter fun pair => pair.2 = place).filter
        fun pair => !pair.1.atTarget := by
    simp only [pending, List.filter_filter, Bool.and_comm]
  rw [hswap, hplace]
  cases trainees[place]? with
  | none => rfl
  | some trainee => cases hat : trainee.atTarget <;> simp [hat]

theorem triedAt_eq (round : TrainingRound ω) (place : Nat) :
    round.triedAt place =
      ((round.attempts.map Attempt.entry).filter fun pair => pair.2 = place).map Prod.fst := by
  rw [TrainingRound.triedAt, List.filter_map, List.map_map]
  rfl

variable {round : TrainingRound ω}

theorem triedAt_of_all (h : round.attempts.map Attempt.entry = pending round.opening.trainees)
    (place : Nat) : round.triedAt place = round.dueAt place := by
  rw [triedAt_eq, h, pending_at]
  rfl

theorem triedAt_within
    (h : round.attempts.map Attempt.entry <+: pending round.opening.trainees) (place : Nat) :
    round.triedAt place <+: round.dueAt place := by
  rw [triedAt_eq, TrainingRound.dueAt, ← pending_at]
  exact (h.filter _).map _

end Places

section Ending

variable {env : Environment ω} {plan : ArenaPlan} {budget : Nat} {selector : Selector}
  {session last : Session ω} {log : List (TrainingRound ω)} {result : Except Halt Unit}

theorem Course.length_le (h : Course env plan budget selector session log result last) :
    log.length ≤ budget - session.report.questsRun := by
  induction h with
  | spent | halted | converged | unserved => exact Nat.zero_le _
  | cut hbudget =>
      simp only [List.length_singleton]
      omega
  | next hbudget hcheck htargets hchoose hround hrest ih =>
      have hgrows := hround.grows (pending_ne_nil htargets)
      simp only [List.length_cons] at hgrows ⊢
      omega

theorem Course.tried (h : Course env plan budget selector session log result last)
    {earlier later : List (TrainingRound ω)} {round : TrainingRound ω}
    (hlog : log = earlier ++ round :: later) :
    round.attempts.map Attempt.entry <+: pending round.opening.trainees ∧
      (later ≠ [] ∨ result = .ok () →
        round.attempts.map Attempt.entry = pending round.opening.trainees) := by
  induction h generalizing earlier with
  | spent | halted | converged | unserved => exact absurd hlog (by simp)
  | cut hbudget hcheck htargets hchoose hround =>
      cases earlier with
      | nil =>
          cases hlog
          exact ⟨hround.counted.made, fun hwhole => absurd hwhole (by simp)⟩
      | cons first rest => exact absurd hlog (by simp)
  | next hbudget hcheck htargets hchoose hround hrest ih =>
      cases earlier with
      | nil =>
          cases hlog
          have hall := hround.counted.all rfl
          exact ⟨hround.counted.made, fun _ => hall⟩
      | cons first rest =>
          cases hlog
          exact ih rfl

theorem pending_length_le (trainees : List Trainee) :
    (pending trainees).length ≤ trainees.length := by
  rw [length_pending]
  exact List.countP_le_length

theorem Course.count_le (h : Course env plan budget selector session log result last) :
    last.report.questsRun ≤
      max session.report.questsRun (budget + session.trainees.length - 1) := by
  induction h with
  | spent | halted | converged => exact Nat.le_max_left _ _
  | unserved => exact Nat.le_max_left _ _
  | @cut _ _ session last _ _ _ _ hbudget hcheck htargets hchoose hround =>
      have hmost := hround.counted.atMost
      have hpending := pending_length_le session.trainees
      simp only at hmost
      omega
  | @next _ _ session settled last _ _ _ _ _ hbudget hcheck htargets hchoose hround hrest ih =>
      have hmost := hround.counted.atMost
      have hplaces := hround.counted.places
      have hpending := pending_length_le session.trainees
      simp only at hmost hplaces
      omega

/-- All are at their targets, or there was nothing to try from the beginning, which is noted as one
error, or the budget is spent. -/
def HasReason (budget : Nat) (selector : Selector) (session : Session ω)
    (log : List (TrainingRound ω)) (last : Session ω) : Prop :=
  last.trainees.all Trainee.atTarget = true ∨
    (selector.curriculum.all = [] ∧ log = [] ∧
      ∃ text, last.report = session.report.noteError text) ∨
    budget ≤ last.report.questsRun

theorem Course.hasReason (h : Course env plan budget selector session log (.ok ()) last) :
    HasReason budget selector session log last := by
  generalize hresult : (Except.ok () : Except Halt Unit) = result at h
  induction h with
  | spent hspent => exact .inr (.inr hspent)
  | halted => cases hresult
  | converged hbudget hcheck htargets => exact .inl htargets
  | @unserved selector _ session _ hbudget hcheck htargets hchoose =>
      have hnone : (selector.choose (Trainee.averageLevel session.trainees)).1 = none := by
        rw [hchoose]
      exact .inr (.inl ⟨(selector.choose_eq_none_iff _).mp hnone, rfl, _, rfl⟩)
  | cut => cases hresult
  | @next selector _ session _ _ _ _ _ _ _ hbudget hcheck htargets hchoose hround hrest ih =>
      -- A round that was begun had a template, and later selectors choose from the same curriculum.
      have hsome : selector.curriculum.all ≠ [] := by
        intro hempty
        have hnone := (selector.choose_eq_none_iff
          (Trainee.averageLevel session.trainees)).mpr hempty
        rw [hchoose] at hnone
        cases hnone
      have hcurriculum := selector.curriculum_choose (Trainee.averageLevel session.trainees)
      rw [hchoose] at hcurriculum
      rcases ih hresult with htargets | ⟨hempty, -⟩ | hspent
      · exact .inl htargets
      · rw [hcurriculum] at hempty
        exact absurd hempty hsome
      · exact .inr (.inr hspent)

/-- What holds at the end of a training, of the rounds that were begun and of what is left. -/
structure Ends (budget : Nat) (selector : Selector) (session : Session ω)
    (log : List (TrainingRound ω)) (result : Except Halt Unit) (last : Session ω) : Prop where
  /-- There are no more rounds than the budget. -/
  few : log.length ≤ budget
  /-- Nobody is tried who is not due, or more than once; and only the last round of a training that
  is halted may leave out somebody who is due. -/
  tried : ∀ earlier round later, log = earlier ++ round :: later → ∀ place,
    round.triedAt place <+: round.dueAt place ∧
      (later ≠ [] ∨ result = .ok () → round.triedAt place = round.dueAt place)
  /-- The count stays within the budget and one attempt of each trainee. -/
  counted : last.report.questsRun ≤
    max session.report.questsRun (budget + session.trainees.length)
  reason : result = .ok () → HasReason budget selector session log last

/-- A training comes to an end for one of three reasons, whatever the environment does. -/
theorem rounds_end (env : Environment ω) (plan : ArenaPlan) (budget : Nat) (selector : Selector)
    (session : Session ω) :
    ∃ log, Course env plan budget selector session log
        (rounds env plan budget budget selector session).1
        (rounds env plan budget budget selector session).2 ∧
      Ends budget selector session log (rounds env plan budget budget selector session).1
        (rounds env plan budget budget selector session).2 := by
  obtain ⟨log, hcourse⟩ := course_rounds env plan budget selector session budget
    (Nat.le_add_left _ _)
  have hcount := hcourse.count_le
  refine ⟨log, hcourse, Nat.le_trans hcourse.length_le (Nat.sub_le _ _), ?_, by omega, ?_⟩
  · intro earlier round later hlog place
    obtain ⟨hmade, hall⟩ := hcourse.tried hlog
    exact ⟨triedAt_within hmade place, fun hwhole => triedAt_of_all (hall hwhole) place⟩
  · intro hok
    rw [hok] at hcourse
    exact hcourse.hasReason

end Ending

end Training

end QuestAcademy
