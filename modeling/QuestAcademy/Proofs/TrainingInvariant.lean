import QuestAcademy.Training

/-!
What trainings keep. `Upholds` is about a property of the whole session, the trainees and the report
included; `Upholds.rounds` says that a training keeps it if each of its steps does. `Keeps` is the
case of a property of the world beside one of each trainee.
-/

namespace QuestAcademy

variable {ω : Type}

namespace Training

/-- What the steps of a training keep of its session, if it tells what has to hold of the trainees
that are at work. -/
structure Upholds (env : Environment ω) (plan : ArenaPlan) (S : Session ω → Prop)
    (T : Trainee → Prop) : Prop where
  trainees : ∀ {session}, S session → ∀ trainee ∈ session.trainees, T trainee
  check : ∀ {session}, S session → S { session with world := (env.check session.world).2 }
  attempt : ∀ template {trainee session}, T trainee → S session →
    S { session with world := (attempt env plan template trainee session.world).2 }
  settle : ∀ template budget place outcome {trainee session}, T trainee → S session →
    S (settle env template budget trainee place outcome session).2
  noteError : ∀ text {session}, S session →
    S { session with report := session.report.noteError text }

/-- What the calls of a training keep, if they keep what it says of trainees, too. -/
structure Keeps (env : Environment ω) (plan : ArenaPlan) (P : ω → Prop) (T : Trainee → Prop) :
    Prop where
  check : ∀ {world}, P world → P (env.check world).2
  report : ∀ event {world}, P world → P (env.report event world)
  attempt : ∀ template {trainee world}, T trainee → P world →
    P (attempt env plan template trainee world).2
  refresh : ∀ {trainee world}, T trainee → P world →
    P (refresh env.store trainee world).2 ∧ T (refresh env.store trainee world).1

def Kept (P : ω → Prop) (T : Trainee → Prop) (session : Session ω) : Prop :=
  P session.world ∧ ∀ trainee ∈ session.trainees, T trainee

variable {env : Environment ω} {plan : ArenaPlan} {P : ω → Prop} {T : Trainee → Prop}
  {S : Session ω → Prop} {session : Session ω}

section Sessions

theorem Upholds.roundInTurn (h : Upholds env plan S T) (template : Template) (budget : Nat)
    (due : List (Trainee × Nat)) (hdue : ∀ pair ∈ due, T pair.1) (hsession : S session) :
    S (roundInTurn env plan template budget due session).2 := by
  induction due generalizing session with
  | nil => exact hsession
  | cons pair rest ih =>
      obtain ⟨trainee, place⟩ := pair
      have htrainee := hdue _ List.mem_cons_self
      have hattempted := h.attempt template htrainee hsession
      rw [Training.roundInTurn]
      cases hattempt : Training.attempt env plan template trainee session.world with
      | mk outcome after =>
          rw [hattempt] at hattempted
          have hsettled := h.settle template budget place outcome htrainee hattempted
          simp only
          split <;> rename_i heq <;> rw [heq] at hsettled
          · exact hsettled
          · exact ih (fun pair hpair => hdue pair (List.mem_cons_of_mem _ hpair)) hsettled

theorem Upholds.attemptAll (h : Upholds env plan S T) (template : Template)
    (due : List (Trainee × Nat)) (hdue : ∀ pair ∈ due, T pair.1) (hsession : S session) :
    S { session with world := (attemptAll env plan template due session.world).2 } ∧
      ∀ entry ∈ (Training.attemptAll env plan template due session.world).1, T entry.1.1 := by
  induction due generalizing session with
  | nil =>
      refine ⟨hsession, ?_⟩
      intro entry hentry
      cases hentry
  | cons pair rest ih =>
      have htrainee := hdue _ List.mem_cons_self
      obtain ⟨hlast, hrest⟩ := ih (fun pair hpair => hdue pair (List.mem_cons_of_mem _ hpair))
        (h.attempt template htrainee hsession)
      refine ⟨hlast, ?_⟩
      intro entry hentry
      rcases List.mem_cons.mp hentry with rfl | hlater
      · exact htrainee
      · exact hrest entry hlater

theorem Upholds.settleAll (h : Upholds env plan S T) (template : Template) (budget : Nat)
    (outcomes : List ((Trainee × Nat) × Except AttemptError Receipt))
    (houtcomes : ∀ entry ∈ outcomes, T entry.1.1) (hsession : S session) :
    S (settleAll env template budget outcomes session).2 := by
  induction outcomes generalizing session with
  | nil => exact hsession
  | cons entry rest ih =>
      obtain ⟨⟨trainee, place⟩, outcome⟩ := entry
      have hsettled := h.settle template budget place outcome
        (houtcomes _ List.mem_cons_self) hsession
      rw [Training.settleAll]
      split <;> rename_i heq <;> rw [heq] at hsettled
      · exact hsettled
      · exact ih (fun later hlater => houtcomes later (List.mem_cons_of_mem _ hlater)) hsettled

theorem Upholds.round (h : Upholds env plan S T) (template : Template) (budget : Nat)
    (due : List (Trainee × Nat)) (hdue : ∀ pair ∈ due, T pair.1) (hsession : S session) :
    S (round env plan template budget due session).2 := by
  unfold Training.round
  split
  · exact h.roundInTurn template budget due hdue hsession
  · obtain ⟨hattempted, houtcomes⟩ := h.attemptAll template due hdue hsession
    exact h.settleAll template budget _ houtcomes hattempted

theorem Upholds.rounds (h : Upholds env plan S T) (budget fuel : Nat) (selector : Selector)
    (hsession : S session) : S (rounds env plan budget fuel selector session).2 := by
  induction fuel generalizing selector session with
  | zero => exact hsession
  | succ fuel ih =>
      rw [Training.rounds]
      split
      · exact hsession
      · have hchecked := h.check hsession
        split <;> rename_i heq <;> rw [heq] at hchecked
        · exact hchecked
        · simp only
          split
          · exact hchecked
          · split
            · exact h.noteError _ hchecked
            · rename_i template next _
              have hdue : ∀ pair ∈ pending session.trainees, T pair.1 := by
                intro pair hpair
                exact h.trainees hsession pair.1
                  (List.fst_mem_of_mem_zipIdx (List.mem_filter.mp hpair).1)
              have hround := h.round template budget (pending session.trainees) hdue hchecked
              split <;> rename_i hmade <;> rw [hmade] at hround
              · exact hround
              · exact ih next hround

end Sessions

theorem Keeps.settle (h : Keeps env plan P T) (template : Template) (budget : Nat)
    {trainee : Trainee} (htrainee : T trainee) (place : Nat)
    (outcome : Except AttemptError Receipt) (hsession : Kept P T session) :
    Kept P T (settle env template budget trainee place outcome session).2 := by
  unfold Training.settle
  split
  · exact hsession
  · rename_i report _
    obtain ⟨hworld, hrefreshed⟩ := h.refresh htrainee
      (h.report (roundEvent trainee template report.questsRun budget) hsession.1)
    refine ⟨hworld, ?_⟩
    intro other hother
    rcases List.mem_or_eq_of_mem_set hother with hold | rfl
    · exact hsession.2 other hold
    · exact hrefreshed

theorem Keeps.upholds (h : Keeps env plan P T) : Upholds env plan (Kept P T) T where
  trainees := fun hsession => hsession.2
  check := fun hsession => ⟨h.check hsession.1, hsession.2⟩
  attempt := fun template _ _ htrainee hsession =>
    ⟨h.attempt template htrainee hsession.1, hsession.2⟩
  settle := fun template budget place outcome _ _ htrainee hsession =>
    h.settle template budget htrainee place outcome hsession
  noteError := fun _ _ hsession => hsession

end Training

end QuestAcademy
