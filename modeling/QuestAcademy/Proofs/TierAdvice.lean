import QuestAcademy.Proofs.HallReads
import QuestAcademy.Proofs.QuestAccounting
import QuestAcademy.Proofs.TraineeNames

namespace QuestAcademy

variable {ω : Type}

def ArenaPlan.withCounts (plan : ArenaPlan) (tierCounts : Tier → Option Nat) : ArenaPlan :=
  { plan with targets := { plan.targets with tierCounts } }

theorem LevelTargets.validate_counts {targets : LevelTargets} {agents : Nat}
    (h : targets.validate agents = .ok ()) (tierCounts : Tier → Option Nat) :
    LevelTargets.validate { targets with tierCounts } agents = .ok () ↔
      LevelTargets.assigned { targets with tierCounts } ≤ agents := by
  unfold validate at h ⊢
  simp only [cap] at h ⊢
  grind

theorem ArenaPlan.validate_targets {plan : ArenaPlan} (h : plan.validate = .ok ())
    (targets : LevelTargets) :
    ArenaPlan.validate { plan with targets } = targets.validate plan.profiles.length := by
  unfold validate at h ⊢
  grind

/-- Counts are refused only if they speak of more trainees than there are profiles. -/
theorem ArenaPlan.validate_withCounts {plan : ArenaPlan} (h : plan.validate = .ok ())
    (counts : Tier → Option Nat) :
    (plan.withCounts counts).validate = .ok () ↔
      (plan.withCounts counts).targets.assigned ≤ plan.profiles.length := by
  have htargets : plan.targets.validate plan.profiles.length = .ok () :=
    (validate_targets h plan.targets).symm.trans h
  rw [withCounts, validate_targets h]
  exact LevelTargets.validate_counts htargets counts

namespace Training

variable (env : Environment ω) (plan : ArenaPlan) (counts : Tier → Option Nat)

theorem attempt_withCounts (template : Template) :
    attempt env (plan.withCounts counts) template = attempt env plan template := rfl

theorem roundInTurn_withCounts (template : Template) (budget : Nat) (due : List (Trainee × Nat))
    (session : Session ω) :
    roundInTurn env (plan.withCounts counts) template budget due session =
      roundInTurn env plan template budget due session := by
  induction due generalizing session with
  | nil => rfl
  | cons pair rest ih => simp only [roundInTurn, attempt_withCounts, ih]

theorem attemptAll_withCounts (template : Template) (due : List (Trainee × Nat)) (world : ω) :
    attemptAll env (plan.withCounts counts) template due world =
      attemptAll env plan template due world := by
  induction due generalizing world with
  | nil => rfl
  | cons pair rest ih => simp only [attemptAll, attempt_withCounts, ih]

theorem round_withCounts (template : Template) (budget : Nat) (due : List (Trainee × Nat))
    (session : Session ω) :
    round env (plan.withCounts counts) template budget due session =
      round env plan template budget due session := by
  simp only [round, roundInTurn_withCounts, attemptAll_withCounts]
  rfl

theorem rounds_withCounts (budget fuel : Nat) (selector : Selector) (session : Session ω) :
    rounds env (plan.withCounts counts) budget fuel selector session =
      rounds env plan budget fuel selector session := by
  induction fuel generalizing selector session with
  | zero => rfl
  | succ fuel ih => simp only [rounds, round_withCounts, ih]

theorem train_withCounts (curriculum : Curriculum) (session : Session ω) :
    train env (plan.withCounts counts) curriculum session = train env plan curriculum session := by
  simp only [train, rounds_withCounts]
  rfl

end Training

namespace Arena

section Counts

variable (env : Environment ω) (plan : ArenaPlan) (counts : Tier → Option Nat)
  (dryRun idempotent : Bool)

theorem preparePhase_withCounts (session : Session ω) :
    preparePhase env (plan.withCounts counts) dryRun idempotent session =
      preparePhase env plan dryRun idempotent session := by
  refine prepare_congr env dryRun idempotent ?_ ?_ 0 ?_ session
  · rfl
  · rfl
  · rw [List.map_fst_zip (length_tierGoals _ _), List.map_fst_zip (length_tierGoals _ _)]
    rfl

theorem ensureMentors_withCounts (session : Session ω) :
    ensureMentors env (plan.withCounts counts) dryRun session =
      ensureMentors env plan dryRun session := rfl

theorem ready_withCounts (session : Session ω) :
    ready env (plan.withCounts counts) dryRun idempotent session =
      ready env plan dryRun idempotent session := by
  have hprepare := preparePhase_withCounts env plan counts dryRun idempotent
  simp only [preparePhase] at hprepare
  simp only [ready, hprepare, ensureMentors_withCounts]
  rfl

theorem run_eq_withCounts (hvalid : plan.validate = .ok ())
    (hother : (plan.withCounts counts).validate = .ok ()) (world : ω) :
    run env (plan.withCounts counts) dryRun idempotent world =
      run env plan dryRun idempotent world := by
  simp only [run, hvalid, hother, phases_eq, ready_withCounts, Training.train_withCounts]

end Counts

section Seats

variable {env : Environment ω} {plan : ArenaPlan} {dryRun idempotent : Bool}

/-- The name of a trainee, where it is stored and how far it is to come. -/
def seat (trainee : Trainee) : String × String × Nat :=
  (trainee.agent.name, trainee.key, trainee.target)

/-- One seat for each of some profiles, the first of which is the next after so many. All of them
are to come equally far. -/
def seats (targets : LevelTargets) (done : Nat) (profiles : List TraineeProfile) :
    List (String × String × Nat) :=
  (profiles.zipIdx (done + 1)).map fun (profile, ordinal) =>
    (profile.traineeName ordinal, instanceKey (profile.traineeName ordinal),
      min targets.minLevel (targets.maxLevel.getD Level.highest))

theorem name_prepareOne {store : StoreAccess ω} {profile : TraineeProfile} {name : String}
    {preparation : Preparation} {world after : ω}
    (h : prepareOne store dryRun idempotent profile name world = (.ok preparation, after)) :
    preparation.agent.name = name := by
  cases prepares_of_prepareOne h with
  | dry | created => rfl
  | reused _ hfind => exact StoreAccess.name_of_findByName hfind

theorem seat_enlist {store : StoreAccess ω} {profile : TraineeProfile} {name : String}
    {preparation : Preparation} {world after : ω}
    (h : prepareOne store dryRun idempotent profile name world = (.ok preparation, after))
    (target : Nat) (session : Session ω) :
    (enlist name target preparation session).trainees.map seat =
      session.trainees.map seat ++ [(name, instanceKey name, target)] := by
  rw [trainees_enlist, List.map_append, ← name_prepareOne h]
  rfl

/-- Trainees are prepared one per profile and in the order of the profiles, and all of them if
nothing goes wrong. -/
theorem seats_prepare (done : Nat) (profiles : List (TraineeProfile × Nat))
    (session : Session ω) :
    (prepare env plan dryRun idempotent done profiles session).2.trainees.map seat <+:
        session.trainees.map seat ++ seats plan.targets done (profiles.map Prod.fst) ∧
      ((prepare env plan dryRun idempotent done profiles session).1 = .ok () ↔
        (prepare env plan dryRun idempotent done profiles session).2.trainees.map seat =
          session.trainees.map seat ++ seats plan.targets done (profiles.map Prod.fst)) := by
  induction profiles generalizing done session with
  | nil => simp [prepare, seats]
  | cons pair rest ih =>
      obtain ⟨profile, goal⟩ := pair
      -- The goal of the profile is dropped here; its seat has the level of the whole plan.
      have hseats : seats plan.targets done (((profile, goal) :: rest).map Prod.fst) =
          (profile.traineeName (done + 1), instanceKey (profile.traineeName (done + 1)),
            plan.targets.convergenceLevel) :: seats plan.targets (done + 1) (rest.map Prod.fst) :=
        rfl
      rw [hseats, prepare]
      split
      · exact ⟨List.prefix_append _ _, by simp⟩
      · simp only
        split
        · exact ⟨List.prefix_append _ _, by simp⟩
        · rename_i made after hmade
          have hrest := ih (done + 1) (enlist (profile.traineeName (done + 1))
            plan.targets.convergenceLevel made { session with world := after })
          rw [seat_enlist hmade, List.append_assoc] at hrest
          exact hrest

theorem seats_preparePhase (checked : ω) :
    let outcome := preparePhase env plan dryRun idempotent (.start dryRun checked)
    outcome.2.trainees.map seat <+: seats plan.targets 0 plan.profiles ∧
      (outcome.1 = .ok () ↔
        outcome.2.trainees.map seat = seats plan.targets 0 plan.profiles) := by
  have hseats := @seats_prepare ω env plan dryRun idempotent 0
    (plan.profiles.zip (plan.targets.tierGoals plan.profiles.length))
    (.start dryRun checked)
  rw [List.map_fst_zip (length_tierGoals _ _)] at hseats
  exact hseats

theorem prepared_of_run {world after : ω} {report : Report}
    (h : run env plan dryRun idempotent world = (.ok report, after)) :
    ∃ checked prepared, env.check world = (.ok (), checked) ∧
      preparePhase env plan dryRun idempotent (.start dryRun checked) = (.ok (), prepared) := by
  obtain ⟨log, hrun⟩ := run_run env plan dryRun idempotent world
  rw [h] at hrun
  cases hrun with
  | completed hvalid hcourse =>
      have hready : ∃ curriculum opening, ready env plan dryRun idempotent (.start dryRun world) =
          (.ok curriculum, opening) := by
        generalize hresult : (Except.ok () : Except SeedError Unit) = result at hcourse
        cases hcourse with
        | unready => cases hresult
        | dry hdry hready => exact ⟨_, _, hready⟩
        | trained hdry hready => exact ⟨_, _, hready⟩
      obtain ⟨curriculum, opening, hready⟩ := hready
      obtain ⟨checked, prepared, hcheck, hprepare, -⟩ := phases_of_ready _ _ _ _ hready
      exact ⟨checked, prepared, hcheck, hprepare⟩

end Seats

/-- Counts of the tiers change nothing about a run, neither what it answers nor what it leaves
behind. It prepares trainees in the order of the profiles and one for each profile, all of them if
it comes to its end, and each for the lowest level of the plan, or for the cap if that is lower. -/
theorem run_withCounts (env : Environment ω) (plan : ArenaPlan) (counts : Tier → Option Nat)
    (dryRun idempotent : Bool) (hvalid : plan.validate = .ok ())
    (hother : (plan.withCounts counts).validate = .ok ()) (world : ω) :
    run env (plan.withCounts counts) dryRun idempotent world =
        run env plan dryRun idempotent world ∧
      (∀ checked,
        let outcome := preparePhase env (plan.withCounts counts) dryRun idempotent
          (.start dryRun checked)
        outcome = preparePhase env plan dryRun idempotent (.start dryRun checked) ∧
          outcome.2.trainees.map seat <+: seats plan.targets 0 plan.profiles ∧
          (outcome.1 = .ok () ↔
            outcome.2.trainees.map seat = seats plan.targets 0 plan.profiles)) ∧
      ∀ report after,
        run env (plan.withCounts counts) dryRun idempotent world = (.ok report, after) →
        ∃ checked prepared, env.check world = (.ok (), checked) ∧
          preparePhase env (plan.withCounts counts) dryRun idempotent (.start dryRun checked) =
            (.ok (), prepared) ∧
          prepared.trainees.map seat = seats plan.targets 0 plan.profiles := by
  refine ⟨run_eq_withCounts env plan counts dryRun idempotent hvalid hother world,
    fun checked => ⟨preparePhase_withCounts env plan counts dryRun idempotent _,
      seats_preparePhase checked⟩, fun report after h => ?_⟩
  obtain ⟨checked, prepared, hcheck, hprepare⟩ := prepared_of_run h
  obtain ⟨-, hall⟩ :=
    @seats_preparePhase ω env (plan.withCounts counts) dryRun idempotent checked
  rw [hprepare] at hall
  exact ⟨checked, prepared, hcheck, hprepare, hall.mp rfl⟩

/-- One of three scouts is advised to become an expert; all three are trained up to level 5. -/
theorem run_withCounts_scouts :
    let counts : Tier → Option Nat := fun | .expert => some 1 | _ => none
    let advised := scouts.withCounts counts
    let world := Rehearsal.onStore .scouted
    advised.targets.tierGoals 3 ≠ scouts.targets.tierGoals 3 ∧
      run Rehearsal.quiet advised false true world = run Rehearsal.quiet scouts false true world ∧
      ∃ checked prepared, Rehearsal.quiet.check world = (.ok (), checked) ∧
        preparePhase Rehearsal.quiet advised false true (.start false checked) =
          (.ok (), prepared) ∧
        prepared.trainees.map seat = [("scout-1", "scout-1", 5), ("scout-2", "scout-2", 5),
          ("scout-3", "scout-3", 5)] := by
  intro counts advised world
  obtain ⟨hrun, -, hseats⟩ := run_withCounts Rehearsal.quiet scouts counts false true
    rfl ((ArenaPlan.validate_withCounts rfl counts).mpr (by decide)) world
  have hends : (run Rehearsal.quiet scouts false true world).1.toOption.map Report.success =
      some true := by
    decide +kernel
  obtain ⟨report, after, hreport, -⟩ := exists_ok_of_map hends
  obtain ⟨checked, prepared, hcheck, hprepare, hprepared⟩ :=
    hseats report after (hrun.trans hreport)
  refine ⟨by decide, hrun, checked, prepared, hcheck, hprepare, hprepared.trans ?_⟩
  decide +kernel

end Arena

end QuestAcademy
