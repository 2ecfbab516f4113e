import QuestAcademy.Proofs.ProgressionInvariant
import QuestAcademy.Proofs.TraineePreparation
import QuestAcademy.Proofs.TrainingConvergence

namespace QuestAcademy

variable {ω : Type}

theorem ArenaPlan.convergenceLevel_le {plan : ArenaPlan} (h : plan.validate = .ok ()) :
    plan.targets.convergenceLevel ≤ Level.highest := by
  have htargets : plan.targets.validate plan.profiles.length = .ok () := by
    -- The targets are checked last: an earlier check that fails is not the answer of `h`.
    unfold validate at h
    repeat' split at h
    all_goals first
      | exact h
      | cases h
  have hvalid : Level.isValid plan.targets.minLevel = true := by
    unfold LevelTargets.validate at htargets
    split at htargets
    · cases htargets
    · rename_i hnot
      simpa using hnot
  simp only [Level.isValid, Bool.and_eq_true, decide_eq_true_eq] at hvalid
  exact Nat.le_trans (Nat.min_le_left _ _) hvalid.2

theorem Arena.Run.training {env : Environment ω} {plan : ArenaPlan} {idempotent : Bool} {world : ω}
    {log : List (TrainingRound ω)} {answer : Except Failure Report} {after : ω}
    (h : Run env plan false idempotent world log answer after) (hvalid : plan.validate = .ok ())
    {curriculum : Curriculum} {opening : Session ω}
    (hready : ready env plan false idempotent (.start false world) = (.ok curriculum, opening)) :
    ∃ result last, Training.Course env plan (Training.budget plan opening.trainees.length)
        (Selector.create curriculum plan.selection) opening log result last ∧
      (result = .ok () → ∃ report, answer = .ok report ∧
        after = (refreshAll env.store last.trainees last.world).2) := by
  have hphases : ∀ {answer : Except SeedError Unit} {last : Session ω},
      Course env plan false idempotent world log answer last →
      ∃ result, answer = result.mapError .halted ∧
        Training.Course env plan (Training.budget plan opening.trainees.length)
          (Selector.create curriculum plan.selection) opening log result last := by
    intro answer last hcourse
    cases hcourse with
    | unready hfailed =>
        rw [hready] at hfailed
        cases hfailed
    | dry hdry => cases hdry
    | @trained _ _ _ _ result hdry hagain hcourse =>
        rw [hready] at hagain
        cases hagain
        exact ⟨result, rfl, hcourse⟩
  cases h with
  | refused hfault =>
      rw [hvalid] at hfault
      cases hfault
  | @failed _ _ last _ hcourse =>
      obtain ⟨result, hanswer, htraining⟩ := hphases hcourse
      refine ⟨result, last, htraining, ?_⟩
      rintro rfl
      cases hanswer
  | @completed _ last _ _ _ hcourse hread =>
      obtain ⟨result, -, htraining⟩ := hphases hcourse
      refine ⟨result, last, htraining, fun _ => ⟨_, rfl, ?_⟩⟩
      rw [if_neg Bool.false_ne_true] at hread
      rw [hread]

namespace Training

variable {env : Environment ω} {plan : ArenaPlan} {trainee : Trainee} {place : Nat}

theorem InTurn.of_single {template : Template} {budget : Nat} {session last : Session ω}
    {attempts : List (Attempt ω)} {result : Except Halt Unit}
    (h : InTurn env plan template budget [(trainee, place)] session attempts result last) :
    ∀ attempt ∈ attempts, attempt.trainee = trainee ∧ attempt.before = session.world := by
  cases h with
  | halted hattempt hsettle => simp
  | next hattempt hsettle hrest =>
      cases hrest
      simp

def IsFirst (env : Environment ω) (selector : Selector) (opening : Session ω) (trainee : Trainee)
    (round : TrainingRound ω) : Prop :=
  (selector.choose (Trainee.averageLevel opening.trainees)).1 = some round.template ∧
    ∀ attempt ∈ round.attempts, attempt.trainee = trainee ∧
      attempt.before = (env.check opening.world).2

/-- With one trainee and one quest to try, there is no round but the first. -/
theorem Course.isFirst {selector : Selector} {opening last : Session ω}
    {log : List (TrainingRound ω)} {result : Except Halt Unit} (hturn : plan.concurrency ≤ 1)
    (h : Course env plan 1 selector opening log result last)
    (hdue : pending opening.trainees = [(trainee, place)]) :
    ∀ round ∈ log, IsFirst env selector opening trainee round := by
  have hround : ∀ {template : Template} {next : Selector} {checked : ω}
      {attempts : List (Attempt ω)} {result : Except Halt Unit} {last : Session ω},
      env.check opening.world = (.ok (), checked) →
      selector.choose (Trainee.averageLevel opening.trainees) = (some template, next) →
      Made env plan template 1 (pending opening.trainees) { opening with world := checked } attempts
        result last →
      IsFirst env selector opening trainee
        { template, opening := { opening with world := checked }, attempts } := by
    intro template next checked attempts result last hcheck hchoose hmade
    rw [hdue] at hmade
    unfold IsFirst
    rw [hcheck, hchoose]
    cases hmade with
    | inTurn _ hmade => exact ⟨rfl, hmade.of_single⟩
    | atOnce hmany => exact absurd hturn hmany
  have hlength := h.length_le
  cases h with
  | spent | halted | converged | unserved => simp
  | cut _ hcheck _ hchoose hmade =>
      intro round hmem
      rw [List.mem_singleton.mp hmem]
      exact hround hcheck hchoose hmade
  | @next _ _ _ _ _ _ _ _ later _ _ hcheck _ hchoose hmade _ =>
      have hlater : later = [] := List.length_eq_zero_iff.mp (by
        rw [List.length_cons] at hlength
        omega)
      subst hlater
      intro round hmem
      rw [List.mem_singleton.mp hmem]
      exact hround hcheck hchoose hmade

end Training

namespace Environment

variable {env : Environment ω} {view : HallView ω} {plan : ArenaPlan} {idempotent : Bool}
  {world : ω} {least : Nat}

theorem Hosts.tallied_ready (hosts : env.Hosts view) {curriculum : Curriculum} {opening : Session ω}
    (hready : Arena.ready env plan false idempotent (.start false world) =
      (.ok curriculum, opening))
    (hseen : env.SeenAsStored view opening) (hsteps : (view.hall world).store.AllInStep)
    (least : Nat) :
    env.Tallied view least plan.questsPerTrainee plan.targets.convergenceLevel opening
      (opening.trainees.map fun trainee => (trainee, 0)) := by
  have hinStep := Arena.PreservesSeeding.ready hosts.preserves_allInStep.toPreservesSeeding plan
    false idempotent (.start false world) hsteps
  rw [hready] at hinStep
  have hposts := Arena.post_ready hready
  refine ⟨hseen.ready, ?_, ?_, ?_, ?_, ?_⟩
  · rw [List.map_map]
    exact (List.map_id _).symm
  · rw [Arena.keys_ready hready]
    exact Arena.nodup_traineeKeys 0 plan.profiles
  · rw [(Arena.ready_counts env plan false idempotent hready).2, List.map_map]
    simp [Function.comp_def]
  · refine List.forall_mem_map.mpr fun trainee htrainee => ?_
    have hstored := hseen.stored trainee htrainee
    refine ⟨?_, hstored, hinStep _ _ hstored, by simp⟩
    have hpost := List.mem_map_of_mem (f := Arena.post) htrainee
    rw [hposts] at hpost
    obtain ⟨key, -, hkey⟩ := List.mem_map.mp hpost
    exact (congrArg Prod.snd hkey).symm
  · exact List.forall_mem_map.mpr fun _ _ => Nat.zero_le _

/-- A budget that pays for the target is enough. When work may go on, every call of an attempt
succeeds and every verdict passes, the run comes to its end; every trainee is then stored at its
target or above, and none has tried more quests than it may. -/
theorem Hosts.run_converges (hosts : env.Hosts view) (hpermits : env.Permits view.works)
    (hvalid : plan.validate = .ok ()) {curriculum : Curriculum}
    (hload : (TemplateSource.choose plan.domain plan.questFile).load env.folder = .ok curriculum)
    (htemplates : curriculum.all ≠ [])
    (hmentors : plan.mentored = false ∨ plan.bootstrapMentors = 0) (hworks : view.works world)
    (hhall : (view.hall world).Ready env.store.space)
    (hsteps : (view.hall world).store.AllInStep)
    (henough : 50 * plan.targets.convergenceLevel * (plan.targets.convergenceLevel - 1) ≤
      plan.questsPerTrainee * least)
    (hlimit : plan.questsPerTrainee * plan.profiles.length ≤ ordinalLimit)
    (idempotent : Bool) (log : List (TrainingRound ω)) :
    let run := Arena.run env plan false idempotent world
    Arena.Run env plan false idempotent world log run.1 run.2 →
      (∀ round ∈ log, ∀ attempt ∈ round.attempts,
        attempt.Passes env plan round.template least) →
      (∃ report, run.1 = .ok report) ∧
        (∀ key ∈ Arena.traineeKeys 0 plan.profiles, ∃ agent,
          (view.hall run.2).store.agents.find? key = some agent ∧
            plan.targets.convergenceLevel ≤ agent.level) ∧
        ∀ place, (log.map fun round => (round.triedAt place).length).sum ≤
          plan.questsPerTrainee := by
  intro run hrun hpasses
  obtain ⟨opening, hready, hseen⟩ :=
    hosts.ready_eq hpermits ⟨hworks, hhall⟩ hload hmentors idempotent
  have htallied := hosts.tallied_ready hready hseen hsteps least
  have hlength := (Arena.ready_counts env plan false idempotent hready).1
  rw [Nat.mul_comm plan.questsPerTrainee least] at henough
  obtain ⟨result, last, hcourse, hends⟩ := hrun.training hvalid hready
  have hbudget : plan.questsPerTrainee *
      (opening.trainees.map fun trainee => (trainee, 0)).length ≤
        Training.budget plan opening.trainees.length := by
    rw [List.length_map, Training.budget, hlength, Nat.min_eq_right hlimit]
  obtain ⟨hok, final, hfinal⟩ := hosts.converges_course hpermits hcourse htallied
    (ArenaPlan.convergenceLevel_le hvalid) henough hbudget htemplates hpasses
  obtain ⟨report, hreport, hafter⟩ := hends hok
  refine ⟨⟨report, hreport⟩, ?_, ?_⟩
  · intro key hkey
    rw [← Arena.keys_ready hready] at hkey
    have hkeys := hfinal.keys
    rw [List.map_map] at hkeys
    change final.map (fun entry => entry.1.key) = opening.trainees.map Trainee.key at hkeys
    rw [← hkeys] at hkey
    obtain ⟨entry, hentry, rfl⟩ := List.mem_map.mp hkey
    refine ⟨entry.1.agent, ?_, hfinal.reached entry hentry⟩
    rw [hafter, (hosts.refreshAll_eq last.trainees hfinal.tallied.ready.1).2]
    exact (hfinal.tallied.pays entry hentry).stored
  · intro place
    have hcount := hfinal.counts place
    have hmost := Training.countAt_le hfinal.tallied.within place
    rw [hcount] at hmost
    exact Nat.le_trans (Nat.le_add_left _ _) hmost

end Environment

namespace Rehearsal

def crashCourse : ArenaPlan :=
  { ArenaPlan.default with
    profiles := [{ name := "scout", skills := [], modelSettings := none }]
    targets := { LevelTargets.default with minLevel := 2 }
    questsPerTrainee := 1
    multiplier := 6 }

theorem load_crashCourse :
    (TemplateSource.choose crashCourse.domain crashCourse.questFile).load quiet.folder =
      .ok (.ofCollection Bundled.general) := rfl

theorem ready_scouted : (lasting.hall (onStore .scouted)).Ready Store.defaultSpace :=
  ⟨Store.wellKeyed_scouted, Store.working_scouted, rfl⟩

theorem verdict_crashCourse :
    let opening := (Arena.ready quiet crashCourse false true (.start false (onStore .scouted))).2
    let selector := Selector.create (.ofCollection Bundled.general) crashCourse.selection
    (do
      let template ← (selector.choose (Trainee.averageLevel opening.trainees)).1
      let pair ← (Training.pending opening.trainees).head?
      let verdict ← Training.verdict? quiet crashCourse template pair.1
        (quiet.check opening.world).2
      return (verdict.passed, verdict.award)) = some (true, 120) := by
  decide +kernel

theorem passes_crashCourse {log : List (TrainingRound Rehearsal)}
    (hrun : Arena.Run quiet crashCourse false true (onStore .scouted) log
      (Arena.run quiet crashCourse false true (onStore .scouted)).1
      (Arena.run quiet crashCourse false true (onStore .scouted)).2) :
    ∀ round ∈ log, ∀ attempt ∈ round.attempts,
      attempt.Passes quiet crashCourse round.template 100 := by
  obtain ⟨opening, hready, -⟩ := hosts_quiet_lasting.ready_eq permits_quiet
    ⟨works_lasting_onStore _, ready_scouted⟩ load_crashCourse (.inl rfl) true
  obtain ⟨htrainees, hnone⟩ := Arena.ready_counts quiet crashCourse false true hready
  have hverdict := verdict_crashCourse
  simp only [hready, Option.bind_eq_bind, Option.bind_eq_some_iff, Option.pure_def,
    Option.some.injEq, Prod.mk.injEq] at hverdict
  obtain ⟨template, hchosen, ⟨trainee, place⟩, hhead, verdict, hverdict, hpassed, haward⟩ :=
    hverdict
  have hpending : Training.pending opening.trainees = [(trainee, place)] := by
    obtain ⟨others, hdue⟩ := List.head?_eq_some_iff.mp hhead
    have hfew := Training.pending_length_le opening.trainees
    rw [hdue, htrainees, List.length_cons] at hfew
    rw [hdue, List.length_eq_zero_iff.mp (Nat.le_zero.mp (Nat.le_of_succ_le_succ hfew))]
  obtain ⟨result, last, hcourse, -⟩ := hrun.training (by rfl) hready
  have hone : Training.budget crashCourse opening.trainees.length = 1 := by
    rw [htrainees]
    decide
  rw [hone] at hcourse
  intro round hround attempt hattempt
  obtain ⟨htemplate, hmade⟩ := hcourse.isFirst (by decide) hpending round hround
  obtain ⟨htrainee, hbefore⟩ := hmade attempt hattempt
  rw [htemplate] at hchosen
  cases hchosen
  refine ⟨verdict, ?_, hpassed, by omega⟩
  rw [htrainee, hbefore]
  exact hverdict

theorem run_converges_crashCourse :
    let run := Arena.run quiet crashCourse false true (onStore .scouted)
    (∃ report, run.1 = .ok report) ∧
      ∃ agent, run.2.store.agents.find? "scout-1" = some agent ∧ 2 ≤ agent.level := by
  obtain ⟨log, hrun⟩ := Arena.run_run quiet crashCourse false true (onStore .scouted)
  obtain ⟨hok, hlevels, -⟩ := hosts_quiet_lasting.run_converges permits_quiet (by rfl)
    load_crashCourse (by decide) (.inl rfl) (works_lasting_onStore _) ready_scouted
    Store.allInStep_scouted (by decide) (by decide) true log hrun (passes_crashCourse hrun)
  exact ⟨hok, hlevels "scout-1" (by decide +kernel)⟩

end Rehearsal

end QuestAcademy
