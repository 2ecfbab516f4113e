import Mathlib.Algebra.Order.BigOperators.Group.List
import QuestAcademy.Proofs.PassingRound
import QuestAcademy.Proofs.TrainingEnd
import QuestAcademy.Proofs.TrainingOrder

namespace QuestAcademy

variable {ω : Type}

namespace Training

section Tallies

def countUp (store : Store) (entry : Trainee × Nat) : Trainee × Nat :=
  if entry.1.atTarget then entry else (entry.1.seenIn store, entry.2 + 1)

def countAt (tally : List (Trainee × Nat)) (place : Nat) : Nat :=
  (tally[place]?).elim 0 Prod.snd

variable (store : Store) (tally : List (Trainee × Nat))

variable {tally} in
theorem countAt_le {most : Nat} (h : ∀ entry ∈ tally, entry.2 ≤ most) (place : Nat) :
    countAt tally place ≤ most := by
  unfold countAt
  cases hplace : tally[place]? with
  | none => exact Nat.zero_le _
  | some entry => exact h entry (List.mem_of_getElem? hplace)

theorem fst_countUp : (tally.map (countUp store)).map Prod.fst =
    (tally.map Prod.fst).map fun trainee =>
      if trainee.atTarget then trainee else trainee.seenIn store := by
  rw [List.map_map, List.map_map]
  refine List.map_congr_left fun entry _ => ?_
  simp only [Function.comp_apply, countUp]
  split <;> rfl

theorem key_countUp (entry : Trainee × Nat) : (countUp store entry).1.key = entry.1.key := by
  unfold countUp
  split <;> rfl

theorem sum_countUp : ((tally.map (countUp store)).map Prod.snd).sum =
    (tally.map Prod.snd).sum + (pending (tally.map Prod.fst)).length := by
  rw [length_pending]
  induction tally with
  | nil => rfl
  | cons entry rest ih =>
      simp only [List.map_cons, List.sum_cons, List.countP_cons, countUp, ih]
      cases entry.1.atTarget <;> simp <;> omega

theorem countAt_countUp (place : Nat) {round : TrainingRound ω}
    (hopening : round.opening.trainees = tally.map Prod.fst) :
    countAt (tally.map (countUp store)) place =
      countAt tally place + (round.dueAt place).length := by
  rw [TrainingRound.dueAt, hopening]
  simp only [countAt, List.getElem?_map]
  cases tally[place]? with
  | none => rfl
  | some entry =>
      simp only [Option.map_some, Option.elim_some, countUp, Option.toList_some, List.filter_cons,
        List.filter_nil]
      cases entry.1.atTarget <;> rfl

theorem eq_of_le_sum {counts : List Nat} {most : Nat} (hmost : ∀ count ∈ counts, count ≤ most)
    (hsum : most * counts.length ≤ counts.sum) : ∀ count ∈ counts, count = most := by
  induction counts with
  | nil => simp
  | cons first rest ih =>
      obtain ⟨hfirst, hrest⟩ := List.forall_mem_cons.mp hmost
      have hbound : rest.sum ≤ rest.length * most := List.sum_le_card_nsmul rest most hrest
      rw [List.length_cons, Nat.mul_succ, List.sum_cons] at hsum
      rw [Nat.mul_comm] at hbound
      exact List.forall_mem_cons.mpr ⟨by omega, ih hrest (by omega)⟩

end Tallies

end Training

/-- A trainee that is stored as it was last seen, and whom each of so many quests has paid. -/
structure Hall.Pays (hall : Hall) (least target : Nat) (trainee : Trainee) (count : Nat) :
    Prop where
  target : trainee.target = target
  stored : hall.store.agents.find? trainee.key = some trainee.agent
  inStep : trainee.agent.InStep
  earned : min (Level.price Level.highest) (least * count) ≤ trainee.agent.total

/-- Who has been paid the price of its target is at its target. -/
theorem Hall.Pays.atTarget {hall : Hall} {least target count : Nat} {trainee : Trainee}
    (h : hall.Pays least target trainee count) (htarget : target ≤ Level.highest)
    (hpaid : Level.price target ≤ least * count) : target ≤ trainee.agent.level :=
  h.inStep.le_level htarget
    (Nat.le_trans (Nat.le_min.mpr ⟨Level.price_mono htarget, hpaid⟩) h.earned)

namespace Environment

variable {env : Environment ω} {view : HallView ω} {plan : ArenaPlan} {template : Template}
  {least most target budget : Nat} {session last : Session ω} {tally : List (Trainee × Nat)}

/-- In a hall that is ready, each trainee has been paid for the quests it has tried, which are not
too many. -/
structure Tallied (env : Environment ω) (view : HallView ω) (least most target : Nat)
    (session : Session ω) (tally : List (Trainee × Nat)) : Prop where
  ready : env.HallReady view session.world
  trainees : session.trainees = tally.map Prod.fst
  distinct : (session.trainees.map Trainee.key).Nodup
  counted : session.report.questsRun = (tally.map Prod.snd).sum
  pays : ∀ entry ∈ tally, (view.hall session.world).Pays least target entry.1 entry.2
  within : ∀ entry ∈ tally, entry.2 ≤ most

theorem Tallied.checked (h : env.Tallied view least most target session tally)
    (hosts : env.Hosts view) {permit : Except Halt Unit} {world : ω}
    (hcheck : env.check session.world = (permit, world)) :
    env.Tallied view least most target { session with world } tally := by
  obtain ⟨hready, hsame⟩ := h.ready.checked hosts hcheck
  refine ⟨hready, h.trainees, h.distinct, h.counted, ?_, h.within⟩
  rw [hsame]
  exact h.pays

theorem Tallied.fit (h : env.Tallied view least most target session tally) :
    env.SessionFit view session where
  works := h.ready.1
  tidy := ⟨h.ready.2.keyed, h.ready.2.numbered⟩
  keyed := by
    rw [h.trainees]
    intro trainee htrainee
    obtain ⟨entry, hentry, rfl⟩ := List.mem_map.mp htrainee
    exact h.ready.2.keyed.id _ _ (h.pays entry hentry).stored
  distinct := h.distinct

section Rounds

variable {attempts : List (Attempt ω)} {result : Except Halt Unit}

theorem Tallied.pays_countUp (h : env.Tallied view least most target session tally)
    (hrewarded : env.Rewarded view least (Training.pending session.trainees) session last)
    (htarget : target ≤ Level.highest) (henough : Level.price target ≤ least * most) :
    ∀ entry ∈ tally, let counted := Training.countUp (view.hall last.world).store entry
      (view.hall last.world).Pays least target counted.1 counted.2 ∧ counted.2 ≤ most := by
  rintro ⟨trainee, count⟩ hentry
  have hpays := h.pays _ hentry
  have hmem : trainee ∈ session.trainees := by
    rw [h.trainees]
    exact List.mem_map_of_mem hentry
  simp only [Training.countUp]
  cases hat : trainee.atTarget with
  | true =>
      -- Only trainees below their targets are due, and no other trainee has this key.
      have hnot : trainee.key ∉
          (Training.pending session.trainees).map fun pair => pair.1.key := by
        intro hdue
        obtain ⟨⟨other, place⟩, hpair, hkey⟩ := List.mem_map.mp hdue
        obtain ⟨hplace, hbelow⟩ := Training.mem_pending.mp hpair
        have hsame := List.inj_on_of_nodup_map h.distinct (List.mem_of_getElem? hplace) hmem hkey
        rw [hsame, hat] at hbelow
        cases hbelow
      rw [if_pos rfl]
      refine ⟨⟨hpays.target, ?_, hpays.inStep, hpays.earned⟩, h.within _ hentry⟩
      rw [hrewarded.raises.others _ hnot]
      exact hpays.stored
  | false =>
      obtain ⟨place, hplace⟩ := List.getElem?_of_mem hmem
      have hdue : trainee.key ∈
          (Training.pending session.trainees).map fun pair => pair.1.key :=
        List.mem_map.mpr ⟨(trainee, place), Training.mem_pending.mpr ⟨hplace, hat⟩, rfl⟩
      obtain ⟨final, hfinal, hgains⟩ :=
        hrewarded.raises.raised _ hdue trainee.agent hpays.stored hpays.inStep
      have hless : count < most := by
        refine Nat.lt_of_not_le fun hall => ?_
        have hpaid := Nat.le_trans henough (Nat.mul_le_mul_left least hall)
        have hlevel := hpays.atTarget htarget hpaid
        rw [← hpays.target] at hlevel
        simp [Trainee.atTarget, hlevel] at hat
      rw [if_neg Bool.false_ne_true,
        Trainee.seenIn_of_stored hrewarded.ready.2.working.reads hfinal]
      refine ⟨⟨hpays.target, hfinal, hgains.inStep, ?_⟩, hless⟩
      have hbefore := hpays.earned
      have hafter := hgains.total
      simp only [Nat.mul_succ] at hbefore hafter ⊢
      omega

theorem Hosts.tallied_made (hosts : env.Hosts view)
    (h : env.Tallied view least most target session tally) (htarget : target ≤ Level.highest)
    (henough : Level.price target ≤ least * most)
    (hmade : Training.Made env plan template budget (Training.pending session.trainees) session
      attempts result last)
    (hpasses : ∀ attempt ∈ attempts, attempt.Passes env plan template least) :
    result = .ok () ∧ env.Tallied view least most target last
      (tally.map (Training.countUp (view.hall last.world).store)) := by
  obtain ⟨rfl, hrewarded⟩ := hosts.rewarded hmade h.ready h.fit.due hpasses
  have hcounted := hmade.counted
  have hlength := congrArg List.length (hcounted.all rfl)
  rw [List.length_map] at hlength
  have hpays := h.pays_countUp hrewarded htarget henough
  have htrainees : last.trainees =
      (tally.map (Training.countUp (view.hall last.world).store)).map Prod.fst := by
    rw [hrewarded.reread.eq_map, h.trainees, Training.fst_countUp]
  refine ⟨rfl, hrewarded.ready, htrainees, ?_, ?_, ?_, ?_⟩
  · have hkeys : last.trainees.map Trainee.key = session.trainees.map Trainee.key := by
      rw [htrainees, h.trainees, List.map_map, List.map_map, List.map_map]
      exact List.map_congr_left fun entry _ => Training.key_countUp _ entry
    rw [hkeys]
    exact h.distinct
  · rw [hcounted.exact rfl, hlength, h.counted, Training.sum_countUp, h.trainees]
  · exact List.forall_mem_map.mpr fun entry hentry => (hpays entry hentry).1
  · exact List.forall_mem_map.mpr fun entry hentry => (hpays entry hentry).2

end Rounds

/-- When the budget is spent, everybody has been paid for as many quests as may be tried. -/
theorem Tallied.atTarget_of_spent (h : env.Tallied view least most target session tally)
    (htarget : target ≤ Level.highest) (henough : Level.price target ≤ least * most)
    (hspent : most * tally.length ≤ session.report.questsRun) :
    ∀ entry ∈ tally, target ≤ entry.1.agent.level := by
  rw [h.counted] at hspent
  have hall := Training.eq_of_le_sum (List.forall_mem_map.mpr h.within) (by
    rw [List.length_map]
    exact hspent)
  intro entry hentry
  refine (h.pays entry hentry).atTarget htarget ?_
  rw [hall entry.2 (List.mem_map_of_mem hentry)]
  exact henough

/-- What comes of a training: everybody is at the target, and every quest was counted. -/
structure Converged (env : Environment ω) (view : HallView ω) (least most target : Nat)
    (tally : List (Trainee × Nat)) (log : List (TrainingRound ω)) (last : Session ω)
    (final : List (Trainee × Nat)) : Prop where
  tallied : env.Tallied view least most target last final
  keys : final.map (fun entry => entry.1.key) = tally.map fun entry => entry.1.key
  reached : ∀ entry ∈ final, target ≤ entry.1.agent.level
  counts : ∀ place, Training.countAt final place =
    Training.countAt tally place + (log.map fun round => (round.triedAt place).length).sum

theorem Hosts.converges_course (hosts : env.Hosts view) (hpermits : env.Permits view.works)
    {selector : Selector} {log : List (TrainingRound ω)} {result : Except Halt Unit}
    (hcourse : Training.Course env plan budget selector session log result last)
    (h : env.Tallied view least most target session tally) (htarget : target ≤ Level.highest)
    (henough : Level.price target ≤ least * most) (hbudget : most * tally.length ≤ budget)
    (hcurriculum : selector.curriculum.all ≠ [])
    (hpasses : ∀ round ∈ log, ∀ attempt ∈ round.attempts,
      attempt.Passes env plan round.template least) :
    result = .ok () ∧ ∃ final, env.Converged view least most target tally log last final := by
  induction hcourse generalizing tally with
  | spent hspent =>
      exact ⟨rfl, tally, h, rfl,
        h.atTarget_of_spent htarget henough (Nat.le_trans hbudget hspent), fun _ => rfl⟩
  | @halted _ session _ _ _ hcheck =>
      have hmay := hpermits session.world h.ready.1
      rw [hcheck] at hmay
      cases hmay
  | converged _ hcheck htargets =>
      refine ⟨rfl, tally, h.checked hosts hcheck, rfl, ?_, fun _ => rfl⟩
      intro entry hentry
      rw [h.trainees, List.all_map, List.all_eq_true] at htargets
      have hat : entry.1.atTarget = true := htargets entry hentry
      rw [← (h.pays entry hentry).target]
      exact of_decide_eq_true hat
  | @unserved selector _ session _ _ _ _ hchoose =>
      have hnone := selector.choose_eq_none_iff (Trainee.averageLevel session.trainees)
      rw [hchoose] at hnone
      exact absurd (hnone.mp rfl) hcurriculum
  | cut _ hcheck _ _ hround =>
      cases (hosts.tallied_made (h.checked hosts hcheck) htarget henough hround
        (hpasses _ List.mem_cons_self)).1
  | @next selector _ session settled _ checked template attempts _ _ _ hcheck _ hchoose hround _
      ih =>
      have hlater := selector.curriculum_choose (Trainee.averageLevel session.trainees)
      rw [hchoose] at hlater
      have hchecked := h.checked hosts hcheck
      obtain ⟨-, hsettled⟩ := hosts.tallied_made hchecked htarget henough hround
        (hpasses _ List.mem_cons_self)
      obtain ⟨hok, final, hfinal⟩ := ih hsettled (by rwa [List.length_map]) (by rwa [hlater])
        fun round hround => hpasses round (List.mem_cons_of_mem _ hround)
      refine ⟨hok, final, hfinal.tallied, ?_, hfinal.reached, ?_⟩
      · rw [hfinal.keys, List.map_map]
        exact List.map_congr_left fun entry _ => Training.key_countUp _ entry
      · intro place
        let round : TrainingRound ω :=
          { template, opening := { session with world := checked }, attempts }
        have htried : round.triedAt place = round.dueAt place :=
          Training.triedAt_of_all (hround.counted.all rfl) place
        have hcount := Training.countAt_countUp (view.hall settled.world).store tally place
          (show round.opening.trainees = tally.map Prod.fst from hchecked.trainees)
        rw [hfinal.counts, hcount, List.map_cons, List.sum_cons, ← htried, Nat.add_assoc]

end Environment

end QuestAcademy
