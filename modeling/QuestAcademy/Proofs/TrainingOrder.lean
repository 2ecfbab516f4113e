import QuestAcademy.Proofs.RoundOrder

namespace QuestAcademy

variable {ω : Type}

/-- Sessions that differ only in order. -/
structure Session.Agrees (view : HallView ω) (one other : Session ω) : Prop where
  trainees : one.trainees = other.trainees
  report : one.report.Agrees other.report
  hall : (view.hall one.world).Agrees (view.hall other.world)

theorem Session.Agrees.refl (view : HallView ω) (session : Session ω) :
    session.Agrees view session :=
  ⟨rfl, .refl _, .refl _⟩

theorem Session.Agrees.checked {view : HallView ω} {session other : Session ω}
    (h : session.Agrees view other) {world after : ω}
    (hworld : view.hall world = view.hall session.world)
    (hafter : view.hall after = view.hall other.world) :
    Session.Agrees view { session with world } { other with world := after } := by
  refine ⟨h.trainees, h.report, ?_⟩
  rw [hworld, hafter]
  exact h.hall

theorem Session.Agrees.questsRun {view : HallView ω} {session other : Session ω}
    (h : session.Agrees view other) : other.report.questsRun = session.report.questsRun := by
  rw [h.report.rest]

theorem Report.Agrees.withTrainees {one other : Report} (h : one.Agrees other)
    (trainees : List Trainee) :
    (Arena.withTrainees one trainees).Agrees (Arena.withTrainees other trainees) := by
  refine ⟨h.errors, ?_⟩
  rw [h.rest]
  rfl

namespace Training

section Orders

variable (env : Environment ω) (plan : ArenaPlan) (budget : Nat)

/-- A training that may take any order in each of its rounds. -/
inductive Ordering : Selector → Session ω → Except Halt Unit → Session ω → Prop
  | spent {selector : Selector} {session : Session ω}
      (hspent : budget ≤ session.report.questsRun) : Ordering selector session (.ok ()) session
  | halted {selector : Selector} {session : Session ω} {world : ω} {halt : Halt}
      (hbudget : session.report.questsRun < budget)
      (hcheck : env.check session.world = (.error halt, world)) :
      Ordering selector session (.error halt) { session with world }
  | converged {selector : Selector} {session : Session ω} {world : ω}
      (hbudget : session.report.questsRun < budget)
      (hcheck : env.check session.world = (.ok (), world))
      (htargets : session.trainees.all Trainee.atTarget = true) :
      Ordering selector session (.ok ()) { session with world }
  | unserved {selector next : Selector} {session : Session ω} {world : ω}
      (hbudget : session.report.questsRun < budget)
      (hcheck : env.check session.world = (.ok (), world))
      (htargets : session.trainees.all Trainee.atTarget = false)
      (hchoose : selector.choose (Trainee.averageLevel session.trainees) = (none, next)) :
      Ordering selector session (.ok ()) { session with
        report := session.report.noteError
          (unservedText (Trainee.averageLevel session.trainees))
        world }
  | cut {selector next : Selector} {session last : Session ω} {world : ω} {template : Template}
      {halt : Halt} (hbudget : session.report.questsRun < budget)
      (hcheck : env.check session.world = (.ok (), world))
      (htargets : session.trainees.all Trainee.atTarget = false)
      (hchoose : selector.choose (Trainee.averageLevel session.trainees) = (some template, next))
      (hround : Tackle env plan template budget (pending session.trainees) []
        { session with world } (.error halt) last) :
      Ordering selector session (.error halt) last
  | next {selector next : Selector} {session settled last : Session ω} {world : ω}
      {template : Template} {result : Except Halt Unit}
      (hbudget : session.report.questsRun < budget)
      (hcheck : env.check session.world = (.ok (), world))
      (htargets : session.trainees.all Trainee.atTarget = false)
      (hchoose : selector.choose (Trainee.averageLevel session.trainees) = (some template, next))
      (hround : Tackle env plan template budget (pending session.trainees) []
        { session with world } (.ok ()) settled)
      (hrest : Ordering next settled result last) : Ordering selector session result last

end Orders

section Orders

variable {env : Environment ω} {plan : ArenaPlan} {template : Template} {budget : Nat}
  {session last : Session ω} {result : Except Halt Unit}

theorem Course.ordering {selector : Selector} {log : List (TrainingRound ω)}
    (h : Course env plan budget selector session log result last) :
    Ordering env plan budget selector session result last := by
  induction h with
  | spent hspent => exact .spent hspent
  | halted hbudget hcheck => exact .halted hbudget hcheck
  | converged hbudget hcheck htargets => exact .converged hbudget hcheck htargets
  | unserved hbudget hcheck htargets hchoose => exact .unserved hbudget hcheck htargets hchoose
  | cut hbudget hcheck htargets hchoose hround =>
      exact .cut hbudget hcheck htargets hchoose hround.tackle
  | next hbudget hcheck htargets hchoose hround hrest ih =>
      exact .next hbudget hcheck htargets hchoose hround.tackle ih

theorem Tackle.concurrency {untried : List (Trainee × Nat)}
    {unsettled : List ((Trainee × Nat) × Except AttemptError Receipt)} {concurrency : Nat}
    (h : Tackle env { plan with concurrency } template budget untried unsettled session result
      last) : Tackle env plan template budget untried unsettled session result last := by
  induction h with
  | done session => exact .done session
  | attempt hnext hattempt hrest ih => exact .attempt hnext hattempt ih
  | settle hnext hsettle hrest ih => exact .settle hnext hsettle ih
  | halted hnext hsettle => exact .halted hnext hsettle

theorem rounds_spent {selector : Selector} {fuel : Nat}
    (h : budget ≤ session.report.questsRun) :
    rounds env plan budget fuel selector session = (.ok (), session) := by
  cases fuel with
  | zero => rfl
  | succ fuel => rw [rounds, if_pos h]

theorem rounds_open {selector : Selector} {fuel : Nat} {world : ω}
    (hbudget : session.report.questsRun < budget)
    (hfuel : budget ≤ session.report.questsRun + fuel)
    (hcheck : env.check session.world = (.ok (), world)) :
    ∃ less, fuel = less + 1 ∧ rounds env plan budget fuel selector session =
      if session.trainees.all Trainee.atTarget then (.ok (), { session with world })
      else
        match selector.choose (Trainee.averageLevel session.trainees) with
        | (none, _) => (.ok (), { session with
            report := session.report.noteError
              (unservedText (Trainee.averageLevel session.trainees))
            world })
        | (some template, selector) =>
          match round env plan template budget (pending session.trainees)
              { session with world } with
          | (.error halt, session) => (.error halt, session)
          | (.ok (), session) => rounds env plan budget less selector session := by
  obtain ⟨less, rfl⟩ : ∃ less, fuel = less + 1 := ⟨fuel - 1, by omega⟩
  refine ⟨less, rfl, ?_⟩
  rw [rounds, if_neg (by omega), hcheck]
  rfl

end Orders

end Training

namespace Environment

variable {env : Environment ω} {view : HallView ω} {conduct : Conduct} {plan : ArenaPlan}
  {template : Template} {budget : Nat}

/-- In a world that works, trainees with the ids of their keys, and no two with the same key. -/
structure SessionFit (env : Environment ω) (view : HallView ω) (session : Session ω) : Prop where
  works : view.works session.world
  tidy : (view.hall session.world).Tidy env.store.space
  keyed : ∀ trainee ∈ session.trainees, trainee.Keyed env.store.space
  distinct : (session.trainees.map Trainee.key).Nodup

section Rounds

variable {session last : Session ω}

theorem SessionFit.due (h : env.SessionFit view session) :
    Due env.store.space (Training.pending session.trainees) [] where
  keyed := fun pair hpair =>
    h.keyed pair.1 (Training.sublist_pending.subset (List.mem_map_of_mem hpair))
  keys := by
    have hkeys := h.distinct.sublist (Training.sublist_pending.map Trainee.key)
    rw [List.map_map] at hkeys
    exact hkeys
  places := Training.nodup_places
  unhalted := by simp

theorem Tackled.fit (hfit : env.SessionFit view session)
    (h : env.Tackled view conduct plan template (Training.pending session.trainees) [] session
      last) : env.SessionFit view last where
  works := h.works
  tidy := h.tidy
  keyed := by
    rw [h.reread.eq_map]
    intro trainee htrainee
    obtain ⟨before, hbefore, rfl⟩ := List.mem_map.mp htrainee
    split
    · exact hfit.keyed before hbefore
    · exact Trainee.keyed_seenIn h.tidy.keyed (hfit.keyed before hbefore)
  distinct := by
    have hkeys : last.trainees.map Trainee.key = session.trainees.map Trainee.key := by
      rw [h.reread.eq_map, List.map_map]
      refine List.map_congr_left fun trainee _ => ?_
      simp only [Function.comp_apply]
      split <;> rfl
    rw [hkeys]
    exact hfit.distinct

theorem Tackled.agrees {other otherLast : Session ω}
    (h : env.Tackled view conduct plan template (Training.pending session.trainees) [] session
      last)
    (hother : env.Tackled view conduct plan template (Training.pending other.trainees) [] other
      otherLast)
    (hsame : session.Agrees view other) : last.Agrees view otherLast := by
  have hhall := hsame.hall
  have hforecast : conduct.forecast env.store.space plan template (view.hall other.world) =
      conduct.forecast env.store.space plan template (view.hall session.world) := by
    funext trainee
    rw [Conduct.forecast, hhall.circumstances]
    rfl
  have htries := hother.tries
  have hreport := hother.report
  unfold Conduct.tries at htries
  unfold Conduct.notes at hreport
  rw [hforecast, ← hsame.trainees] at htries hreport
  have hhalls := (h.tries.congr (.refl _) hhall).agrees htries h.tidy hother.tidy
  refine ⟨?_, ?_, hhalls⟩
  · rw [h.reread.eq_map, hother.reread.eq_map, hsame.trainees, hhalls.store]
  · exact (h.report.trans (hsame.report.noteUpshots template (.refl _))).trans hreport.symm

end Rounds

section Trainings

variable {session other : Session ω}

theorem SessionFit.checked (h : env.SessionFit view session) (hosts : env.Hosts view) {world : ω}
    {permit : Except Halt Unit} (hcheck : env.check session.world = (permit, world)) :
    env.SessionFit view { session with world } ∧ view.hall world = view.hall session.world := by
  obtain ⟨hsame, hworks⟩ := hosts.check session.world
  simp only [hcheck] at hsame hworks
  refine ⟨⟨hworks h.works, ?_, h.keyed, h.distinct⟩, hsame⟩
  rw [hsame]
  exact h.tidy

variable (hosts : env.Hosts view) (hpermits : env.Permits view.works)
include hosts hpermits

theorem Hosts.checked_agrees {world : ω} (hfit : env.SessionFit view session)
    (hother : env.SessionFit view other) (hsame : session.Agrees view other)
    (hcheck : env.check session.world = (.ok (), world)) :
    env.SessionFit view { session with world } ∧
      ∃ after, env.check other.world = (.ok (), after) ∧
        env.SessionFit view { other with world := after } ∧
        Session.Agrees view { session with world } { other with world := after } := by
  obtain ⟨after, hafter⟩ := hpermits.check hother.works
  obtain ⟨hchecked, hworld⟩ := hfit.checked hosts hcheck
  obtain ⟨hotherChecked, hotherWorld⟩ := hother.checked hosts hafter
  exact ⟨hchecked, after, hafter, hotherChecked, hsame.checked hworld hotherWorld⟩

variable (hfollows : env.Follows view.works conduct)
include hfollows

/-- A round in any order comes to its end, and ends as in any other. -/
theorem Hosts.tackle_agrees {last otherLast : Session ω} {result otherResult : Except Halt Unit}
    (hfit : env.SessionFit view session) (hother : env.SessionFit view other)
    (hsame : session.Agrees view other)
    (h : Training.Tackle env plan template budget (Training.pending session.trainees) [] session
      result last)
    (h' : Training.Tackle env plan template budget (Training.pending other.trainees) [] other
      otherResult otherLast) :
    (result = .ok () ∧ env.SessionFit view last) ∧
      (otherResult = .ok () ∧ env.SessionFit view otherLast) ∧ last.Agrees view otherLast := by
  obtain ⟨hok, htackled⟩ := hosts.tackled hpermits hfollows h hfit.works hfit.tidy hfit.due
  obtain ⟨hotherOk, hotherTackled⟩ :=
    hosts.tackled hpermits hfollows h' hother.works hother.tidy hother.due
  exact ⟨⟨hok, htackled.fit hfit⟩, ⟨hotherOk, hotherTackled.fit hother⟩,
    htackled.agrees hotherTackled hsame⟩

theorem Hosts.ordering_agrees (concurrency : Nat) {fuel : Nat} {selector : Selector}
    {last : Session ω} {result : Except Halt Unit}
    (h : Training.Ordering env plan budget selector session result last)
    (hfit : env.SessionFit view session) (hother : env.SessionFit view other)
    (hsame : session.Agrees view other) (hfuel : budget ≤ other.report.questsRun + fuel) :
    result = .ok () ∧ env.SessionFit view last ∧
      ∃ otherLast, Training.rounds env { plan with concurrency } budget fuel selector other =
          (.ok (), otherLast) ∧
        env.SessionFit view otherLast ∧ last.Agrees view otherLast := by
  -- Both trainings look at the same counts and trainees, so that they always take the same turn.
  induction h generalizing other fuel with
  | spent hspent =>
      rw [← hsame.questsRun] at hspent
      exact ⟨rfl, hfit, other, Training.rounds_spent hspent, hother, hsame⟩
  | @halted _ session _ _ _ hcheck =>
      have hmay := hpermits session.world hfit.works
      rw [hcheck] at hmay
      cases hmay
  | converged hbudget hcheck htargets =>
      obtain ⟨hchecked, after, hafter, hotherChecked, hends⟩ :=
        hosts.checked_agrees hpermits hfit hother hsame hcheck
      rw [← hsame.questsRun] at hbudget
      obtain ⟨less, -, hopen⟩ := Training.rounds_open hbudget hfuel hafter
      rw [hsame.trainees] at htargets
      rw [hopen, if_pos htargets]
      exact ⟨rfl, hchecked, _, rfl, hotherChecked, hends⟩
  | unserved hbudget hcheck htargets hchoose =>
      obtain ⟨hchecked, after, hafter, hotherChecked, hends⟩ :=
        hosts.checked_agrees hpermits hfit hother hsame hcheck
      rw [← hsame.questsRun] at hbudget
      obtain ⟨less, -, hopen⟩ := Training.rounds_open hbudget hfuel hafter
      rw [hsame.trainees] at htargets hchoose
      rw [hopen, htargets, hchoose]
      refine ⟨rfl, ?_, _, rfl, ?_, ?_⟩
      · exact ⟨hchecked.works, hchecked.tidy, hchecked.keyed, hchecked.distinct⟩
      · exact ⟨hotherChecked.works, hotherChecked.tidy, hotherChecked.keyed,
          hotherChecked.distinct⟩
      · refine ⟨hends.trainees, ?_, hends.hall⟩
        simp only [hsame.trainees]
        exact hsame.report.noteError _
  | cut hbudget hcheck htargets hchoose hround =>
      obtain ⟨hchecked, -⟩ := hfit.checked hosts hcheck
      cases (hosts.tackle_agrees hpermits hfollows hchecked hchecked (.refl _ _) hround
        hround).1.1
  | next hbudget hcheck htargets hchoose hround hrest ih =>
      obtain ⟨hchecked, after, hafter, hotherChecked, hends⟩ :=
        hosts.checked_agrees hpermits hfit hother hsame hcheck
      rw [← hsame.questsRun] at hbudget
      obtain ⟨less, hless, hopen⟩ := Training.rounds_open hbudget hfuel hafter
      rw [hsame.trainees] at htargets hchoose
      rw [hopen, htargets, hchoose]
      simp only [Bool.false_eq_true, if_false]
      obtain ⟨attempts, hmade⟩ := Training.made_round env { plan with concurrency } _ budget
        (Training.pending other.trainees) { other with world := after }
      obtain ⟨⟨-, hsettled⟩, ⟨hok, hotherSettled⟩, hsettledSame⟩ := hosts.tackle_agrees hpermits
        hfollows hchecked hotherChecked hends hround hmade.tackle.concurrency
      split <;> rename_i hround <;> rw [hround] at hmade hok hotherSettled hsettledSame
      · cases hok
      · have hgrows := hmade.grows (Training.pending_ne_nil htargets)
        simp only at hgrows
        exact ih hsettled hotherSettled hsettledSame (by omega)

end Trainings

end Environment

end QuestAcademy
