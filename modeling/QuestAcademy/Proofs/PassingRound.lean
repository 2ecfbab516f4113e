import QuestAcademy.Proofs.EarnedExperience
import QuestAcademy.Proofs.RoundOrder

namespace QuestAcademy

variable {ω : Type}

def ok? {ε α : Type} : Except ε α × ω → Option (α × ω)
  | (.error _, _) => none
  | (.ok a, world) => some (a, world)

theorem ok?_eq_some_iff {ε α : Type} {answer : Except ε α × ω} {a : α} {world : ω} :
    ok? answer = some (a, world) ↔ answer = (.ok a, world) := by
  obtain ⟨result, after⟩ := answer
  cases result <;> simp [ok?]

def Training.verdict? (env : Environment ω) (plan : ArenaPlan) (template : Template)
    (trainee : Trainee) (world : ω) : Option Verdict := do
  let ((), world) ← ok? (env.check world)
  let (quest, world) ← ok? (env.board.post (draft plan trainee template) world)
  let ((), world) ← ok? (env.board.claim quest.id trainee.agent.id world)
  let ((), world) ← ok? (env.board.start quest.id world)
  let (output, world) ← ok? (env.execute trainee.agent quest world)
  let (judgement, world) ← ok? (env.judge plan.strictness template output world)
  let verdict := judgement.toVerdict (baseExperience template.difficulty plan.multiplier)
  let _ ← ok? (env.board.submit quest.id output verdict world)
  return verdict

/-- Every call of an attempt succeeds, and its verdict passes and awards at least so much. -/
def Attempt.Passes (env : Environment ω) (plan : ArenaPlan) (template : Template) (least : Nat)
    (attempt : Attempt ω) : Prop :=
  ∃ verdict, Training.verdict? env plan template attempt.trainee attempt.before = some verdict ∧
    verdict.passed = true ∧ least ≤ verdict.award

/-- The agent has earned at least so much more, as far as there was anything to earn. -/
structure Agent.Gains (least : Nat) (agent final : Agent) : Prop where
  inStep : final.InStep
  total : min (Level.price Level.highest) (agent.total + least) ≤ final.total

theorem Agent.InStep.gains_applyVerdict {agent : Agent} (h : agent.InStep) {verdict : Verdict}
    (hpassed : verdict.passed = true) {least : Nat} (haward : least ≤ verdict.award)
    (skills : List String) : agent.Gains least (Board.applyVerdict verdict skills agent) where
  inStep := h.applyVerdict verdict skills
  total := by
    rw [h.total_applyVerdict hpassed]
    omega

namespace Hall

/-- The agents under some keys have gained, all others are as they were. -/
structure Raises (least : Nat) (keys : List String) (before after : Hall) : Prop where
  raised : ∀ key ∈ keys, ∀ agent, before.store.agents.find? key = some agent → agent.InStep →
    ∃ final, after.store.agents.find? key = some final ∧ agent.Gains least final
  others : ∀ key, key ∉ keys →
    after.store.agents.find? key = before.store.agents.find? key

variable {least : Nat} {key : String} {keys : List String} {before between after : Hall}

theorem Raises.none (least : Nat) (hall : Hall) : Raises least [] hall hall where
  raised := by
    intro key hkey
    cases hkey
  others := fun _ _ => rfl

theorem Raises.cons (h : Raises least [key] before between) (hkey : key ∉ keys)
    (hrest : Raises least keys between after) : Raises least (key :: keys) before after where
  raised := by
    intro other hother agent hagent hstep
    rcases List.mem_cons.mp hother with rfl | hlater
    · rw [hrest.others other hkey]
      exact h.raised other List.mem_cons_self agent hagent hstep
    · have hne : other ∉ [key] := by
        intro hmem
        rw [List.mem_singleton.mp hmem] at hlater
        exact hkey hlater
      rw [← h.others other hne] at hagent
      exact hrest.raised other hlater agent hagent hstep
  others := by
    intro other hother
    obtain ⟨hne, hlater⟩ := not_or.mp (List.mem_cons.not.mp hother)
    rw [hrest.others other hlater, h.others other fun hmem => hne (List.mem_singleton.mp hmem)]

theorem Tries.raises {agent final : Agent} {upshot : Upshot}
    (h : before.Tries [(key, upshot)] after) (hagent : before.store.agents.find? key = some agent)
    (hfinal : upshot.agent = some final) (hgains : agent.InStep → agent.Gains least final) :
    Raises least [key] before after where
  raised := by
    intro other hother stored hstored hstep
    rw [List.mem_singleton.mp hother] at hstored ⊢
    rw [hagent] at hstored
    cases hstored
    refine ⟨final, ?_, hgains hstep⟩
    rw [h.tried key upshot List.mem_cons_self, hfinal]
  others := fun other hother => h.others other hother

theorem Raises.seenIn (h : Raises least keys before after) (hbefore : before.store.Working)
    (hafter : after.store.Working) {trainee : Trainee} (hkey : trainee.key ∉ keys) :
    trainee.seenIn after.store = trainee.seenIn before.store := by
  simp only [Trainee.seenIn, h.others trainee.key hkey, hbefore.reads, hafter.reads]

end Hall

namespace Environment

variable {env : Environment ω} {view : HallView ω} {plan : ArenaPlan} {template : Template}
  {least budget : Nat}

theorem Holds.delivered {key : String} {before : Hall} {agent worker : Agent} {draft : Draft}
    {quest : Quest} {output : Payload} {judgement : Judgement} {verdict : Verdict}
    {receipt : Receipt} {claimed started executed judged after : ω}
    (h : env.Holds view key before agent draft .claimed claimed) (hosts : env.Hosts view)
    (htidy : before.Tidy env.store.space)
    (hstart : env.board.start before.board.freshId claimed = (.ok (), started))
    (hexecute : env.execute worker quest started = (.ok output, executed))
    (hjudge : env.judge plan.strictness template output executed = (.ok judgement, judged))
    (hsubmit : env.board.submit before.board.freshId output verdict judged =
      (.ok receipt, after)) :
    before.Tries [(key,
      { failure := none
        quest := some (before.taken env.store.space key draft verdict.finalStatus).unnumbered
        agent := some (Board.applyVerdict verdict draft.requiredSkills agent) })]
      (view.hall after) := by
  rcases h.start hosts htidy hstart with ⟨-, hanswer, -⟩ | ⟨-, -, hbegun⟩
  · cases hanswer
  · have hworked := hbegun.unseen (hosts.execute worker quest)
    simp only [hexecute] at hworked
    have hgraded := hworked.unseen (hosts.judge plan.strictness template output)
    simp only [hjudge] at hgraded
    rcases hgraded.submit hosts htidy hsubmit with ⟨-, hanswer, -⟩ | ⟨-, -, -, hhall⟩
    · cases hanswer
    · rw [hhall]
      exact (hgraded.2.ends htidy (Board.name_applyVerdict verdict draft.requiredSkills agent)
        (Board.id_applyVerdict verdict draft.requiredSkills agent)
        (hgraded.2.gains.settle htidy.numbered output verdict) rfl rfl rfl).1

theorem Hosts.raises_attempt (hosts : env.Hosts view) {attempt : Attempt ω}
    (h : env.AttemptReady view plan template attempt)
    (hpasses : attempt.Passes env plan template least) :
    (∀ halt, Training.failure? attempt.outcome ≠ some (.halted halt)) ∧
      env.HallReady view attempt.after ∧
      Hall.Raises least [attempt.trainee.key] (view.hall attempt.before)
        (view.hall attempt.after) := by
  obtain ⟨trainee, place, before, outcome, after⟩ := attempt
  obtain ⟨hready, htrainee, hattempt⟩ := h
  obtain ⟨verdict, hverdict, hpassed, haward⟩ := hpasses
  simp only at hready htrainee hattempt hverdict
  have hafter := hosts.preserves_ready.attempt plan template trainee hready
  rw [hattempt] at hafter
  simp only [Training.verdict?, Option.bind_eq_bind, Option.bind_eq_some_iff, Prod.exists,
    ok?_eq_some_iff, Option.pure_def, Option.some.injEq] at hverdict
  obtain ⟨⟨⟩, checked, hcheck, quest, posted, hpost, ⟨⟩, claimed, hclaim, ⟨⟩, started, hstart,
    output, executed, hexecute, judgement, judged, hjudge, receipt, submitted, hsubmit, rfl⟩ :=
    hverdict
  unfold Training.attempt Training.complete at hattempt
  simp only [hcheck, hpost, hclaim, hstart, hexecute, hjudge, hsubmit] at hattempt
  cases hattempt
  have htidy : (view.hall before).Tidy env.store.space := ⟨hready.2.keyed, hready.2.numbered⟩
  rw [htrainee] at hclaim
  obtain ⟨-, hquest, hclaimed⟩ := hosts.tookUp hready.1 rfl htidy hcheck hpost hclaim
  have hid : quest.id = (view.hall before).board.freshId := by
    rw [hquest]
    rfl
  rw [hid] at hstart hsubmit
  generalize ((view.hall before).circumstances trainee.key).claimant env.store.space trainee.key =
    claimant at hclaimed
  cases hclaimed with
  | held _ hholds =>
      have hdelivered := hholds.delivered hosts htidy hstart hexecute hjudge hsubmit
      exact ⟨nofun, hafter, hdelivered.raises hholds.2.stored rfl fun hstep =>
        hstep.gains_applyVerdict hpassed haward template.skills⟩

/-- What comes of a round in which all goes well. -/
structure Rewarded (env : Environment ω) (view : HallView ω) (least : Nat)
    (due : List (Trainee × Nat)) (session last : Session ω) : Prop where
  ready : env.HallReady view last.world
  raises : Hall.Raises least (due.map fun pair => pair.1.key) (view.hall session.world)
    (view.hall last.world)
  reread : Training.Reread due (view.hall last.world).store session.trainees last.trainees

section Rounds

variable {due : List (Trainee × Nat)} {session last : Session ω} {attempts : List (Attempt ω)}
  {result : Except Halt Unit}

theorem Hosts.rewarded_inTurn (hosts : env.Hosts view)
    (hmade : Training.InTurn env plan template budget due session attempts result last)
    (hready : env.HallReady view session.world) (hdue : Due env.store.space due [])
    (hpasses : ∀ attempt ∈ attempts, attempt.Passes env plan template least) :
    result = .ok () ∧ env.Rewarded view least due session last := by
  induction hmade with
  | done session => exact ⟨rfl, hready, .none _ _, .none _ _⟩
  | halted hattempt hsettle =>
      have hkeyed := hdue.keyed _ List.mem_cons_self
      obtain ⟨hgoes, hafter, -⟩ := hosts.raises_attempt ⟨hready, hkeyed, hattempt⟩
        (hpasses _ List.mem_cons_self)
      cases (hosts.settled hafter.1 hgoes hsettle).1
  | next hattempt hsettle hrest ih =>
      have hkeyed := hdue.keyed _ List.mem_cons_self
      obtain ⟨hgoes, hafter, hraises⟩ := hosts.raises_attempt ⟨hready, hkeyed, hattempt⟩
        (hpasses _ List.mem_cons_self)
      obtain ⟨-, -, htrainees, hhall, hworks⟩ := hosts.settled hafter.1 hgoes hsettle
      obtain ⟨-, hapart, hunsettled⟩ := hdue.attempt (.refl _) hgoes
      obtain ⟨-, -, hplace, hlater⟩ := hunsettled.settle (.refl _)
      have hsettled : env.HallReady view _ := ⟨hworks, by rw [hhall]; exact hafter.2⟩
      obtain ⟨hok, hlast⟩ := ih hsettled hlater fun attempt hattempt =>
        hpasses attempt (List.mem_cons_of_mem _ hattempt)
      -- Nobody else has the key of the trainee: it is still as it was seen.
      have hseen := hlast.raises.seenIn hsettled.2.working hlast.ready.2.working hapart
      have hraised := hlast.raises
      have hreread := hlast.reread
      rw [hhall] at hseen hraised
      rw [htrainees, ← hseen] at hreread
      exact ⟨hok, hlast.ready, hraises.cons hapart hraised, hreread.set hplace⟩

theorem Hosts.raises_atOnce (hosts : env.Hosts view) {world after : ω}
    (hmade : Training.AtOnce env plan template due world attempts after)
    (hready : env.HallReady view world) (hdue : Due env.store.space due [])
    (hpasses : ∀ attempt ∈ attempts, attempt.Passes env plan template least) :
    (∀ attempt ∈ attempts, ∀ halt,
        Training.failure? attempt.outcome ≠ some (.halted halt)) ∧
      env.HallReady view after ∧
      Hall.Raises least (due.map fun pair => pair.1.key) (view.hall world) (view.hall after) := by
  induction hmade with
  | done world => exact ⟨by simp, hready, .none _ _⟩
  | next hattempt hrest ih =>
      have hkeyed := hdue.keyed _ List.mem_cons_self
      obtain ⟨hgoes, hafter, hraises⟩ := hosts.raises_attempt ⟨hready, hkeyed, hattempt⟩
        (hpasses _ List.mem_cons_self)
      obtain ⟨-, hapart, hunsettled⟩ := hdue.attempt (.refl _) hgoes
      obtain ⟨-, -, -, hlater⟩ := hunsettled.settle (.refl _)
      obtain ⟨hothers, hlast, hraised⟩ := ih hafter hlater fun attempt hattempt =>
        hpasses attempt (List.mem_cons_of_mem _ hattempt)
      exact ⟨List.forall_mem_cons.mpr ⟨hgoes, hothers⟩, hlast, hraises.cons hapart hraised⟩

theorem Hosts.reread_settleAll (hosts : env.Hosts view)
    {outcomes : List ((Trainee × Nat) × Except AttemptError Receipt)}
    (hsettle : Training.settleAll env template budget outcomes session = (result, last))
    (hworks : view.works session.world)
    (hplaces : ((outcomes.map Prod.fst).map Prod.snd).Nodup)
    (hgoes : ∀ entry ∈ outcomes, ∀ halt, Training.failure? entry.2 ≠ some (.halted halt)) :
    result = .ok () ∧ view.works last.world ∧ view.hall last.world = view.hall session.world ∧
      Training.Reread (outcomes.map Prod.fst) (view.hall session.world).store session.trainees
        last.trainees := by
  induction outcomes generalizing session with
  | nil =>
      cases hsettle
      exact ⟨rfl, hworks, rfl, .none _ _⟩
  | cons entry rest ih =>
      obtain ⟨⟨trainee, place⟩, outcome⟩ := entry
      obtain ⟨hplace, hlater⟩ := List.nodup_cons.mp hplaces
      rw [Training.settleAll] at hsettle
      split at hsettle <;> rename_i settled hfirst <;>
        obtain ⟨hok, -, htrainees, hhall, hread⟩ :=
          hosts.settled hworks (hgoes _ List.mem_cons_self) hfirst
      · cases hok
      · obtain ⟨hok, hlast, hsame, hreread⟩ := ih hsettle hread hlater fun entry hentry =>
          hgoes entry (List.mem_cons_of_mem _ hentry)
        rw [hhall] at hsame hreread
        rw [htrainees] at hreread
        exact ⟨hok, hlast, hsame, hreread.set hplace⟩

theorem Hosts.rewarded (hosts : env.Hosts view)
    (hmade : Training.Made env plan template budget due session attempts result last)
    (hready : env.HallReady view session.world) (hdue : Due env.store.space due [])
    (hpasses : ∀ attempt ∈ attempts, attempt.Passes env plan template least) :
    result = .ok () ∧ env.Rewarded view least due session last := by
  cases hmade with
  | inTurn hturn hmade => exact hosts.rewarded_inTurn hmade hready hdue hpasses
  | atOnce hmany hmade hsettle =>
      obtain ⟨hgoes, hafter, hraises⟩ := hosts.raises_atOnce hmade hready hdue hpasses
      have hentries : (attempts.map Attempt.result).map Prod.fst = due := by
        rw [List.map_map]
        exact hmade.entries
      have hplaces := hdue.places
      rw [← hentries] at hplaces
      obtain ⟨hok, hworks, hhall, hreread⟩ := hosts.reread_settleAll hsettle hafter.1 hplaces <| by
        intro entry hentry
        obtain ⟨attempt, hattempt, rfl⟩ := List.mem_map.mp hentry
        exact hgoes attempt hattempt
      rw [hentries] at hreread
      refine ⟨hok, ⟨hworks, ?_⟩, ?_, ?_⟩ <;> rw [hhall]
      · exact hafter.2
      · exact hraises
      · exact hreread

end Rounds

end Environment

end QuestAcademy
