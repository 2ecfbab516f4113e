import QuestAcademy.Training

/-!
The course of a training: its rounds, and the attempts that were made in each. `Course` follows the
rounds without a bound on their number; `course_rounds` finds the course of every training.
-/

namespace QuestAcademy

variable {ω : Type}

/-- An attempt that was made, with the worlds before and after it. -/
structure Attempt (ω : Type) where
  trainee : Trainee
  place : Nat
  before : ω
  outcome : Except AttemptError Receipt
  after : ω

/-- A round that was begun. -/
structure TrainingRound (ω : Type) where
  template : Template
  opening : Session ω
  attempts : List (Attempt ω)

namespace Attempt

def entry (attempt : Attempt ω) : Trainee × Nat := (attempt.trainee, attempt.place)

def result (attempt : Attempt ω) : (Trainee × Nat) × Except AttemptError Receipt :=
  (attempt.entry, attempt.outcome)

end Attempt

namespace TrainingRound

def triedAt (round : TrainingRound ω) (place : Nat) : List Trainee :=
  (round.attempts.filter fun attempt => attempt.place = place).map Attempt.trainee

def dueAt (round : TrainingRound ω) (place : Nat) : List Trainee :=
  (round.opening.trainees[place]?).toList.filter fun trainee => !trainee.atTarget

end TrainingRound

namespace Training

section Relations

variable (env : Environment ω) (plan : ArenaPlan) (template : Template) (budget : Nat)

/-- Each attempt is settled before the next begins. -/
inductive InTurn : List (Trainee × Nat) → Session ω → List (Attempt ω) → Except Halt Unit →
    Session ω → Prop
  | done (session : Session ω) : InTurn [] session [] (.ok ()) session
  | halted {trainee : Trainee} {place : Nat} {rest : List (Trainee × Nat)}
      {session last : Session ω} {outcome : Except AttemptError Receipt} {after : ω} {halt : Halt}
      (hattempt : attempt env plan template trainee session.world = (outcome, after))
      (hsettle : settle env template budget trainee place outcome { session with world := after } =
        (.error halt, last)) :
      InTurn ((trainee, place) :: rest) session
        [{ trainee, place, before := session.world, outcome, after }] (.error halt) last
  | next {trainee : Trainee} {place : Nat} {rest : List (Trainee × Nat)}
      {session settled last : Session ω} {outcome : Except AttemptError Receipt} {after : ω}
      {attempts : List (Attempt ω)} {result : Except Halt Unit}
      (hattempt : attempt env plan template trainee session.world = (outcome, after))
      (hsettle : settle env template budget trainee place outcome { session with world := after } =
        (.ok (), settled))
      (hrest : InTurn rest settled attempts result last) :
      InTurn ((trainee, place) :: rest) session
        ({ trainee, place, before := session.world, outcome, after } :: attempts) result last

/-- All attempts are made before any is settled. -/
inductive AtOnce : List (Trainee × Nat) → ω → List (Attempt ω) → ω → Prop
  | done (world : ω) : AtOnce [] world [] world
  | next {trainee : Trainee} {place : Nat} {rest : List (Trainee × Nat)} {world after last : ω}
      {outcome : Except AttemptError Receipt} {attempts : List (Attempt ω)}
      (hattempt : attempt env plan template trainee world = (outcome, after))
      (hrest : AtOnce rest after attempts last) :
      AtOnce ((trainee, place) :: rest) world
        ({ trainee, place, before := world, outcome, after } :: attempts) last

/-- A round of some trainees, with its attempts and what comes of it. -/
inductive Made (trainees : List (Trainee × Nat)) (session : Session ω) :
    List (Attempt ω) → Except Halt Unit → Session ω → Prop
  | inTurn {attempts : List (Attempt ω)} {result : Except Halt Unit} {last : Session ω}
      (hturn : plan.concurrency ≤ 1)
      (hmade : InTurn env plan template budget trainees session attempts result last) :
      Made trainees session attempts result last
  | atOnce {attempts : List (Attempt ω)} {result : Except Halt Unit} {last : Session ω} {world : ω}
      (hmany : ¬ plan.concurrency ≤ 1)
      (hmade : AtOnce env plan template trainees session.world attempts world)
      (hsettle : settleAll env template budget (attempts.map Attempt.result)
        { session with world } = (result, last)) :
      Made trainees session attempts result last

/-- The rounds of a training, from the first that is still to come, and how it ends. -/
inductive Course : Selector → Session ω → List (TrainingRound ω) → Except Halt Unit →
    Session ω → Prop
  | spent {selector : Selector} {session : Session ω}
      (hspent : budget ≤ session.report.questsRun) : Course selector session [] (.ok ()) session
  | halted {selector : Selector} {session : Session ω} {world : ω} {halt : Halt}
      (hbudget : session.report.questsRun < budget)
      (hcheck : env.check session.world = (.error halt, world)) :
      Course selector session [] (.error halt) { session with world }
  | converged {selector : Selector} {session : Session ω} {world : ω}
      (hbudget : session.report.questsRun < budget)
      (hcheck : env.check session.world = (.ok (), world))
      (htargets : session.trainees.all Trainee.atTarget = true) :
      Course selector session [] (.ok ()) { session with world }
  | unserved {selector next : Selector} {session : Session ω} {world : ω}
      (hbudget : session.report.questsRun < budget)
      (hcheck : env.check session.world = (.ok (), world))
      (htargets : session.trainees.all Trainee.atTarget = false)
      (hchoose : selector.choose (Trainee.averageLevel session.trainees) = (none, next)) :
      Course selector session [] (.ok ()) { session with
        report := session.report.noteError ("no quest template available for level " ++
          Decimal.text (Trainee.averageLevel session.trainees))
        world }
  | cut {selector next : Selector} {session last : Session ω} {world : ω} {template : Template}
      {attempts : List (Attempt ω)} {halt : Halt}
      (hbudget : session.report.questsRun < budget)
      (hcheck : env.check session.world = (.ok (), world))
      (htargets : session.trainees.all Trainee.atTarget = false)
      (hchoose : selector.choose (Trainee.averageLevel session.trainees) = (some template, next))
      (hround : Made env plan template budget (pending session.trainees) { session with world }
        attempts (.error halt) last) :
      Course selector session [{ template, opening := { session with world }, attempts }]
        (.error halt) last
  | next {selector next : Selector} {session settled last : Session ω} {world : ω}
      {template : Template} {attempts : List (Attempt ω)} {log : List (TrainingRound ω)}
      {result : Except Halt Unit}
      (hbudget : session.report.questsRun < budget)
      (hcheck : env.check session.world = (.ok (), world))
      (htargets : session.trainees.all Trainee.atTarget = false)
      (hchoose : selector.choose (Trainee.averageLevel session.trainees) = (some template, next))
      (hround : Made env plan template budget (pending session.trainees) { session with world }
        attempts (.ok ()) settled)
      (hrest : Course next settled log result last) :
      Course selector session ({ template, opening := { session with world }, attempts } :: log)
        result last

end Relations

section Finding

variable (env : Environment ω) (plan : ArenaPlan) (template : Template) (budget : Nat)

theorem inTurn_roundInTurn (trainees : List (Trainee × Nat)) (session : Session ω) :
    ∃ attempts, InTurn env plan template budget trainees session attempts
      (roundInTurn env plan template budget trainees session).1
      (roundInTurn env plan template budget trainees session).2 := by
  induction trainees generalizing session with
  | nil => exact ⟨[], .done session⟩
  | cons pair rest ih =>
      obtain ⟨trainee, place⟩ := pair
      cases hattempt : attempt env plan template trainee session.world with
      | mk outcome after =>
          cases hsettle : settle env template budget trainee place outcome
              { session with world := after } with
          | mk result settled =>
              simp only [roundInTurn, hattempt, hsettle]
              cases result with
              | error halt => exact ⟨_, .halted hattempt hsettle⟩
              | ok done =>
                  obtain ⟨attempts, hrest⟩ := ih settled
                  exact ⟨_, .next hattempt hsettle hrest⟩

theorem atOnce_attemptAll (trainees : List (Trainee × Nat)) (world : ω) :
    ∃ attempts, AtOnce env plan template trainees world attempts
        (attemptAll env plan template trainees world).2 ∧
      (attemptAll env plan template trainees world).1 = attempts.map Attempt.result := by
  induction trainees generalizing world with
  | nil => exact ⟨[], .done world, rfl⟩
  | cons pair rest ih =>
      obtain ⟨trainee, place⟩ := pair
      cases hattempt : attempt env plan template trainee world with
      | mk outcome after =>
          obtain ⟨attempts, hrest, hresults⟩ := ih after
          simp only [attemptAll, hattempt, hresults]
          exact ⟨_, .next hattempt hrest, rfl⟩

theorem made_round (trainees : List (Trainee × Nat)) (session : Session ω) :
    ∃ attempts, Made env plan template budget trainees session attempts
      (round env plan template budget trainees session).1
      (round env plan template budget trainees session).2 := by
  unfold round
  split
  · rename_i hturn
    obtain ⟨attempts, hmade⟩ := inTurn_roundInTurn env plan template budget trainees session
    exact ⟨attempts, .inTurn hturn hmade⟩
  · rename_i hmany
    obtain ⟨attempts, hmade, hresults⟩ := atOnce_attemptAll env plan template trainees session.world
    refine ⟨attempts, .atOnce hmany hmade ?_⟩
    simp only [hresults]

end Finding

section Counting

variable {env : Environment ω} {plan : ArenaPlan} {template : Template} {budget : Nat}

theorem counts_settle {trainee : Trainee} {place : Nat} {outcome : Except AttemptError Receipt}
    {session last : Session ω} {result : Except Halt Unit}
    (h : settle env template budget trainee place outcome session = (result, last)) :
    last.report.questsRun = session.report.questsRun + 1 ∧
      last.trainees.length = session.trainees.length := by
  cases outcome with
  | ok receipt =>
      cases h
      exact ⟨rfl, List.length_set⟩
  | error e =>
      cases e with
      | halted halt =>
          cases h
          exact ⟨rfl, rfl⟩
      | board e | execution text | judge e =>
          cases h
          exact ⟨rfl, List.length_set⟩

/-- What a round of the trainees that are due does to the count. -/
structure Counted (due : List (Trainee × Nat)) (opening : Session ω) (attempts : List (Attempt ω))
    (result : Except Halt Unit) (last : Session ω) : Prop where
  places : last.trainees.length = opening.trainees.length
  made : attempts.map Attempt.entry <+: due
  all : result = .ok () → attempts.map Attempt.entry = due
  exact : result = .ok () →
    last.report.questsRun = opening.report.questsRun + attempts.length
  atMost : last.report.questsRun ≤ opening.report.questsRun + due.length

theorem InTurn.counted {due : List (Trainee × Nat)} {session last : Session ω}
    {attempts : List (Attempt ω)} {result : Except Halt Unit}
    (h : InTurn env plan template budget due session attempts result last) :
    Counted due session attempts result last := by
  induction h with
  | done session =>
      exact ⟨rfl, List.prefix_refl _, fun _ => rfl, fun _ => rfl, Nat.le_refl _⟩
  | halted hattempt hsettle =>
      obtain ⟨hcount, hplaces⟩ := counts_settle hsettle
      refine ⟨hplaces, ⟨_, rfl⟩, nofun, nofun, ?_⟩
      rw [hcount]
      simp only [List.length_cons]
      omega
  | next hattempt hsettle hrest ih =>
      obtain ⟨hcount, hplaces⟩ := counts_settle hsettle
      simp only at hcount hplaces
      refine ⟨ih.places.trans hplaces, ?_, ?_, ?_, ?_⟩
      · exact (List.prefix_cons_inj _).mpr ih.made
      · intro hok
        exact congrArg (List.cons _) (ih.all hok)
      · intro hok
        rw [ih.exact hok, hcount, List.length_cons]
        omega
      · have hmost := ih.atMost
        rw [hcount] at hmost
        simp only [List.length_cons]
        omega

theorem AtOnce.entries {due : List (Trainee × Nat)} {world last : ω} {attempts : List (Attempt ω)}
    (h : AtOnce env plan template due world attempts last) :
    attempts.map Attempt.entry = due := by
  induction h with
  | done world => rfl
  | next hattempt hrest ih => exact congrArg (List.cons _) ih

theorem counts_settleAll {outcomes : List ((Trainee × Nat) × Except AttemptError Receipt)}
    {session last : Session ω} {result : Except Halt Unit}
    (h : settleAll env template budget outcomes session = (result, last)) :
    last.trainees.length = session.trainees.length ∧
      (result = .ok () →
        last.report.questsRun = session.report.questsRun + outcomes.length) ∧
      last.report.questsRun ≤ session.report.questsRun + outcomes.length := by
  induction outcomes generalizing session with
  | nil =>
      cases h
      exact ⟨rfl, fun _ => rfl, Nat.le_refl _⟩
  | cons entry rest ih =>
      obtain ⟨⟨trainee, place⟩, outcome⟩ := entry
      cases hsettle : settle env template budget trainee place outcome session with
      | mk answer settled =>
          obtain ⟨hcount, hplaces⟩ := counts_settle hsettle
          rw [settleAll, hsettle] at h
          cases answer with
          | error halt =>
              cases h
              refine ⟨hplaces, nofun, ?_⟩
              rw [hcount, List.length_cons]
              omega
          | ok done =>
              obtain ⟨hrest, hexact, hmost⟩ := ih h
              rw [List.length_cons]
              refine ⟨hrest.trans hplaces, ?_, ?_⟩
              · intro hok
                rw [hexact hok, hcount]
                omega
              · rw [hcount] at hmost
                omega

theorem Made.counted {due : List (Trainee × Nat)} {session last : Session ω}
    {attempts : List (Attempt ω)} {result : Except Halt Unit}
    (h : Made env plan template budget due session attempts result last) :
    Counted due session attempts result last := by
  cases h with
  | inTurn hturn hmade => exact hmade.counted
  | atOnce hmany hmade hsettle =>
      have hentries := hmade.entries
      obtain ⟨hplaces, hexact, hmost⟩ := counts_settleAll hsettle
      rw [List.length_map] at hexact hmost
      refine ⟨hplaces, ⟨[], by simp [hentries]⟩, fun _ => hentries, hexact, ?_⟩
      rw [← hentries, List.length_map]
      exact hmost

theorem pending_ne_nil {trainees : List Trainee} (h : trainees.all Trainee.atTarget = false) :
    pending trainees ≠ [] := by
  obtain ⟨trainee, hmem, hbelow⟩ := List.all_eq_false.mp h
  obtain ⟨place, hplace, rfl⟩ := List.getElem_of_mem hmem
  refine List.ne_nil_of_mem (a := (trainees[place], place)) ?_
  simp only [pending, List.mem_filter, List.mem_zipIdx_iff_getElem?]
  exact ⟨List.getElem?_eq_getElem hplace, by simpa using hbelow⟩

theorem length_pending (trainees : List Trainee) :
    (pending trainees).length = trainees.countP fun trainee => !trainee.atTarget := by
  have hfst : trainees.zipIdx.map Prod.fst = trainees := List.zipIdx_map_fst 0 trainees
  calc (pending trainees).length
      = trainees.zipIdx.countP (fun pair => !pair.1.atTarget) := List.countP_eq_length_filter.symm
    _ = (trainees.zipIdx.map Prod.fst).countP (fun trainee => !trainee.atTarget) := by
        rw [List.countP_map]
        rfl
    _ = trainees.countP (fun trainee => !trainee.atTarget) := by rw [hfst]

theorem Made.grows {due : List (Trainee × Nat)} {session last : Session ω}
    {attempts : List (Attempt ω)} (hdue : due ≠ [])
    (h : Made env plan template budget due session attempts (.ok ()) last) :
    session.report.questsRun < last.report.questsRun := by
  have hcounted := h.counted
  have hlength := congrArg List.length (hcounted.all rfl)
  rw [List.length_map] at hlength
  rw [hcounted.exact rfl, hlength]
  exact Nat.lt_add_of_pos_right (List.length_pos_iff.mpr hdue)

end Counting

section Running

variable (env : Environment ω) (plan : ArenaPlan) (budget : Nat)

/-- Every training has a course: the bound on its rounds is never met, because each round counts. -/
theorem course_rounds (selector : Selector) (session : Session ω) (fuel : Nat)
    (h : budget ≤ session.report.questsRun + fuel) :
    ∃ log, Course env plan budget selector session log
      (rounds env plan budget fuel selector session).1
      (rounds env plan budget fuel selector session).2 := by
  -- The fuel covers what is left of the budget, so that without fuel the budget is spent.
  induction fuel generalizing selector session with
  | zero => exact ⟨[], .spent h⟩
  | succ fuel ih =>
      rw [rounds]
      split
      · rename_i hspent
        exact ⟨[], .spent hspent⟩
      · rename_i hopen
        have hbudget : session.report.questsRun < budget := Nat.lt_of_not_le hopen
        split
        · rename_i halt world hcheck
          exact ⟨[], .halted hbudget hcheck⟩
        · rename_i world hcheck
          simp only
          split
          · rename_i htargets
            exact ⟨[], .converged hbudget hcheck htargets⟩
          · rename_i hnot
            have htargets : session.trainees.all Trainee.atTarget = false := by simpa using hnot
            split
            · rename_i next hchoose
              exact ⟨[], .unserved hbudget hcheck htargets hchoose⟩
            · rename_i template next hchoose
              obtain ⟨attempts, hround⟩ := made_round env plan template budget
                (pending session.trainees) { session with world }
              split <;> rename_i hmade <;> rw [hmade] at hround
              · exact ⟨_, .cut hbudget hcheck htargets hchoose hround⟩
              · rename_i settled
                have hgrows := hround.grows (pending_ne_nil htargets)
                have hfuel : budget ≤ settled.report.questsRun + fuel := by
                  simp only at hgrows
                  omega
                obtain ⟨log, hrest⟩ := ih next settled hfuel
                exact ⟨_, .next hbudget hcheck htargets hchoose hround hrest⟩

end Running

end Training

end QuestAcademy
