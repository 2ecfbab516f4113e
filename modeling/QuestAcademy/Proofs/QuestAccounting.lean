import QuestAcademy.Proofs.AttemptReport
import QuestAcademy.Proofs.LastingPermit
import QuestAcademy.Proofs.RunInvariant
import QuestAcademy.Proofs.RunOutcome

namespace QuestAcademy

variable {ω : Type}

namespace Board

/-- A call does to the board what `op` does to it, whatever the calls that `op` makes answer; or it
fails and does nothing. -/
def Plays {α : Type} (board : ω → Board) (call : ω → Except BoardError α × ω)
    (op : Board → ω → Except BoardError α × Board × ω) : Prop :=
  ∀ world, (∃ e, (call world).1 = .error e) ∧ board (call world).2 = board world ∨
    ∃ ready, (call world).1 = (op (board world) ready).1 ∧
      board (call world).2 = (op (board world) ready).2.1

section Counting

variable (store : StoreAccess ω) (board : Board) (world : ω)

theorem submissions_transition {id : String} {expected next : QuestStatus} {quest : Quest}
    {moved : Board} (h : board.transition id expected next = .ok (quest, moved)) :
    moved.submissions = board.submissions := by
  unfold transition at h
  split at h
  · cases h
  · split at h
    · cases h
    · cases h
      rfl

theorem submissions_post (draft : Draft) :
    (post draft board).2.submissions = board.submissions := by
  unfold post
  split <;> rfl

theorem submissions_start (questId : String) :
    (start questId board).2.submissions = board.submissions := by
  unfold start
  split
  · rfl
  · split
    · rfl
    · rename_i htransition
      exact board.submissions_transition htransition

theorem submissions_claim (questId agentId : String) :
    (claim store questId agentId board world).2.1.submissions = board.submissions := by
  unfold claim
  split
  · rfl
  · split
    · rfl
    · split
      · rfl
      · split
        · rfl
        · rename_i htransition
          have hmoved := board.submissions_transition htransition
          simp only
          split <;> exact hmoved

theorem submissions_abandon (questId : String) :
    (abandon store questId board world).2.1.submissions = board.submissions := by
  have hwithdrawn : ∀ quest : Quest, (if quest.status.isActive then
      board.change questId fun quest => { quest with status := .failed }
      else board).submissions = board.submissions := by
    intro quest
    split <;> rfl
  unfold abandon
  split
  · rfl
  · simp only
    split
    · exact hwithdrawn _
    · split
      · exact hwithdrawn _
      · split
        · exact hwithdrawn _
        · split <;> exact hwithdrawn _

theorem submissions_submit {questId : String} {output : Payload} {verdict : Verdict}
    {answer : Except BoardError Receipt} {left : Board} {after : ω}
    (h : submit store questId output verdict board world = (answer, left, after)) :
    left.submissions = board.submissions + if answer.isOk then 1 else 0 := by
  unfold submit at h
  split at h
  · cases h
    rfl
  · split at h
    · cases h
      rfl
    · rename_i htransition
      have hmoved := board.submissions_transition htransition
      split at h
      · cases h
        exact hmoved
      · split at h
        · cases h
          exact hmoved
        · simp only at h
          split at h
          · cases h
            exact hmoved
          · cases h
            exact congrArg (· + 1) hmoved

end Counting

theorem Plays.submissions {α : Type} {board : ω → Board} {call : ω → Except BoardError α × ω}
    {op : Board → ω → Except BoardError α × Board × ω} (h : Plays board call op)
    (hop : ∀ board world, (op board world).2.1.submissions = board.submissions) (world : ω) :
    (board (call world).2).submissions = (board world).submissions := by
  obtain ⟨-, hkept⟩ | ⟨ready, -, hafter⟩ := h world
  · rw [hkept]
  · rw [hafter]
    exact hop _ _

end Board

namespace Environment

/-- The board of a world is one in memory, over any store; only its own calls change it. -/
structure RunsBoard (env : Environment ω) (board : ω → Board) : Prop where
  putAgent : ∀ key agent world, board (env.store.putAgent key agent world).2 = board world
  getAgent : ∀ key world, board (env.store.getAgent key world).2 = board world
  listAgents : ∀ world, board (env.store.listAgents world).2 = board world
  putGuild : ∀ id guild world, board (env.store.putGuild id guild world).2 = board world
  updateGuild : ∀ id change world, board (env.store.updateGuild id change world).2 = board world
  post : ∀ draft, Board.Plays board (env.board.post draft) (Board.alone (Board.post draft))
  claim : ∀ questId agentId, Board.Plays board (env.board.claim questId agentId)
    (Board.claim env.store questId agentId)
  start : ∀ questId, Board.Plays board (env.board.start questId)
    (Board.alone (Board.start questId))
  submit : ∀ questId output verdict, Board.Plays board (env.board.submit questId output verdict)
    (Board.submit env.store questId output verdict)
  abandon : ∀ questId, Board.Plays board (env.board.abandon questId)
    (Board.abandon env.store questId)
  execute : ∀ agent quest world, board (env.execute agent quest world).2 = board world
  judge : ∀ strictness template output world,
    board (env.judge strictness template output world).2 = board world
  report : ∀ event world, board (env.report event world) = board world
  check : ∀ world, board (env.check world).2 = board world

theorem Hosts.runsBoard {env : Environment ω} {view : HallView ω} (h : env.Hosts view) :
    env.RunsBoard fun world => (view.hall world).board := by
  have honStore : ∀ {α : Type} {call : ω → Except StoreError α × ω}
      {op : Store → Except StoreError α × Store}, view.OnStore call op →
      ∀ world, (view.hall (call world).2).board = (view.hall world).board := by
    intro α call op hcall world
    obtain ⟨-, ⟨-, -, hkept⟩ | ⟨-, hafter⟩⟩ := hcall world
    · rw [hkept]
    · rw [hafter]
  have honBoard : ∀ {α : Type} {call : ω → Except BoardError α × ω}
      {op : Board → ω → Except BoardError α × Board × ω}, view.OnBoard call op →
      Board.Plays (fun world => (view.hall world).board) call op := by
    intro α call op hcall world
    obtain ⟨-, ⟨-, hfails, hkept⟩ | ⟨ready, -, -, hanswer, hafter⟩⟩ := hcall world
    · exact .inl ⟨hfails, congrArg Hall.board hkept⟩
    · exact .inr ⟨ready, hanswer, congrArg Hall.board hafter⟩
  exact {
    putAgent := fun key agent => honStore (h.putAgent key agent)
    getAgent := fun key => honStore (h.getAgent key)
    listAgents := honStore h.listAgents
    putGuild := fun id guild => honStore (h.putGuild id guild)
    updateGuild := fun id change => honStore (h.updateGuild id change)
    post := fun draft => honBoard (h.post draft)
    claim := fun questId agentId => honBoard (h.claim questId agentId)
    start := fun questId => honBoard (h.start questId)
    submit := fun questId output verdict => honBoard (h.submit questId output verdict)
    abandon := fun questId => honBoard (h.abandon questId)
    execute := fun agent quest world => congrArg Hall.board (h.execute agent quest world).1
    judge := fun strictness template output world =>
      congrArg Hall.board (h.judge strictness template output world).1
    report := fun event world => congrArg Hall.board (h.report event world).1
    check := fun world => congrArg Hall.board (h.check world).1 }

variable {env : Environment ω} {board : ω → Board} {plan : ArenaPlan} {template : Template}
  {world : ω}

theorem RunsBoard.preservesSeeding (h : env.RunsBoard board) (count : Nat) :
    env.PreservesSeeding fun world => (board world).submissions = count where
  putAgent := fun _ hworld => by rwa [h.putAgent]
  getAgent := fun _ _ hworld => by rwa [h.getAgent]
  listAgents := fun hworld => by rwa [h.listAgents]
  putGuild := fun _ _ _ hworld => by rwa [h.putGuild]
  updateGuild := fun _ _ _ hworld => by rwa [h.updateGuild]
  report := fun _ _ hworld => by rwa [h.report]
  check := fun hworld => by rwa [h.check]

theorem completed_eq_isOk (attempt : Attempt ω) : attempt.completed = attempt.outcome.isOk := by
  unfold Attempt.completed Attempt.failure?
  cases attempt.outcome <;> rfl

/-- The board has taken one more output if there was no error, and none otherwise. -/
def TakesIn {ε α : Type} (board : ω → Board) (count : Nat) (answer : Except ε α × ω) : Prop :=
  (board answer.2).submissions = count + if answer.1.isOk then 1 else 0

theorem RunsBoard.takesIn_submit (h : env.RunsBoard board) (questId : String)
    (output : Payload) (verdict : Verdict) (world : ω) :
    TakesIn board (board world).submissions
      (env.board.submit questId output verdict world) := by
  unfold TakesIn
  obtain ⟨⟨e, hfails⟩, hkept⟩ | ⟨ready, hanswer, hafter⟩ := h.submit questId output verdict world
  · rw [hfails, hkept]
    rfl
  · rw [hanswer, hafter]
    exact (board world).submissions_submit env.store ready rfl

theorem RunsBoard.takesIn_complete (h : env.RunsBoard board) (plan : ArenaPlan)
    (template : Template) (trainee : Trainee) (quest : Quest) (world : ω) :
    TakesIn board (board world).submissions
      (Training.complete env plan trainee template quest world) := by
  have hstarted := (h.start quest.id).submissions
    (fun board _ => board.submissions_start quest.id) world
  unfold Training.complete
  split <;> rename_i heq <;> rw [heq] at hstarted
  · exact hstarted
  · rename_i started
    have hexecuted := congrArg Board.submissions (h.execute trainee.agent quest started)
    split <;> rename_i hexecute <;> rw [hexecute] at hexecuted
    · exact hexecuted.trans hstarted
    · rename_i output executed
      have hjudged := congrArg Board.submissions (h.judge plan.strictness template output executed)
      split <;> rename_i hjudge <;> rw [hjudge] at hjudged
      · exact hjudged.trans (hexecuted.trans hstarted)
      · rename_i judgement judged
        have hsubmitted := h.takesIn_submit quest.id output (judgement.toVerdict
          (Training.baseExperience template.difficulty plan.multiplier)) judged
        rw [hjudged, hexecuted, hstarted] at hsubmitted
        simp only
        split <;> rename_i hsubmit <;> rw [hsubmit] at hsubmitted <;> exact hsubmitted

theorem RunsBoard.takesIn_attempt (h : env.RunsBoard board) (plan : ArenaPlan)
    (template : Template) (trainee : Trainee) (world : ω) :
    TakesIn board (board world).submissions
      (Training.attempt env plan template trainee world) := by
  have hchecked := congrArg Board.submissions (h.check world)
  unfold Training.attempt
  split <;> rename_i heq <;> rw [heq] at hchecked
  · exact hchecked
  · rename_i checked
    have hposted := (h.post (Training.draft plan trainee template)).submissions
      (fun board _ => board.submissions_post _) checked
    split <;> rename_i hpost <;> rw [hpost] at hposted
    · exact hposted.trans hchecked
    · rename_i quest posted
      have hclaimed := (h.claim quest.id trainee.agent.id).submissions
        (fun board world => board.submissions_claim env.store world _ _) posted
      split <;> rename_i hclaim <;> rw [hclaim] at hclaimed
      · exact hclaimed.trans (hposted.trans hchecked)
      · rename_i claimed
        have hcompleted := h.takesIn_complete plan template trainee quest claimed
        rw [hclaimed, hposted, hchecked] at hcompleted
        split <;> rename_i hcomplete <;> rw [hcomplete] at hcompleted
        · exact hcompleted
        · rename_i failed
          -- Giving the quest up leaves the count as the failed completion left it.
          have habandoned := (h.abandon quest.id).submissions
            (fun board world => board.submissions_abandon env.store world _) failed
          exact habandoned.trans hcompleted

section Rounds

variable {budget : Nat} {session last : Session ω} {result : Except Halt Unit}
  {attempts : List (Attempt ω)}

theorem RunsBoard.submissions_settle (h : env.RunsBoard board) {trainee : Trainee} {place : Nat}
    {outcome : Except AttemptError Receipt}
    (hsettle : Training.settle env template budget trainee place outcome session =
      (result, last)) :
    (board last.world).submissions = (board session.world).submissions := by
  have hkept := (h.preservesSeeding (board session.world).submissions).settle template budget
    trainee place outcome session rfl
  rw [hsettle] at hkept
  exact hkept

theorem RunsBoard.submissions_inTurn (h : env.RunsBoard board) {due : List (Trainee × Nat)}
    (hmade : Training.InTurn env plan template budget due session attempts result last) :
    (board last.world).submissions =
      (board session.world).submissions + attempts.countP Attempt.completed := by
  induction hmade with
  | done session => rfl
  | @halted trainee _ _ session _ _ _ _ hattempt hsettle =>
      have htaken := h.takesIn_attempt plan template trainee session.world
      rw [hattempt] at htaken
      rw [h.submissions_settle hsettle, List.countP_singleton, completed_eq_isOk]
      exact htaken
  | @next trainee _ _ session _ _ _ _ attempts _ hattempt hsettle hrest ih =>
      have htaken := h.takesIn_attempt plan template trainee session.world
      rw [hattempt] at htaken
      rw [ih, h.submissions_settle hsettle, List.countP_cons, completed_eq_isOk,
        Nat.add_comm (List.countP _ _), ← Nat.add_assoc]
      exact congrArg (· + attempts.countP Attempt.completed) htaken

theorem RunsBoard.submissions_course (h : env.RunsBoard board) (hturn : plan.concurrency ≤ 1)
    {selector : Selector} {log : List (TrainingRound ω)}
    (hcourse : Training.Course env plan budget selector session log result last) :
    (board last.world).submissions =
      (board session.world).submissions + (log.map TrainingRound.completed).sum := by
  have hchecked : ∀ {world after : ω} {answer : Except Halt Unit},
      env.check world = (answer, after) →
      (board after).submissions = (board world).submissions := by
    intro world after answer hcheck
    have hkept := congrArg Board.submissions (h.check world)
    rw [hcheck] at hkept
    exact hkept
  induction hcourse with
  | spent => rfl
  | halted _ hcheck | converged _ hcheck | unserved _ hcheck => exact hchecked hcheck
  | cut _ hcheck _ _ hmade =>
      rw [h.submissions_inTurn (hmade.eachInTurn hturn), hchecked hcheck]
      rfl
  | next _ hcheck _ _ hmade hrest ih =>
      rw [ih, h.submissions_inTurn (hmade.eachInTurn hturn), hchecked hcheck, List.map_cons,
        List.sum_cons, Nat.add_assoc]
      rfl

end Rounds

end Environment

namespace Arena

open TrainingRound (attemptsIn)

theorem attemptsIn_eq_sum (log : List (TrainingRound ω)) :
    attemptsIn log = (log.map fun round => round.attempts.length).sum := by
  induction log with
  | nil => rfl
  | cons round rest ih => rw [attemptsIn, ih, List.map_cons, List.sum_cons]

section Phases

variable (env : Environment ω) (plan : ArenaPlan) (dryRun idempotent : Bool)

def mentorPhase (session : Session ω) : Except SeedError Unit × Session ω :=
  if plan.mentored then ensureMentors env plan dryRun session else (.ok (), session)

def preparePhase (session : Session ω) : Except SeedError Unit × Session ω :=
  prepare env plan dryRun idempotent 0
    (plan.profiles.zip (plan.targets.tierGoals plan.profiles.length)) session

theorem phases_of_ready {session opening : Session ω} {curriculum : Curriculum}
    (h : ready env plan dryRun idempotent session = (.ok curriculum, opening)) :
    ∃ checked prepared, env.check session.world = (.ok (), checked) ∧
      preparePhase env plan dryRun idempotent { session with world := checked } =
        (.ok (), prepared) ∧
      mentorPhase env plan dryRun prepared = (.ok (), opening) := by
  unfold ready at h
  split at h
  · cases h
  · rename_i checked hcheck
    split at h
    · cases h
    · simp only at h
      split at h
      · cases h
      · rename_i prepared hprepare
        split at h
        · cases h
        · rename_i hmentored
          cases h
          exact ⟨checked, prepared, hcheck, hprepare, hmentored⟩

end Phases

/-- The books of a completed run with the rounds of its training. -/
structure Books (env : Environment ω) (plan : ArenaPlan) (idempotent : Bool) (world : ω)
    (log : List (TrainingRound ω)) (report : Report) : Prop where
  attempts : report.questsRun = attemptsIn log
  /-- Whatever was tried and not completed has left an entry. -/
  failures : report.questsRun =
    report.questsCompleted + (log.flatMap TrainingRound.errors).length
  /-- Other entries are from the phase of the mentors, or say that there was nothing to try. -/
  errors : ∃ checked prepared opening unserved,
    env.check world = (.ok (), checked) ∧
    preparePhase env plan false idempotent (.start false checked) = (.ok (), prepared) ∧
    prepared.report.errors = [] ∧
    mentorPhase env plan false prepared = (.ok (), opening) ∧
    (unserved = [] ∨ ∃ level, unserved = [Training.unservedText level]) ∧
    report.errors = opening.report.errors ++ log.flatMap TrainingRound.errors ++ unserved

variable {env : Environment ω} {board : ω → Board} {plan : ArenaPlan} {dryRun idempotent : Bool}
  {world : ω} {log : List (TrainingRound ω)} {last : Session ω}

theorem PreservesSeeding.ready {P : ω → Prop} (h : env.PreservesSeeding P) (plan : ArenaPlan)
    (dryRun idempotent : Bool) (session : Session ω) (hworld : P session.world) :
    P (ready env plan dryRun idempotent session).2.world := by
  have hchecked := h.check hworld
  unfold Arena.ready
  split <;> rename_i heq <;> rw [heq] at hchecked
  · exact hchecked
  · split
    · exact hchecked
    · rename_i checked _ _ _
      have hprepared := h.prepare plan dryRun idempotent 0
        (plan.profiles.zip (plan.targets.tierGoals plan.profiles.length))
        { session with world := checked } hchecked
      simp only
      split <;> rename_i hprepare <;> rw [hprepare] at hprepared
      · exact hprepared
      · rename_i prepared
        have hmentored : P (if plan.mentored then ensureMentors env plan dryRun prepared
            else (.ok (), prepared)).2.world := by
          split
          · exact h.ensureMentors plan dryRun hprepared
          · exact hprepared
        split <;> rename_i hmentor <;> rw [hmentor] at hmentored <;> exact hmentored

/-- The board and the report have counted the same. -/
def Balanced (board : ω → Board) (count : Nat) (report : Report) (world : ω) : Prop :=
  (board world).submissions = count + report.questsCompleted ∧
    report.questsCompleted ≤ report.questsRun

/-- A count of the board that starts over after 32 bits goes up by as many as the report counts. -/
theorem Balanced.increase {count : Nat} {report : Report} {after : ω}
    (h : Balanced board count report after) (hfits : report.fits = true) :
    (UInt32.ofNat (board after).submissions - UInt32.ofNat count).toNat =
      report.questsCompleted := by
  have hroom : report.questsCompleted ≤ Limit.word :=
    Report.fits_iff.mp hfits _ (by simp [Report.counts])
  rw [h.1, Nat.add_comm, UInt32.ofNat_add, UInt32.add_sub_cancel]
  exact UInt32.toNat_ofNat_of_lt' (Nat.lt_succ_of_le hroom)

theorem balanced_ready (h : env.RunsBoard board) {result : Except SeedError Curriculum}
    (hready : ready env plan dryRun idempotent (.start dryRun world) = (result, last)) :
    Balanced board (board world).submissions last.report last.world := by
  have hkept := PreservesSeeding.ready (h.preservesSeeding (board world).submissions) plan dryRun
    idempotent (.start dryRun world) rfl
  have hquests := quests_ready env plan dryRun idempotent (.start dryRun world)
  rw [hready] at hkept hquests
  have hrun : last.report.questsRun = 0 := congrArg Prod.fst hquests
  have hcompleted : last.report.questsCompleted = 0 := congrArg Prod.snd hquests
  rw [Balanced, hrun, hcompleted]
  exact ⟨hkept, Nat.le_refl _⟩

theorem Course.balanced (h : env.RunsBoard board) (hturn : plan.concurrency ≤ 1)
    {result : Except SeedError Unit}
    (hcourse : Course env plan dryRun idempotent world log result last) :
    Balanced board (board world).submissions last.report last.world := by
  cases hcourse with
  | unready hready => exact balanced_ready h hready
  | dry hdry hready => exact balanced_ready h hready
  | trained hdry hready hcourse =>
      obtain ⟨hopening, hfewer⟩ := balanced_ready h hready
      obtain ⟨⟨unserved, -, hreport⟩, -⟩ := hcourse.report hturn
      rw [Balanced, hreport, Report.noteRounds_eq, h.submissions_course hturn hcourse, hopening]
      exact ⟨Nat.add_assoc _ _ _,
        Nat.add_le_add hfewer (TrainingRound.sum_completed_le log)⟩

theorem Course.books (hturn : plan.concurrency ≤ 1)
    (hcourse : Course env plan false idempotent world log (.ok ()) last) :
    Books env plan idempotent world log last.report := by
  generalize hresult : (Except.ok () : Except SeedError Unit) = result at hcourse
  cases hcourse with
  | unready => cases hresult
  | dry hdry => cases hdry
  | @trained _ opening _ _ result hdry hready hcourse =>
      have hdone : result = .ok () := by
        cases result with
        | error halt => cases hresult
        | ok done => rfl
      obtain ⟨checked, prepared, hcheck, hprepare, hmentored⟩ := phases_of_ready _ _ _ _ hready
      have hquests := quests_ready env plan false idempotent (.start false world)
      rw [hready] at hquests
      have hrun : opening.report.questsRun = 0 := congrArg Prod.fst hquests
      have hcompleted : opening.report.questsCompleted = 0 := congrArg Prod.snd hquests
      have hnone := (report_prepare env plan false idempotent 0
        (plan.profiles.zip (plan.targets.tierGoals plan.profiles.length))
        (.start false checked)).2
      have hprepared : preparePhase env plan false idempotent (.start false checked) =
        (.ok (), prepared) := hprepare
      rw [preparePhase] at hprepared
      rw [hprepared] at hnone
      obtain ⟨⟨unserved, htext, hreport⟩, hgoes⟩ := hcourse.report hturn
      rw [hreport, Report.noteRounds_eq, hrun, hcompleted]
      refine ⟨?_, ?_, checked, prepared, opening, unserved, hcheck, hprepare, hnone, hmentored,
        htext, rfl⟩
      · rw [attemptsIn_eq_sum]
        exact Nat.zero_add _
      · simp only [Nat.zero_add]
        exact TrainingRound.sum_attempts_eq (hgoes hdone)

theorem Run.accounts (h : env.RunsBoard board) (hturn : plan.concurrency ≤ 1)
    {log : List (TrainingRound ω)} {answer : Except Failure Report} {after : ω}
    (hrun : Run env plan dryRun idempotent world log answer after) :
    Balanced board (board world).submissions (reportOf answer) after ∧
      ∀ report, answer = .ok report → dryRun = false →
        Books env plan idempotent world log report := by
  cases hrun with
  | refused hvalid => exact ⟨⟨rfl, Nat.le_refl _⟩, nofun⟩
  | failed hvalid hcourse => exact ⟨hcourse.balanced h hturn, nofun⟩
  | @completed _ last trainees _ hvalid hcourse hread =>
      obtain ⟨hcounted, hfewer⟩ := hcourse.balanced h hturn
      have hkept : (board after).submissions = (board last.world).submissions := by
        have hrefreshed := (h.preservesSeeding (board last.world).submissions).refreshAll
          last.trainees rfl
        split at hread
        · cases hread
          rfl
        · rw [hread] at hrefreshed
          exact hrefreshed
      refine ⟨⟨hkept.trans hcounted, hfewer⟩, ?_⟩
      rintro report hreport rfl
      cases hreport
      obtain ⟨hattempts, hfailures, herrors⟩ := hcourse.books hturn
      exact ⟨hattempts, hfailures, herrors⟩

/-- The books of whatever comes of a run are balanced, whichever calls fail and whether it comes to
its end or not, also if the board counts by 32 bits; and a run that comes to its end accounts for
every attempt. A run only comes to nothing if its plan allows more items or attempts than there are
numbers. -/
theorem run_accounts (h : env.RunsBoard board) (plan : ArenaPlan) (hturn : plan.concurrency ≤ 1)
    (dryRun idempotent : Bool) (world : ω) :
    (∀ answer after, outcome env plan dryRun idempotent world = some (answer, after) →
      ∃ log, Run env plan dryRun idempotent world log answer after ∧
        (∀ round ∈ log, round.opening.report.fits = true) ∧ (reportOf answer).fits = true ∧
        Balanced board (board world).submissions (reportOf answer) after ∧
        (UInt32.ofNat (board after).submissions - UInt32.ofNat (board world).submissions).toNat =
          (reportOf answer).questsCompleted ∧
        ∀ report, answer = .ok report → dryRun = false →
          Books env plan idempotent world log report) ∧
      (plan.profiles.length + plan.bootstrapMentors ≤ Limit.word →
        Training.budget plan plan.profiles.length + plan.profiles.length ≤ Limit.word + 1 →
        ∃ answer after, outcome env plan dryRun idempotent world = some (answer, after)) := by
  refine ⟨?_, exists_outcome⟩
  intro answer after houtcome
  obtain ⟨hended, hroom⟩ := Report.outcome_eq_some_iff.mp houtcome
  obtain ⟨log, hrun⟩ := run_run env plan dryRun idempotent world
  rw [hended] at hrun
  have hfits := fits_of_hasRoom hroom
  obtain ⟨-, hrounds, -⟩ := hrun.countsOn
  obtain ⟨hbalanced, hbooks⟩ := hrun.accounts h hturn
  exact ⟨log, hrun, fun round hround => (hrounds round hround).fits hfits, hfits, hbalanced,
    hbalanced.increase hfits, hbooks⟩

def troubledWorld : Rehearsal :=
  { Rehearsal.onStore .scouted with
    board := Board.empty.bar "guildhall.agent.scout-2"
    storeCalls := .create [("put_agent", [5])] }

theorem run_accounts_troubled : ∃ report after log,
    outcome Rehearsal.quiet scouts false true troubledWorld = some (.ok report, after) ∧
      Run Rehearsal.quiet scouts false true troubledWorld log (.ok report) after ∧
      Balanced Rehearsal.board 0 report after ∧
      Books Rehearsal.quiet scouts true troubledWorld log report ∧
      (report.questsRun, report.questsCompleted) = (3, 1) := by
  have hcounts : (run Rehearsal.quiet scouts false true troubledWorld).1.toOption.map
      (fun report => (report.questsRun, report.questsCompleted)) = some (3, 1) := by
    decide +kernel
  obtain ⟨report, after, hrun, hreport⟩ := exists_ok_of_map hcounts
  obtain ⟨haccounts, hexists⟩ := run_accounts
    Rehearsal.hosts_quiet.runsBoard scouts (by decide) false true troubledWorld
  obtain ⟨answer, last, houtcome⟩ := hexists (by decide) (by decide)
  obtain ⟨rfl, rfl⟩ := Prod.mk.inj (hrun.symm.trans (Report.outcome_eq_some_iff.mp houtcome).1)
  obtain ⟨log, hlog, -, -, hbalanced, -, hbooks⟩ := haccounts _ _ houtcome
  exact ⟨report, after, log, houtcome, hlog, hbalanced, hbooks report rfl rfl, hreport⟩

end Arena

end QuestAcademy
