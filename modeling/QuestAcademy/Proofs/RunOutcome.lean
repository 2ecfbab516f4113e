import QuestAcademy.Proofs.QuestBudget
import QuestAcademy.Proofs.RosterAccounting
import QuestAcademy.Proofs.TrainingEnd

/-!
What comes of runs whose numbers have 32 bits. `Report.CountsOn` is what every step of a run does to
the counts: they only go up, so that their room at the end is their room at every step before, and a
plan that leaves room for its items and its attempts has an outcome.
-/

namespace QuestAcademy

variable {ω : Type}

namespace Report

/-- A later report of the same run. No count goes down, the counts of agents and guilds go up by so
many at most, and no more quests were completed than tried. -/
structure CountsOn (most : Nat) (earlier later : Report) : Prop where
  created : earlier.agentsCreated ≤ later.agentsCreated ∧
    later.agentsCreated ≤ earlier.agentsCreated + most
  skipped : earlier.agentsSkipped ≤ later.agentsSkipped ∧
    later.agentsSkipped ≤ earlier.agentsSkipped + most
  guilds : earlier.guildsCreated ≤ later.guildsCreated ∧
    later.guildsCreated ≤ earlier.guildsCreated + most
  npcs : earlier.npcsSpawned ≤ later.npcsSpawned ∧
    later.npcsSpawned ≤ earlier.npcsSpawned + most
  tried : earlier.questsRun ≤ later.questsRun
  completed : earlier.questsCompleted ≤ later.questsCompleted
  fewer : later.questsCompleted + earlier.questsRun ≤ earlier.questsCompleted + later.questsRun

variable {report later : Report} {most more : Nat}

theorem countsOn_of_counts (h : later.counts = report.counts) : CountsOn 0 report later := by
  simp only [counts, List.cons.injEq] at h
  constructor <;> omega

theorem CountsOn.refl (report : Report) : CountsOn 0 report report := countsOn_of_counts rfl

theorem countsOn_noteError (report : Report) (text : String) :
    CountsOn 0 report (report.noteError text) := countsOn_of_counts rfl

theorem CountsOn.trans {last : Report} (h : CountsOn most report later)
    (hlast : CountsOn more later last) : CountsOn (most + more) report last := by
  obtain ⟨hcreated, hskipped, hguilds, hnpcs, htried, hcompleted, hfewer⟩ := h
  obtain ⟨hcreated', hskipped', hguilds', hnpcs', htried', hcompleted', hfewer'⟩ := hlast
  constructor <;> omega

theorem CountsOn.mono (h : CountsOn most report later) (hle : most ≤ more) :
    CountsOn more report later := by
  obtain ⟨hcreated, hskipped, hguilds, hnpcs, htried, hcompleted, hfewer⟩ := h
  constructor <;> omega

theorem countsOn_noteFounding (report : Report) (founding : Founding) :
    CountsOn 1 report (report.noteFounding founding) := by
  cases founding <;> constructor <;> simp only [noteFounding, noteError] <;> omega

theorem countsOn_notePlacement (report : Report) (placement : Placement) :
    CountsOn 1 report (report.notePlacement placement) := by
  cases placement with
  | placed agent errors =>
      have hone : (if agent.isNpc then 1 else 0) ≤ 1 := by split <;> decide
      constructor <;> simp only [notePlacement] <;> omega
  | skipped | lookupFailed | refused =>
      constructor <;> simp only [notePlacement, noteError] <;> omega

theorem countsOn_absorb (report : Report) {mode : SeedMode} {dryRun : Bool}
    (h : CountsOn most (start mode dryRun) later) : CountsOn most report (report.absorb later) := by
  obtain ⟨hcreated, hskipped, hguilds, hnpcs, htried, hcompleted, hfewer⟩ := h
  simp only [start] at hcreated hskipped hguilds hnpcs htried hcompleted hfewer
  constructor <;> simp only [absorb] <;> omega

theorem fits_iff : report.fits = true ↔ ∀ count ∈ report.counts, count ≤ Limit.word := by
  simp only [fits, List.all_eq_true, decide_eq_true_eq]

theorem CountsOn.fits (h : CountsOn most report later) (hfits : later.fits = true) :
    report.fits = true := by
  obtain ⟨hcreated, hskipped, hguilds, hnpcs, htried, hcompleted, -⟩ := h
  simp only [fits_iff, counts, List.forall_mem_cons, List.not_mem_nil, false_imp_iff, implies_true,
    and_true] at hfits ⊢
  omega

theorem CountsOn.fits_of_start {mode : SeedMode} {dryRun : Bool}
    (h : CountsOn most (start mode dryRun) report) (hmost : most ≤ Limit.word)
    (htried : report.questsRun ≤ Limit.word) : report.fits = true := by
  obtain ⟨hcreated, hskipped, hguilds, hnpcs, -, -, hfewer⟩ := h
  simp only [start, Nat.zero_add, Nat.add_zero] at hcreated hskipped hguilds hnpcs hfewer
  simp only [fits_iff, counts, List.forall_mem_cons, List.not_mem_nil, false_imp_iff, implies_true,
    and_true]
  omega

theorem outcome_eq_some_iff {lengths : List Nat} {ended : Except Failure Report × ω}
    {answer : Except Failure Report} {after : ω} :
    outcome lengths ended = some (answer, after) ↔
      ended = (answer, after) ∧ hasRoom lengths answer = true := by
  unfold outcome
  constructor
  · intro h
    split at h
    · cases h
      exact ⟨rfl, ‹_›⟩
    · cases h
  · rintro ⟨rfl, hroom⟩
    rw [if_pos hroom]

end Report

open Report (CountsOn)

namespace Roster

variable (env : Environment ω) (dryRun idempotent : Bool)

theorem countsOn_seedGuilds (total done : Nat) (charters : List GuildCharter) (report : Report)
    (world : ω) :
    CountsOn charters.length report
      (seedGuilds env dryRun total done charters report world).2.1 := by
  induction charters generalizing done report world with
  | nil => exact .refl report
  | cons charter rest ih =>
      rw [seedGuilds]
      split
      · exact (CountsOn.refl report).mono (Nat.zero_le _)
      · rw [List.length_cons, Nat.add_comm]
        exact (report.countsOn_noteFounding _).trans (ih _ _ _)

theorem countsOn_seedAgents (total done : Nat) (items : List (AgentBatch × String))
    (report : Report) (world : ω) :
    CountsOn items.length report
      (seedAgents env dryRun idempotent total done items report world).2.1 := by
  induction items generalizing done report world with
  | nil => exact .refl report
  | cons item rest ih =>
      rw [seedAgents]
      split
      · exact (CountsOn.refl report).mono (Nat.zero_le _)
      · rw [List.length_cons, Nat.add_comm]
        exact (report.countsOn_notePlacement _).trans (ih _ _ _)

theorem countsOn_seed {plan : RosterPlan} {world after : ω} {report : Report}
    (h : seed env plan dryRun idempotent world = (.ok report, after)) :
    CountsOn (plan.charters.length + plan.items.length) (.start .tieredRoster dryRun) report := by
  unfold seed at h
  simp only at h
  split at h
  · cases h
  · have hguilds := countsOn_seedGuilds env dryRun plan.charters.length 0 plan.charters
      (.start .tieredRoster dryRun) world
    split at h <;> rename_i hfounded <;> rw [hfounded] at hguilds
    · cases h
    · rename_i founded foundedWorld
      have hagents := countsOn_seedAgents env dryRun idempotent plan.agentCount 0 plan.items founded
        foundedWorld
      split at h <;> rename_i hseeded <;> rw [hseeded] at hagents
      · cases h
      · cases h
        exact hguilds.trans hagents

end Roster

namespace Arena

variable (env : Environment ω) (plan : ArenaPlan) (dryRun idempotent : Bool)

theorem countsOn_enlist (name : String) (target : Nat) (preparation : Preparation)
    (session : Session ω) :
    CountsOn 1 session.report (enlist name target preparation session).report := by
  cases preparation <;> constructor <;> simp only [enlist] <;> omega

theorem countsOn_prepare (done : Nat) (profiles : List (TraineeProfile × Nat))
    (session : Session ω) :
    CountsOn profiles.length session.report
      (prepare env plan dryRun idempotent done profiles session).2.report := by
  induction profiles generalizing done session with
  | nil => exact .refl _
  | cons pair rest ih =>
      have hnothing : CountsOn (rest.length + 1) session.report session.report :=
        (CountsOn.refl _).mono (Nat.zero_le _)
      rw [prepare]
      split
      · exact hnothing
      · simp only
        split
        · exact hnothing
        · rename_i preparation made _
          have henlisted := countsOn_enlist (pair.1.traineeName (done + 1))
            plan.targets.convergenceLevel preparation { session with world := made }
          rw [List.length_cons, Nat.add_comm]
          exact henlisted.trans (ih _ _)

theorem length_items_mentors (count first : Nat) :
    (Mentors.roster count first).charters.length + (Mentors.roster count first).items.length =
      count := by
  simp [RosterPlan.length_items, Mentors.roster]

theorem countsOn_spawnMentors (excluded : List String) (session : Session ω) :
    CountsOn plan.bootstrapMentors session.report
      (spawnMentors env plan dryRun excluded session).2.report := by
  have hnothing : CountsOn plan.bootstrapMentors session.report session.report :=
    (CountsOn.refl _).mono (Nat.zero_le _)
  unfold spawnMentors
  split
  · exact hnothing
  · simp only
    split
    · exact hnothing
    · rename_i hseed
      have hspawned := Roster.countsOn_seed env dryRun true hseed
      rw [length_items_mentors] at hspawned
      have habsorbed := Report.countsOn_absorb session.report hspawned
      split
      · exact habsorbed
      · split <;> exact habsorbed

theorem countsOn_resolveMentors (session : Session ω) :
    CountsOn plan.bootstrapMentors session.report
      (resolveMentors env plan dryRun session).2.report := by
  have hnothing : CountsOn plan.bootstrapMentors session.report session.report :=
    (CountsOn.refl _).mono (Nat.zero_le _)
  unfold resolveMentors
  simp only
  split
  · exact hnothing
  · rename_i asked _
    split
    · exact hnothing
    · split
      · exact hnothing
      · exact countsOn_spawnMentors env plan dryRun _ { session with world := asked }

theorem countsOn_ensureMentors (session : Session ω) :
    CountsOn plan.bootstrapMentors session.report
      (ensureMentors env plan dryRun session).2.report := by
  have hresolved := countsOn_resolveMentors env plan dryRun session
  unfold ensureMentors
  split <;> rename_i heq <;> rw [heq] at hresolved
  · exact hresolved
  · exact hresolved.trans (Report.countsOn_noteError _ _)
  · exact hresolved
  · exact hresolved

theorem countsOn_ready (session : Session ω) :
    CountsOn (plan.profiles.length + plan.bootstrapMentors) session.report
      (ready env plan dryRun idempotent session).2.report := by
  have hnothing : CountsOn (plan.profiles.length + plan.bootstrapMentors) session.report
      session.report := (CountsOn.refl _).mono (Nat.zero_le _)
  unfold ready
  split
  · exact hnothing
  · rename_i checked _
    split
    · exact hnothing
    · have hprepared := countsOn_prepare env plan dryRun idempotent 0
        (plan.profiles.zip (plan.targets.tierGoals plan.profiles.length))
        { session with world := checked }
      rw [List.length_zip, Nat.min_eq_left (length_tierGoals _ _)] at hprepared
      simp only
      split <;> rename_i hprepare <;> rw [hprepare] at hprepared
      · exact hprepared.mono (Nat.le_add_right _ _)
      · rename_i prepared
        have hmentored : CountsOn plan.bootstrapMentors prepared.report
            (if plan.mentored then ensureMentors env plan dryRun prepared
              else (.ok (), prepared)).2.report := by
          split
          · exact countsOn_ensureMentors env plan dryRun prepared
          · exact (CountsOn.refl _).mono (Nat.zero_le _)
        split <;> rename_i heq <;> rw [heq] at hmentored <;> exact hprepared.trans hmentored

end Arena

namespace Training

variable {env : Environment ω} {plan : ArenaPlan} {template : Template} {budget : Nat}
  {session last : Session ω} {result : Except Halt Unit}

theorem countsOn_settle {trainee : Trainee} {place : Nat}
    {outcome : Except AttemptError Receipt}
    (h : settle env template budget trainee place outcome session = (result, last)) :
    CountsOn 0 session.report last.report := by
  cases outcome with
  | ok receipt =>
      cases h
      constructor <;> simp only <;> omega
  | error e =>
      cases e with
      | halted halt | board e | execution text | judge e =>
          cases h
          constructor <;> simp only [Report.noteError] <;> omega

theorem InTurn.countsOn {due : List (Trainee × Nat)} {attempts : List (Attempt ω)}
    (h : InTurn env plan template budget due session attempts result last) :
    CountsOn 0 session.report last.report := by
  induction h with
  | done session => exact .refl _
  | halted hattempt hsettle =>
      have hsettled := countsOn_settle hsettle
      exact hsettled
  | next hattempt hsettle hrest ih =>
      have hsettled := countsOn_settle hsettle
      exact hsettled.trans ih

theorem countsOn_settleAll {outcomes : List ((Trainee × Nat) × Except AttemptError Receipt)}
    (h : settleAll env template budget outcomes session = (result, last)) :
    CountsOn 0 session.report last.report := by
  induction outcomes generalizing session with
  | nil =>
      cases h
      exact .refl _
  | cons entry rest ih =>
      rw [settleAll] at h
      split at h <;> rename_i hsettle
      · cases h
        exact countsOn_settle hsettle
      · exact (countsOn_settle hsettle).trans (ih h)

theorem Made.countsOn {due : List (Trainee × Nat)} {attempts : List (Attempt ω)}
    (h : Made env plan template budget due session attempts result last) :
    CountsOn 0 session.report last.report := by
  cases h with
  | inTurn hturn hmade => exact hmade.countsOn
  | atOnce hmany hmade hsettle =>
      have hsettled := countsOn_settleAll hsettle
      exact hsettled

/-- The counts of every round are counted on to the end. -/
theorem Course.countsOn {selector : Selector} {log : List (TrainingRound ω)}
    (h : Course env plan budget selector session log result last) :
    CountsOn 0 session.report last.report ∧
      ∀ round ∈ log, CountsOn 0 round.opening.report last.report := by
  induction h with
  | spent | halted | converged => exact ⟨.refl _, by simp⟩
  | unserved => exact ⟨Report.countsOn_noteError _ _, by simp⟩
  | cut hbudget hcheck htargets hchoose hround =>
      have hmade := hround.countsOn
      exact ⟨hmade, by simpa using hmade⟩
  | next hbudget hcheck htargets hchoose hround hrest ih =>
      have hmade := hround.countsOn.trans ih.1
      exact ⟨hmade, List.forall_mem_cons.mpr ⟨hmade, ih.2⟩⟩

end Training

namespace Arena

variable {env : Environment ω} {plan : ArenaPlan} {dryRun idempotent : Bool} {world after : ω}
  {log : List (TrainingRound ω)} {last : Session ω}

theorem Course.countsOn {result : Except SeedError Unit}
    (h : Course env plan dryRun idempotent world log result last) :
    CountsOn (plan.profiles.length + plan.bootstrapMentors) (.start .trainingArena dryRun)
        last.report ∧
      ∀ round ∈ log, CountsOn 0 round.opening.report last.report := by
  have hbefore := countsOn_ready env plan dryRun idempotent (.start dryRun world)
  cases h with
  | unready hready | dry hdry hready =>
      rw [hready] at hbefore
      exact ⟨hbefore, by simp⟩
  | trained hdry hready hcourse =>
      rw [hready] at hbefore
      exact ⟨hbefore.trans hcourse.countsOn.1, hcourse.countsOn.2⟩

theorem Course.questsRun_le {result : Except SeedError Unit}
    (h : Course env plan dryRun idempotent world log result last) :
    last.report.questsRun ≤
      Training.budget plan plan.profiles.length + plan.profiles.length - 1 := by
  have hnone := congrArg Prod.fst (quests_ready env plan dryRun idempotent (.start dryRun world))
  cases h with
  | unready hready | dry hdry hready =>
      rw [hready] at hnone
      exact (Nat.le_of_eq hnone).trans (Nat.zero_le _)
  | trained hdry hready hcourse =>
      obtain ⟨hplaces, hopening⟩ := ready_counts env plan dryRun idempotent hready
      have hmost := hcourse.count_le
      rw [hplaces, hopening, Nat.zero_max] at hmost
      exact hmost

def reportOf : Except Failure Report → Report
  | .ok report => report
  | .error failure => failure.partialReport

theorem fits_of_hasRoom {lengths : List Nat} {answer : Except Failure Report}
    (h : Report.hasRoom lengths answer = true) : (reportOf answer).fits = true := by
  cases answer with
  | ok report => exact (Bool.and_eq_true _ _ ▸ h).1
  | error failure => exact h

theorem Run.countsOn {answer : Except Failure Report}
    (h : Run env plan dryRun idempotent world log answer after) :
    CountsOn (plan.profiles.length + plan.bootstrapMentors) (.start .trainingArena dryRun)
        (reportOf answer) ∧
      (∀ round ∈ log, CountsOn 0 round.opening.report (reportOf answer)) ∧
      (reportOf answer).questsRun ≤
        Training.budget plan plan.profiles.length + plan.profiles.length - 1 := by
  cases h with
  | @refused fault hvalid =>
      have hsame : CountsOn 0 (.start .trainingArena dryRun)
          ((Report.start .trainingArena dryRun).fail (.plan fault)).partialReport :=
        Report.countsOn_of_counts rfl
      exact ⟨hsame.mono (Nat.zero_le _), by simp, Nat.zero_le _⟩
  | @failed _ e last hvalid hcourse =>
      have hsame : CountsOn 0 last.report
          ((withTrainees last.report last.trainees).fail e).partialReport :=
        Report.countsOn_of_counts rfl
      obtain ⟨hon, hrounds⟩ := hcourse.countsOn
      exact ⟨hon.trans hsame, fun round hround => (hrounds round hround).trans hsame,
        hcourse.questsRun_le⟩
  | @completed _ last trainees _ hvalid hcourse hread =>
      have hsame : CountsOn 0 last.report (withTrainees last.report trainees) :=
        Report.countsOn_of_counts rfl
      obtain ⟨hon, hrounds⟩ := hcourse.countsOn
      exact ⟨hon.trans hsame, fun round hround => (hrounds round hround).trans hsame,
        hcourse.questsRun_le⟩

/-- A run has an outcome if there is room for the trainees, the mentors and the attempts that its
plan allows. -/
theorem exists_outcome (hitems : plan.profiles.length + plan.bootstrapMentors ≤ Limit.word)
    (hbudget : Training.budget plan plan.profiles.length + plan.profiles.length ≤
      Limit.word + 1) :
    ∃ answer after, outcome env plan dryRun idempotent world = some (answer, after) := by
  obtain ⟨log, hrun⟩ := run_run env plan dryRun idempotent world
  cases hended : run env plan dryRun idempotent world with
  | mk answer after =>
      rw [hended] at hrun
      obtain ⟨hon, -, hmost⟩ := hrun.countsOn
      have hfits := hon.fits_of_start hitems (hmost.trans (Nat.sub_le_of_le_add hbudget))
      refine ⟨answer, after, Report.outcome_eq_some_iff.mpr ⟨hended, ?_⟩⟩
      cases answer with
      | error failure => exact hfits
      | ok report =>
          have hnumbers : plan.profiles.length ≤ Limit.word := (Nat.le_add_right _ _).trans hitems
          simp only [Report.hasRoom, List.all_cons, List.all_nil, Bool.and_true, hnumbers,
            decide_true]
          exact hfits

end Arena

end QuestAcademy
