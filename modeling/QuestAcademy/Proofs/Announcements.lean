import QuestAcademy.Proofs.MentorChoice
import QuestAcademy.Proofs.PartialReport
import QuestAcademy.Proofs.QuestAccounting
import QuestAcademy.Proofs.RosterAccounting
import QuestAcademy.Proofs.RosterForecast
import QuestAcademy.Proofs.RosterReseeding
import QuestAcademy.Proofs.ShownCourse

namespace QuestAcademy

variable {ω : Type}

namespace Environment

/-- The same environment, in which nothing comes of reports. -/
def unreporting (env : Environment ω) : Environment ω :=
  { env with report := fun _ world => world }

/-- The world keeps the events that are reported, one after the other. -/
structure Announces (env : Environment ω) (events : ω → List ProgressEvent) : Prop where
  report : ∀ event world, events (env.report event world) = events world ++ [event]
  others : ∀ log, env.unreporting.Preserves fun world => events world = log

section Asking

variable {env : Environment ω} {events : ω → List ProgressEvent} (h : env.Announces events)
include h

theorem Announces.check (world : ω) : events (env.check world).2 = events world :=
  (h.others _).check rfl

theorem Announces.check_eq {world after : ω} {answer : Except Halt Unit}
    (hcheck : env.check world = (answer, after)) : events after = events world := by
  have hsame := h.check world
  rw [hcheck] at hsame
  exact hsame

theorem Announces.listAgents (world : ω) : events (env.store.listAgents world).2 = events world :=
  (h.others _).listAgents rfl

theorem Announces.findMentors (excluded : List String) (world : ω) :
    events (Mentors.find env.store excluded world).2 = events world :=
  (h.others _).findMentors excluded rfl

theorem Announces.foundUnless (dryRun : Bool) (charter : GuildCharter) (world : ω) :
    events (Roster.foundUnless env dryRun charter world).2 = events world :=
  (h.others _).foundUnless dryRun charter rfl

theorem Announces.placeUnless (dryRun idempotent : Bool) (item : AgentBatch × String) (world : ω) :
    events (Roster.placeUnless env dryRun idempotent item world).2 = events world :=
  (h.others _).placeNewUnless dryRun idempotent item.1 item.2 _ rfl

theorem Announces.prepareOne (dryRun idempotent : Bool) (profile : TraineeProfile) (name : String)
    (world : ω) :
    events (Arena.prepareOne env.store dryRun idempotent profile name world).2 = events world :=
  (h.others _).prepareOne dryRun idempotent profile name rfl

theorem Announces.attempt (plan : ArenaPlan) (template : Template) (trainee : Trainee) (world : ω) :
    events (Training.attempt env plan template trainee world).2 = events world :=
  (h.others _).attempt plan template trainee rfl

theorem Announces.refresh (trainee : Trainee) (world : ω) :
    events (Training.refresh env.store trainee world).2 = events world :=
  (h.others _).refresh trainee rfl

theorem Announces.refreshAll (trainees : List Trainee) (world : ω) :
    events (Arena.refreshAll env.store trainees world).2 = events world :=
  (h.others _).refreshAll trainees rfl

end Asking

def onWorld {α κ : Type} (call : ω → α × ω) (pair : ω × κ) : α × (ω × κ) :=
  ((call pair.1).1, (call pair.1).2, pair.2)

/-- The same environment over worlds with a list of the events that were reported. -/
def announcing (env : Environment ω) : Environment (ω × List ProgressEvent) where
  store := {
    space := env.store.space
    putAgent := fun key agent => onWorld (env.store.putAgent key agent)
    getAgent := fun key => onWorld (env.store.getAgent key)
    listAgents := onWorld env.store.listAgents
    putGuild := fun id guild => onWorld (env.store.putGuild id guild)
    getGuild := fun id => onWorld (env.store.getGuild id)
    updateGuild := fun id change => onWorld (env.store.updateGuild id change) }
  board := {
    post := fun draft => onWorld (env.board.post draft)
    claim := fun questId agentId => onWorld (env.board.claim questId agentId)
    start := fun questId => onWorld (env.board.start questId)
    submit := fun questId output verdict => onWorld (env.board.submit questId output verdict)
    abandon := fun questId => onWorld (env.board.abandon questId) }
  execute := fun agent quest => onWorld (env.execute agent quest)
  judge := fun strictness template output => onWorld (env.judge strictness template output)
  report := fun event pair => (env.report event pair.1, pair.2 ++ [event])
  check := onWorld env.check
  folder := env.folder

theorem announces_announcing (env : Environment ω) : env.announcing.Announces Prod.snd where
  report := fun _ _ => rfl
  others := fun _ => {
    putAgent := fun _ hlog => hlog
    getAgent := fun _ _ hlog => hlog
    listAgents := fun hlog => hlog
    putGuild := fun _ _ _ hlog => hlog
    updateGuild := fun _ _ _ hlog => hlog
    report := fun _ _ hlog => hlog
    check := fun hlog => hlog
    post := fun _ _ hlog => hlog
    claim := fun _ _ _ hlog => hlog
    start := fun _ _ hlog => hlog
    submit := fun _ _ _ _ hlog => hlog
    abandon := fun _ _ hlog => hlog
    execute := fun _ _ _ hlog => hlog
    judge := fun _ _ _ _ hlog => hlog }

theorem shows_announcing (env : Environment ω) : env.announcing.Shows Prod.fst env where
  space := rfl
  folder := rfl
  putAgent := fun _ _ _ => rfl
  getAgent := fun _ _ => rfl
  listAgents := fun _ => rfl
  putGuild := fun _ _ _ => rfl
  updateGuild := fun _ _ _ => rfl
  report := fun _ _ => rfl
  check := fun _ => rfl
  post := fun _ _ => rfl
  claim := fun _ _ _ => rfl
  start := fun _ _ => rfl
  submit := fun _ _ _ _ => rfl
  abandon := fun _ _ => rfl
  execute := fun _ _ _ => rfl
  judge := fun _ _ _ _ => rfl

end Environment

/-- One event for each item, in their order and numbered without a gap. -/
def numbered {α : Type} (announce : α → Nat → ProgressEvent) (first : Nat) (items : List α) :
    List ProgressEvent :=
  (items.zipIdx first).map fun entry => announce entry.1 entry.2

section Numbering

variable {α : Type} (announce : α → Nat → ProgressEvent) (first : Nat)

theorem numbered_cons (item : α) (rest : List α) :
    numbered announce first (item :: rest) =
      [announce item first] ++ numbered announce (first + 1) rest := rfl

theorem numbered_append (items others : List α) :
    numbered announce first (items ++ others) =
      numbered announce first items ++ numbered announce (first + items.length) others := by
  rw [numbered, List.zipIdx_append, List.map_append, Nat.add_comm first]
  rfl

end Numbering

/-- What is told of a charter: its number among the guilds, and neither an agent nor a quest. -/
def GuildCharter.announcement (total : Nat) (charter : GuildCharter) (number : Nat) :
    ProgressEvent where
  phase := .guilds
  current := number
  total := total
  percent := percentage number total
  message := "Founding guild " ++ charter.name
  agentName := none
  questTitle := none

/-- What is told of an item: its number among the agents, and its name. -/
def AgentBatch.announcement (total : Nat) (item : AgentBatch × String) (number : Nat) :
    ProgressEvent where
  phase := .agents
  current := number
  total := total
  percent := percentage number total
  message := "Placing agent"
  agentName := some item.2
  questTitle := none

/-- What is told of a profile: its number among the agents, and the name of its trainee. -/
def TraineeProfile.announcement (total : Nat) (profile : TraineeProfile) (number : Nat) :
    ProgressEvent where
  phase := .agents
  current := number
  total := total
  percent := percentage number total
  message := "Preparing trainee"
  agentName := some (profile.traineeName number)
  questTitle := none

/-- What is told of an attempt: its number in the training, the name of the trainee that made it and
the title of what it tried. -/
def Training.announcement (budget : Nat) (attempted : Trainee × Template) (number : Nat) :
    ProgressEvent where
  phase := .training
  current := number
  total := budget
  percent := percentage number budget
  message := "Round quest " ++ attempted.2.title
  agentName := some attempted.1.agent.name
  questTitle := some attempted.2.title

/-- What is told of a roster: first its charters, then its items. -/
def RosterPlan.announcements (plan : RosterPlan) : List ProgressEvent :=
  numbered (GuildCharter.announcement plan.charters.length) 1 plan.charters ++
    numbered (AgentBatch.announcement plan.agentCount) 1 plan.items

namespace Roster

variable {env : Environment ω} {events : ω → List ProgressEvent}

/-- A loop that comes to its end has announced each of its items. -/
theorem Tries.announces {α β : Type} {announce : α → Nat → ProgressEvent} {act : α → ω → β × ω}
    {number : Nat} {items : List α} {world last : ω} {log : List (Trial α β ω)}
    {result : Except Halt Unit} (h : env.Announces events)
    (hact : ∀ item world, events (act item world).2 = events world)
    (htries : Tries env announce act number items world log result last) (hok : result = .ok ()) :
    events last = events world ++ numbered announce (number + 1) items := by
  induction htries with
  | done => exact (List.append_nil _).symm
  | halted => cases hok
  | @next number item rest world checked after _ _ _ _ hcheck htrial hrest ih =>
      have hafter := hact item (env.report (announce item (number + 1)) checked)
      rw [htrial, h.report, h.check_eq hcheck] at hafter
      rw [ih hok, show events after = _ from hafter, numbered_cons, List.append_assoc]

theorem announces_seed (h : env.Announces events) {plan : RosterPlan} {dryRun idempotent : Bool}
    {world after : ω} {report : Report}
    (hseed : seed env plan dryRun idempotent world = (.ok report, after)) :
    events after = events world ++ plan.announcements := by
  obtain ⟨log, result, last, htried, heq⟩ :=
    tried_seed env plan dryRun idempotent (validate_of_seed hseed) world
  rw [heq] at hseed
  obtain ⟨hanswer, rfl⟩ := Prod.mk.inj hseed
  cases result with
  | error halt => cases hanswer
  | ok done =>
      cases htried with
      | chartered hguilds hagents =>
          rw [hagents.announces h (h.placeUnless dryRun idempotent) rfl,
            hguilds.announces h (h.foundUnless dryRun) rfl, RosterPlan.announcements,
            List.append_assoc]
          rfl

end Roster

namespace Arena

variable {env : Environment ω} {events : ω → List ProgressEvent} {plan : ArenaPlan}
  {dryRun idempotent : Bool} {session last : Session ω}

def preparingEvents (plan : ArenaPlan) : List ProgressEvent :=
  numbered (TraineeProfile.announcement plan.profiles.length) 1 plan.profiles

theorem announces_prepare (h : env.Announces events) {done : Nat}
    {profiles : List (TraineeProfile × Nat)}
    (hprepare : prepare env plan dryRun idempotent done profiles session = (.ok (), last)) :
    events last.world = events session.world ++
      numbered (TraineeProfile.announcement plan.profiles.length) (done + 1)
        (profiles.map Prod.fst) := by
  induction profiles generalizing done session with
  | nil =>
      cases hprepare
      exact (List.append_nil _).symm
  | cons pair rest ih =>
      obtain ⟨profile, goal⟩ := pair
      rw [prepare] at hprepare
      split at hprepare
      · cases hprepare
      · rename_i checked hcheck
        have hmade := h.prepareOne dryRun idempotent profile (profile.traineeName (done + 1))
          (env.report (preparingEvent (profile.traineeName (done + 1)) (done + 1)
            plan.profiles.length) checked)
        rw [h.report, h.check_eq hcheck] at hmade
        simp only at hprepare
        split at hprepare <;> rename_i hprepared <;> rw [hprepared] at hmade
        · cases hprepare
        · rw [ih hprepare, Environment.world_enlist, List.map_cons, numbered_cons,
            ← List.append_assoc]
          exact congrArg (· ++ _) hmade

/-- New mentors are announced as a roster of their own. -/
def MentorEvents (plan : ArenaPlan) (mentors : List ProgressEvent) : Prop :=
  mentors = [] ∨ ∃ first, mentors = (Mentors.roster plan.bootstrapMentors first).announcements

theorem exists_mentorEvents_of_eq (plan : ArenaPlan) {told known : List ProgressEvent}
    (h : told = known) : ∃ mentors, MentorEvents plan mentors ∧ told = known ++ mentors :=
  ⟨[], .inl rfl, h.trans (List.append_nil _).symm⟩

theorem announces_spawnMentors (h : env.Announces events) (hbootstrap : plan.bootstrapMentors ≠ 0)
    {excluded : List String} {answer : Except MentorError (List String)}
    (hspawn : spawnMentors env plan dryRun excluded session = (answer, last))
    (hpermit : ∀ halt, answer ≠ .error (.halted halt)) :
    ∃ mentors, MentorEvents plan mentors ∧
      events last.world = events session.world ++ mentors := by
  have hlisted := h.listAgents session.world
  unfold spawnMentors at hspawn
  split at hspawn <;> rename_i hlist <;> rw [hlist] at hlisted
  · cases hspawn
    exact exists_mentorEvents_of_eq plan hlisted
  · rename_i stored listed
    simp only at hspawn
    generalize Mentors.nextOrdinal _ = first at hspawn
    split at hspawn
    · -- The roster of new mentors is valid, so that its run can only be halted.
      rename_i failure placed hseed
      obtain ⟨halt, hhalt⟩ := Roster.halted_of_seed env _ dryRun true
        (Mentors.validate_roster hbootstrap first) hseed
      simp only [hhalt] at hspawn
      cases hspawn
      exact absurd rfl (hpermit halt)
    · rename_i spawned placed hseed
      have hplaced := Roster.announces_seed h hseed
      rw [show events listed = _ from hlisted] at hplaced
      refine ⟨_, .inr ⟨first, rfl⟩, ?_⟩
      rw [← hplaced]
      split at hspawn
      · cases hspawn
        rfl
      · have hfound := h.findMentors excluded placed
        split at hspawn <;> rename_i hfind <;> rw [hfind] at hfound <;> cases hspawn <;>
          exact hfound

theorem announces_resolveMentors (h : env.Announces events)
    {answer : Except MentorError (List String)}
    (hresolve : resolveMentors env plan dryRun session = (answer, last))
    (hpermit : ∀ halt, answer ≠ .error (.halted halt)) :
    ∃ mentors, MentorEvents plan mentors ∧
      events last.world = events session.world ++ mentors := by
  have hfound := h.findMentors (session.trainees.map fun trainee => trainee.agent.id) session.world
  unfold resolveMentors at hresolve
  simp only at hresolve
  split at hresolve <;> rename_i hfind <;> rw [hfind] at hfound
  · cases hresolve
    exact exists_mentorEvents_of_eq plan hfound
  · split at hresolve
    · cases hresolve
      exact exists_mentorEvents_of_eq plan hfound
    · split at hresolve
      · cases hresolve
        exact exists_mentorEvents_of_eq plan hfound
      · rename_i hbootstrap
        obtain ⟨mentors, hmentors, hevents⟩ :=
          announces_spawnMentors h hbootstrap hresolve hpermit
        refine ⟨mentors, hmentors, hevents.trans ?_⟩
        exact congrArg (· ++ mentors) hfound

theorem announces_ensureMentors (h : env.Announces events)
    (hensure : ensureMentors env plan dryRun session = (.ok (), last)) :
    ∃ mentors, MentorEvents plan mentors ∧
      events last.world = events session.world ++ mentors := by
  cases hresolve : resolveMentors env plan dryRun session with
  | mk answer resolved =>
      have hworld : last.world = resolved.world ∧ ∀ halt, answer ≠ .error (.halted halt) := by
        unfold ensureMentors at hensure
        rw [hresolve] at hensure
        split at hensure <;> rename_i heq <;> cases heq <;> cases hensure
        · rename_i hnot
          refine ⟨rfl, ?_⟩
          rintro halt heq
          cases heq
          exact hnot halt rfl
        · exact ⟨rfl, nofun⟩
        · exact ⟨rfl, nofun⟩
      rw [hworld.1]
      exact announces_resolveMentors h hresolve hworld.2

/-- Before the training the trainees are announced, and new mentors if there are any. -/
theorem announces_ready (h : env.Announces events) {curriculum : Curriculum}
    (hready : ready env plan dryRun idempotent session = (.ok curriculum, last)) :
    ∃ mentors, MentorEvents plan mentors ∧
      events last.world = events session.world ++ (preparingEvents plan ++ mentors) := by
  obtain ⟨checked, prepared, hcheck, hprepare, hmentored⟩ := phases_of_ready _ _ _ _ hready
  have hprepared := announces_prepare h hprepare
  rw [List.map_fst_zip (length_tierGoals _ _), h.check_eq hcheck] at hprepared
  unfold mentorPhase at hmentored
  split at hmentored
  · obtain ⟨mentors, hmentors, hevents⟩ := announces_ensureMentors h hmentored
    refine ⟨mentors, hmentors, ?_⟩
    rw [hevents, hprepared, List.append_assoc]
    rfl
  · cases hmentored
    refine ⟨[], .inl rfl, ?_⟩
    rw [hprepared, List.append_nil]
    rfl

end Arena

namespace TrainingRound

/-- Who tried what in some rounds, attempt by attempt. -/
def tries (log : List (TrainingRound ω)) : List (Trainee × Template) :=
  log.flatMap fun round => round.attempts.map fun attempt => (attempt.trainee, round.template)

end TrainingRound

namespace Training

variable {env : Environment ω} {events : ω → List ProgressEvent} {plan : ArenaPlan}
  {template : Template} {budget : Nat} {session last : Session ω}

def triesEvents (budget before : Nat) (tries : List (Trainee × Template)) : List ProgressEvent :=
  numbered (announcement budget) (before + 1) tries

theorem triesEvents_append (budget before : Nat) (tries others : List (Trainee × Template)) :
    triesEvents budget before (tries ++ others) =
      triesEvents budget before tries ++ triesEvents budget (before + tries.length) others := by
  rw [triesEvents, numbered_append, Nat.add_right_comm]
  rfl

theorem announces_settle (h : env.Announces events) {trainee : Trainee} {place : Nat}
    {outcome : Except AttemptError Receipt}
    (hsettle : settle env template budget trainee place outcome session = (.ok (), last)) :
    events last.world = events session.world ++
      [roundEvent trainee template (session.report.questsRun + 1) budget] := by
  have hcount := (counts_settle hsettle).1
  unfold settle at hsettle
  split at hsettle
  · cases hsettle
  · rename_i report hnoted
    have hread := h.refresh trainee
      (env.report (roundEvent trainee template report.questsRun budget) session.world)
    obtain ⟨-, rfl⟩ := Prod.mk.inj hsettle
    rw [h.report] at hread
    rw [show session.report.questsRun + 1 = report.questsRun from hcount.symm]
    exact hread

theorem InTurn.announces (h : env.Announces events) {due : List (Trainee × Nat)}
    {attempts : List (Attempt ω)} {result : Except Halt Unit}
    (hmade : InTurn env plan template budget due session attempts result last)
    (hok : result = .ok ()) :
    events last.world = events session.world ++ triesEvents budget session.report.questsRun
      (attempts.map fun attempt => (attempt.trainee, template)) := by
  induction hmade with
  | done => exact (List.append_nil _).symm
  | halted => cases hok
  | @next trainee place rest session settled last outcome after attempts result hattempt hsettle
      hrest ih =>
      have hsettled := announces_settle h hsettle
      have hattempted := h.attempt plan template trainee session.world
      rw [hattempt] at hattempted
      have hcount : settled.report.questsRun = session.report.questsRun + 1 :=
        (counts_settle hsettle).1
      rw [ih hok, hsettled, hcount, show events after = _ from hattempted, List.append_assoc]
      rfl

/-- A training that comes to its end has announced each attempt by the number that its report had
then. -/
theorem Course.announces (h : env.Announces events) (hturn : plan.concurrency ≤ 1)
    {selector : Selector} {log : List (TrainingRound ω)} {result : Except Halt Unit}
    (hcourse : Course env plan budget selector session log result last) (hok : result = .ok ()) :
    events last.world = events session.world ++
        triesEvents budget session.report.questsRun (TrainingRound.tries log) ∧
      last.report.questsRun = session.report.questsRun + (TrainingRound.tries log).length := by
  induction hcourse with
  | spent => exact ⟨(List.append_nil _).symm, rfl⟩
  | halted | cut => cases hok
  | converged hbudget hcheck | unserved hbudget hcheck =>
      exact ⟨(h.check_eq hcheck).trans (List.append_nil _).symm, rfl⟩
  | @next selector next session settled last world template attempts log result hbudget hcheck
      htargets hchoose hround hrest ih =>
      -- The rest of the course counts on from the attempts of this round.
      obtain ⟨hlast, hcount⟩ := ih hok
      have hcounted := hround.counted.exact rfl
      cases hround with
      | atOnce hmany => exact absurd hturn hmany
      | inTurn _ hmade =>
          have hsettled := hmade.announces h rfl
          have hchecked : events world = events session.world := h.check_eq hcheck
          have htries : TrainingRound.tries
              ({ template, opening := { session with world }, attempts } :: log) =
                attempts.map (fun attempt => (attempt.trainee, template)) ++
                  TrainingRound.tries log := rfl
          rw [hlast, hcount, hcounted, hsettled, hchecked, htries, triesEvents_append,
            List.length_append, List.length_map, List.append_assoc]
          exact ⟨rfl, Nat.add_assoc _ _ _⟩

end Training

namespace Arena

variable {env : Environment ω} {events : ω → List ProgressEvent} {plan : ArenaPlan}
  {dryRun idempotent : Bool} {world : ω}

/-- What a completed run announces: its trainees, new mentors if there are any, and its attempts. -/
structure Announced (plan : ArenaPlan) (log : List (TrainingRound ω)) (report : Report)
    (told : List ProgressEvent) : Prop where
  events : ∃ mentors, MentorEvents plan mentors ∧
    told = numbered (TraineeProfile.announcement plan.profiles.length) 1 plan.profiles ++
      mentors ++ numbered (Training.announcement (Training.budget plan plan.profiles.length)) 1
        (TrainingRound.tries log)
  counted : (TrainingRound.tries log).length = report.questsRun

theorem Course.announces (h : env.Announces events) (hturn : plan.concurrency ≤ 1)
    {log : List (TrainingRound ω)} {last : Session ω} {result : Except SeedError Unit}
    (hcourse : Course env plan dryRun idempotent world log result last) (hok : result = .ok ()) :
    ∃ told, events last.world = events world ++ told ∧ Announced plan log last.report told := by
  cases hcourse with
  | unready => cases hok
  | dry hdry hready =>
      obtain ⟨mentors, hmentors, hevents⟩ := announces_ready h hready
      have hnone := (ready_counts env plan dryRun idempotent hready).2
      exact ⟨_, hevents, ⟨mentors, hmentors, (List.append_nil _).symm⟩, hnone.symm⟩
  | @trained curriculum opening _ _ result hdry hready hcourse =>
      obtain ⟨mentors, hmentors, hevents⟩ := announces_ready h hready
      obtain ⟨hplaces, hnone⟩ := ready_counts env plan dryRun idempotent hready
      have hdone : result = .ok () := by
        cases result with
        | error halt => cases hok
        | ok done => rfl
      obtain ⟨htrained, hcount⟩ := hcourse.announces h hturn hdone
      rw [hplaces, hnone, hevents] at htrained
      rw [hnone, Nat.zero_add] at hcount
      exact ⟨_, htrained.trans (List.append_assoc _ _ _), ⟨mentors, hmentors, rfl⟩, hcount.symm⟩

theorem Run.announces (h : env.Announces events) (hturn : plan.concurrency ≤ 1)
    {log : List (TrainingRound ω)} {report : Report} {after : ω}
    (hrun : Run env plan dryRun idempotent world log (.ok report) after) :
    ∃ told, events after = events world ++ told ∧ Announced plan log report told := by
  cases hrun with
  | @completed _ last trainees _ hvalid hcourse hread =>
      obtain ⟨told, hevents, htold⟩ := hcourse.announces h hturn rfl
      refine ⟨told, ?_, htold.events, htold.counted⟩
      rw [← hevents]
      split at hread
      · cases hread
        rfl
      · have hrefreshed := h.refreshAll last.trainees last.world
        rw [hread] at hrefreshed
        exact hrefreshed

end Arena

def Roster.announced (env : Environment ω) (plan : RosterPlan) (dryRun idempotent : Bool)
    (world : ω) : List ProgressEvent :=
  (seed env.announcing plan dryRun idempotent (world, [])).2.2

def Arena.announced (env : Environment ω) (plan : ArenaPlan) (dryRun idempotent : Bool)
    (world : ω) : List ProgressEvent :=
  (run env.announcing plan dryRun idempotent (world, [])).2.2

theorem TrainingRound.tries_shown {σ : Type} (shown : σ → ω) (log : List (TrainingRound σ)) :
    tries (log.map (TrainingRound.shown shown)) = tries log := by
  simp only [tries, List.flatMap_map, TrainingRound.shown, List.map_map]
  rfl

/-- Whatever is stored, whatever fails for an item and however long the run is, a completed run
announces each item once and in order: a roster its charters and then its items, an arena without
concurrency its trainees, new mentors and then its attempts. -/
theorem announced_in_order (env : Environment ω) (dryRun idempotent : Bool) (world : ω) :
    (∀ (plan : RosterPlan) report after, plan.items.length ≤ ordinalLimit →
        Roster.seed env plan dryRun idempotent world = (.ok report, after) →
      Roster.announced env plan dryRun idempotent world =
        numbered (GuildCharter.announcement plan.charters.length) 1 plan.charters ++
          numbered (AgentBatch.announcement plan.items.length) 1 plan.items) ∧
      ∀ (plan : ArenaPlan) report after, plan.concurrency ≤ 1 →
        Arena.outcome env plan dryRun idempotent world = some (.ok report, after) →
      ∃ log, Arena.Run env plan dryRun idempotent world log (.ok report) after ∧
        Arena.Announced plan log report (Arena.announced env plan dryRun idempotent world) := by
  constructor
  · intro plan report after hfits hseed
    have hshown := env.shows_announcing.seed dryRun idempotent plan (world, [])
    rw [hseed] at hshown
    cases htold : Roster.seed env.announcing plan dryRun idempotent (world, []) with
    | mk result last =>
        rw [htold] at hshown
        cases hshown
        have hevents := Roster.announces_seed env.announces_announcing htold
        rw [RosterPlan.announcements, plan.agentCount_eq, Nat.min_eq_right hfits] at hevents
        rw [Roster.announced, htold]
        exact hevents
  · intro plan report after hturn houtcome
    have hshown := env.shows_announcing.run plan dryRun idempotent (world, [])
    rw [(Report.outcome_eq_some_iff.mp houtcome).1] at hshown
    cases htold : Arena.run env.announcing plan dryRun idempotent (world, []) with
    | mk result last =>
        rw [htold] at hshown
        cases hshown
        obtain ⟨log, hlog⟩ := Arena.run_run env.announcing plan dryRun idempotent (world, [])
        rw [htold] at hlog
        obtain ⟨told, hevents, hannounced⟩ := hlog.announces env.announces_announcing hturn
        refine ⟨_, env.shows_announcing.arenaRun hlog, ?_⟩
        rw [Arena.announced, htold, show last.2 = told from hevents]
        refine ⟨?_, ?_⟩
        · rw [TrainingRound.tries_shown]
          exact hannounced.events
        · rw [TrainingRound.tries_shown]
          exact hannounced.counted

/-- Three scouts who may try two quests each, and for whom two mentors are created. -/
def Arena.apprentices : ArenaPlan :=
  { Arena.scouts with questsPerTrainee := 2, mentored := true, bootstrapMentors := 2 }

def ProgressEvent.gist (event : ProgressEvent) :
    Phase × Nat × Nat × Option String × Option String :=
  (event.phase, event.current, event.total, event.agentName, event.questTitle)

/-- An agent of a roster cannot be stored; and a mentor cannot be stored either, and one of three
scouts may not claim quests. All of them are announced. -/
theorem announced_in_order_apprentices :
    let world := { Rehearsal.onStore .empty with storeCalls := .create [("put_agent", [2])] }
    (∃ report after,
        Roster.seed Rehearsal.quiet RosterPlan.troupe false true world = (.ok report, after) ∧
          (Roster.announced Rehearsal.quiet RosterPlan.troupe false true world).map
              ProgressEvent.gist =
            [(.guilds, 1, 2, none, none), (.guilds, 2, 2, none, none),
              (.agents, 1, 5, some "player-3", none), (.agents, 2, 5, some "player-4", none),
              (.agents, 3, 5, some "player-5", none), (.agents, 4, 5, some "player-6", none),
              (.agents, 5, 5, some "officer 3", none)]) ∧
      ∃ report after log,
        Arena.Run Rehearsal.quiet Arena.apprentices false true Arena.troubledWorld log (.ok report)
            after ∧
          Arena.Announced Arena.apprentices log report
            (Arena.announced Rehearsal.quiet Arena.apprentices false true Arena.troubledWorld) ∧
          (Arena.announced Rehearsal.quiet Arena.apprentices false true Arena.troubledWorld).map
              ProgressEvent.gist =
            [(.agents, 1, 3, some "scout-1", none), (.agents, 2, 3, some "scout-2", none),
              (.agents, 3, 3, some "scout-3", none), (.agents, 1, 2, some "mentor-1", none),
              (.agents, 2, 2, some "mentor-2", none),
              (.training, 1, 6, some "scout-1", some "Summarize a short note"),
              (.training, 2, 6, some "scout-2", some "Summarize a short note"),
              (.training, 3, 6, some "scout-3", some "Summarize a short note"),
              (.training, 4, 6, some "scout-1", some "Summarize a short note"),
              (.training, 5, 6, some "scout-2", some "Summarize a short note"),
              (.training, 6, 6, some "scout-3", some "Summarize a short note")] := by
  intro world
  have hroster := (announced_in_order Rehearsal.quiet false true world).1
  have harena := (announced_in_order Rehearsal.quiet false true Arena.troubledWorld).2
  have hseeds : (Roster.seed Rehearsal.quiet RosterPlan.troupe false true world).1.toOption.map
      Report.agentsCreated = some 4 := by decide +kernel
  have hruns : (Arena.run Rehearsal.quiet Arena.apprentices false true
      Arena.troubledWorld).1.toOption.map Report.questsRun = some 6 := by decide +kernel
  obtain ⟨seeded, populated, hseed, -⟩ := exists_ok_of_map hseeds
  obtain ⟨report, after, hrun, -⟩ := exists_ok_of_map hruns
  have hexists : ∃ answer last, Arena.outcome Rehearsal.quiet Arena.apprentices false true
      Arena.troubledWorld = some (answer, last) := Arena.exists_outcome (by decide) (by decide)
  obtain ⟨answer, last, houtcome⟩ := hexists
  obtain ⟨rfl, rfl⟩ := Prod.mk.inj (hrun.symm.trans (Report.outcome_eq_some_iff.mp houtcome).1)
  obtain ⟨log, hlog, hannounced⟩ := harena Arena.apprentices report after (by decide) houtcome
  refine ⟨⟨seeded, populated, hseed, ?_⟩, report, after, log, hlog, hannounced, ?_⟩
  · rw [hroster RosterPlan.troupe seeded populated (by decide +kernel) hseed]
    decide +kernel
  · decide +kernel

end QuestAcademy
