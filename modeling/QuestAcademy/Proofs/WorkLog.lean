import QuestAcademy.Proofs.HallReads
import QuestAcademy.Proofs.RosterCourse
import QuestAcademy.Proofs.RunInvariant

namespace QuestAcademy

variable {ω : Type}

namespace Environment

/-- The same environment, in which the permit never ends: whenever it is asked, work may go on. -/
def unhalted (env : Environment ω) : Environment ω :=
  { env with check := fun world => (.ok (), (env.check world).2) }

@[simp] theorem check_unhalted (env : Environment ω) (world : ω) :
    env.unhalted.check world = (.ok (), (env.check world).2) := rfl

@[simp] theorem store_unhalted (env : Environment ω) : env.unhalted.store = env.store := rfl

@[simp] theorem report_unhalted (env : Environment ω) : env.unhalted.report = env.report := rfl

@[simp] theorem folder_unhalted (env : Environment ω) : env.unhalted.folder = env.folder := rfl

/-- What a world comes to by calls that only ask or announce. -/
inductive Idles (env : Environment ω) (world : ω) : ω → Prop
  | nothing : Idles env world world
  | check {after : ω} (h : Idles env world after) : Idles env world (env.check after).2
  | report (event : ProgressEvent) {after : ω} (h : Idles env world after) :
      Idles env world (env.report event after)
  | getAgent (key : String) {after : ω} (h : Idles env world after) :
      Idles env world (env.store.getAgent key after).2
  | listAgents {after : ω} (h : Idles env world after) :
      Idles env world (env.store.listAgents after).2

section Idling

variable {env : Environment ω} {world middle after : ω}

theorem Idles.trans (h : env.Idles world middle) (hnext : env.Idles middle after) :
    env.Idles world after := by
  induction hnext with
  | nothing => exact h
  | check _ ih => exact ih.check
  | report event _ ih => exact ih.report event
  | getAgent key _ ih => exact ih.getAgent key
  | listAgents _ ih => exact ih.listAgents

theorem Idles.unhalted (h : env.Idles world after) : env.unhalted.Idles world after := by
  induction h with
  | nothing => exact .nothing
  | check _ ih => exact ih.check
  | report event _ ih => exact ih.report event
  | getAgent key _ ih => exact ih.getAgent key
  | listAgents _ ih => exact ih.listAgents

theorem Idles.keeps {P : ω → Prop} (h : env.Idles world after) (hkeeps : env.Preserves P)
    (hworld : P world) : P after := by
  induction h with
  | nothing => exact hworld
  | check _ ih => exact hkeeps.check ih
  | report event _ ih => exact hkeeps.report event ih
  | getAgent key _ ih => exact hkeeps.getAgent key ih
  | listAgents _ ih => exact hkeeps.listAgents ih

theorem Idles.hall_eq {view : HallView ω} (h : env.Idles world after) (hosts : env.Hosts view) :
    view.hall after = view.hall world := by
  induction h with
  | nothing => rfl
  | check _ ih => exact (hosts.hall_check _).trans ih
  | report event _ ih => exact (hosts.hall_report event _).trans ih
  | getAgent key _ ih => exact (hosts.hall_getAgent key _).trans ih
  | listAgents _ ih => exact (hosts.hall_listAgents _).trans ih

theorem idles_find (env : Environment ω) (excluded : List String) (world : ω) :
    env.Idles world (Mentors.find env.store excluded world).2 := by
  have hlisted : env.Idles world (env.store.listAgents world).2 := Idles.nothing.listAgents
  unfold Mentors.find
  split <;> rename_i heq <;> rw [heq] at hlisted <;> exact hlisted

theorem idles_refresh (env : Environment ω) (trainee : Trainee) (world : ω) :
    env.Idles world (Training.refresh env.store trainee world).2 := by
  have hread : env.Idles world (env.store.getAgent trainee.key world).2 :=
    Idles.nothing.getAgent trainee.key
  unfold Training.refresh
  split <;> rename_i heq <;> rw [heq] at hread <;> exact hread

theorem idles_refreshAll (env : Environment ω) (trainees : List Trainee) (world : ω) :
    env.Idles world (Arena.refreshAll env.store trainees world).2 := by
  induction trainees generalizing world with
  | nil => exact .nothing
  | cons trainee rest ih => exact (idles_refresh env trainee world).trans (ih _)

end Idling

end Environment

/-- What a run asks leave for, one at a time. -/
inductive Job
  | found (dryRun : Bool) (charter : GuildCharter) (number total : Nat)
  | place (dryRun idempotent : Bool) (item : AgentBatch × String) (number total : Nat)
  | prepare (dryRun idempotent : Bool) (profile : TraineeProfile) (number total : Nat)
  | attempt (plan : ArenaPlan) (template : Template) (trainee : Trainee)

/-- What a job makes of a world, once leave is given: the asking itself, the announcement and the
work. -/
def Job.act (env : Environment ω) : Job → ω → ω
  | .found dryRun charter number total, world =>
    let world := env.report (Roster.foundingEvent charter number total) (env.check world).2
    (Roster.foundUnless env dryRun charter world).2
  | .place dryRun idempotent item number total, world =>
    let world := env.report (Roster.placingEvent item.2 number total) (env.check world).2
    (Roster.placeUnless env dryRun idempotent item world).2
  | .prepare dryRun idempotent profile number total, world =>
    let name := profile.traineeName number
    let world := env.report (Arena.preparingEvent name number total) (env.check world).2
    (Arena.prepareOne env.store dryRun idempotent profile name world).2
  | .attempt plan template trainee, world =>
    (Training.attempt env.unhalted plan template trainee world).2

/-- A job that was done. -/
structure Piece (ω : Type) where
  job : Job
  /-- The world in which leave was asked. -/
  asked : ω
  after : ω

def Piece.reached (world : ω) (log : List (Piece ω)) : ω :=
  log.foldl (fun _ piece => piece.after) world

theorem Job.act_unhalted (env : Environment ω) (job : Job) (world : ω) :
    job.act env.unhalted world = job.act env world := by
  cases job <;> rfl

namespace Environment

/-- The jobs that were done from one world to another, each with leave. -/
inductive Stretch (env : Environment ω) : ω → List (Piece ω) → ω → Prop
  | idle {world last : ω} (hidle : env.Idles world last) : Stretch env world [] last
  | work {world asked last : ω} {job : Job} {log : List (Piece ω)} (hidle : env.Idles world asked)
      (hleave : (env.check asked).1 = .ok ())
      (hrest : Stretch env (job.act env asked) log last) :
      Stretch env world ({ job, asked, after := job.act env asked } :: log) last

section Stretches

variable {env : Environment ω} {world middle last : ω} {log more : List (Piece ω)}

theorem Stretch.after_idling (hidle : env.Idles world middle) (h : env.Stretch middle log last) :
    env.Stretch world log last := by
  cases h with
  | idle hrest => exact .idle (hidle.trans hrest)
  | work hnext hleave hrest => exact .work (hidle.trans hnext) hleave hrest

theorem Stretch.append (h : env.Stretch world log middle) (hmore : env.Stretch middle more last) :
    env.Stretch world (log ++ more) last := by
  induction h with
  | idle hidle => exact hmore.after_idling hidle
  | work hidle hleave hrest ih => exact .work hidle hleave (ih hmore)

/-- Since only jobs change the hall, it is at the end what the last job left. -/
theorem Stretch.hall_eq {view : HallView ω} (h : env.Stretch world log last)
    (hosts : env.Hosts view) : view.hall last = view.hall (Piece.reached world log) := by
  induction h with
  | idle hidle => exact hidle.hall_eq hosts
  | work hidle hleave hrest ih => exact ih

section Ending

variable {Gone : ω → Prop}
  (hrefused : ∀ world, Gone world → ∃ halt, (env.check world).1 = .error halt)
include hrefused

theorem Stretch.not_gone (h : env.Stretch world log last) :
    ∀ piece ∈ log, ¬ Gone piece.asked := by
  induction h with
  | idle hidle => simp
  | work hidle hleave hrest ih =>
      intro piece hpiece hasked
      rcases List.mem_cons.mp hpiece with rfl | hlater
      · obtain ⟨halt, hcheck⟩ := hrefused _ hasked
        rw [hcheck] at hleave
        cases hleave
      · exact ih piece hlater hasked

variable (hgone : env.Preserves Gone)
include hgone

/-- Once there is no leave any more, no job begins. -/
theorem Stretch.eq_nil_of_gone (h : env.Stretch world log last) (hworld : Gone world) :
    log = [] := by
  cases h with
  | idle hidle => rfl
  | work hidle hleave hrest =>
      have hnot := (Stretch.work hidle hleave hrest).not_gone hrefused _ List.mem_cons_self
      exact absurd (hidle.keeps hgone hworld) hnot

/-- A job during which leave came to an end is the last one. -/
theorem Stretch.last_of_gone (h : env.Stretch world log last) {earlier later : List (Piece ω)}
    {piece : Piece ω} (hlog : log = earlier ++ piece :: later) (hpiece : Gone piece.after) :
    later = [] := by
  induction h generalizing earlier with
  | idle hidle => simp at hlog
  | work hidle hleave hrest ih =>
      cases earlier with
      | nil =>
          obtain ⟨rfl, rfl⟩ := List.cons.inj hlog
          exact hrest.eq_nil_of_gone hrefused hgone hpiece
      | cons first earlier => exact ih (List.cons.inj hlog).2

end Ending

end Stretches

end Environment

end QuestAcademy
