import QuestAcademy.Proofs.BoardHistory
import QuestAcademy.Proofs.ReadyHall

/-!
What an attempt leaves behind in a hall that is ready. From its claim on, the trainee is engaged: it
is busy, its quest is being worked on, and no agent has changed but for its status. A verdict ends
this, and so does giving the quest up, which an attempt that fails in between always does.
-/

namespace QuestAcademy

variable {ω : Type}

theorem Verdict.finalStatus_eq (verdict : Verdict) :
    verdict.finalStatus = .completed ∨ verdict.finalStatus = .failed := by
  unfold finalStatus
  split
  · exact .inl rfl
  · exact .inr rfl

namespace Board

/-- One quest is new on the board, behind the old ones. -/
structure Adds (old : Board) (quest : Quest) (board : Board) : Prop where
  quests : board.quests = old.quests ++ [quest]
  new : ∀ other ∈ old.quests, other.id ≠ quest.id

section Adds

variable {old board : Board} {quest : Quest}

theorem Numbered.adds_fresh (h : old.Numbered) (draft : Draft) :
    old.Adds (old.fresh draft) (old.add (old.fresh draft)) where
  quests := rfl
  new := fun other hother hid => h.freshId_not_mem (List.mem_map.mpr ⟨other, hother, hid⟩)

theorem Adds.quest?_id (h : old.Adds quest board) : board.quest? quest.id = some quest := by
  have hold : old.quests.find? (fun other => other.id = quest.id) = none := by
    rw [List.find?_eq_none]
    intro other hother hid
    exact h.new other hother (of_decide_eq_true hid)
  rw [quest?, h.quests, List.find?_append, hold]
  simp

theorem Adds.change (h : old.Adds quest board) {f : Quest → Quest}
    (hf : ∀ quest, (f quest).id = quest.id) :
    old.Adds (f quest) (board.change quest.id f) := by
  refine ⟨?_, ?_⟩
  · have hold : old.quests.map (fun other => if other.id = quest.id then f other else other) =
        old.quests := by
      rw [List.map_congr_left fun other hother => if_neg (h.new other hother), List.map_id']
    simp only [Board.change, h.quests, List.map_append, hold, List.map_singleton, if_true]
  · intro other hother
    rw [hf]
    exact h.new other hother

theorem Adds.setStatus (h : old.Adds quest board) (status : QuestStatus) :
    old.Adds { quest with status } (board.setStatus quest.id status) :=
  h.change (f := fun quest => { quest with status }) fun _ => rfl

theorem Adds.assign (h : old.Adds quest board) (agentId : String) :
    old.Adds { quest with status := .claimed, claimedBy := some agentId }
      (board.assign quest.id agentId) :=
  h.change (f := fun quest => { quest with status := .claimed, claimedBy := some agentId })
    fun _ => rfl

theorem Adds.settle (h : old.Adds quest board) (output : Payload) (verdict : Verdict) :
    old.Adds { quest with status := verdict.finalStatus }
      (board.settle quest.id output verdict) :=
  ⟨(h.setStatus verdict.finalStatus).quests, h.new⟩

theorem Adds.eq_of_quest? (h : old.Adds quest board) {found : Quest}
    (hfound : board.quest? quest.id = some found) : found = quest := by
  rw [h.quest?_id] at hfound
  exact (Option.some.inj hfound).symm

end Adds

end Board

namespace Hall

/-- No agent has changed but for its status. -/
def SparesAgents (before after : Hall) : Prop :=
  ∀ key, Option.Rel Agent.SameButStatus (before.store.agents.find? key)
    (after.store.agents.find? key)

theorem SparesAgents.refl (hall : Hall) : hall.SparesAgents hall :=
  fun _ => Agent.rel_sameButStatus_refl _

/-- The agent under a key is busy with a quest that is new on the board, and that is all that is
different from before. -/
structure Engaged (space key : String) (before : Hall) (quest : Quest) (hall : Hall) : Prop where
  ready : hall.Ready space
  added : before.board.Adds quest hall.board
  active : quest.status.isActive = true
  claimant : quest.claimedBy = some (entityId space key)
  spared : before.SparesAgents hall
  busy : ∃ agent, hall.store.agents.find? key = some agent ∧ agent.status = .busy

/-- A quest that is new on the board is finished, and the agent under the key is idle. -/
structure Released (key : String) (before : Hall) (quest : Quest) (hall : Hall) : Prop where
  added : before.board.Adds quest hall.board
  status : quest.status = .completed ∨ quest.status = .failed
  idle : ∃ agent, hall.store.agents.find? key = some agent ∧ agent.status = .idle

section Steps

variable {space key : String} {before hall after : Hall} {quest : Quest}
  {answer : Except BoardError BoardAnswer}

theorem Ready.find?_of_load? (h : hall.Ready space) {agent : Agent}
    (hload : hall.store.load? (entityId space key) = some agent) :
    hall.store.agents.find? key = some agent ∧ instanceKey agent.name = key := by
  obtain ⟨found, hfound, hid⟩ := (h.keyed.load?_eq_some_iff h.working.reads).mp hload
  rw [(entityId_inj space).mp hid]
  exact ⟨hfound, h.keyed.key found agent hfound⟩

theorem SparesAgents.save (h : before.SparesAgents hall) (hready : hall.Ready space)
    {agent : Agent} (hload : hall.store.load? (entityId space key) = some agent)
    (board : Board) (status : Availability) :
    before.SparesAgents { board, store := hall.store.save { agent with status } } := by
  obtain ⟨hfound, hkey⟩ := hready.find?_of_load? hload
  intro other
  simp only [Store.find?_save hready.working, hkey]
  split
  · rename_i hother
    have hsame := h key
    rw [hfound] at hsame
    rw [hother]
    cases hbefore : before.store.agents.find? key with
    | none =>
        rw [hbefore] at hsame
        cases hsame
    | some old =>
        rw [hbefore] at hsame
        cases hsame with
        | some hsame => exact .some (hsame.trans rfl)
  · exact h other

theorem Ready.find?_save (h : hall.Ready space) {agent : Agent}
    (hload : hall.store.load? (entityId space key) = some agent) (changed : Agent)
    (hname : changed.name = agent.name) :
    (hall.store.save changed).agents.find? key = some changed := by
  obtain ⟨-, hkey⟩ := h.find?_of_load? hload
  rw [Store.find?_save h.working, hname, if_pos hkey.symm]

theorem Ready.claim (h : hall.Ready space) (hadded : before.board.Adds quest hall.board)
    (hspared : before.SparesAgents hall)
    (hstep : hall.Step (.claim quest.id (entityId space key)) answer after) :
    (∀ e, answer = .error e → after = hall) ∧
      (∀ reply, answer = .ok reply →
        ∃ claimed, claimed.id = quest.id ∧ Engaged space key before claimed after) := by
  have hready := h.step hstep
  cases hstep with
  | refused => exact ⟨fun _ _ => rfl, nofun⟩
  | claimUnsaved e _ _ _ hwrites =>
      rw [h.working.writes] at hwrites
      cases hwrites
  | @claimed _ _ _ agent _ _ _ hload _ =>
      refine ⟨nofun, ?_⟩
      intro reply _
      have hbusy := h.find?_save hload { agent with status := .busy } rfl
      exact ⟨{ quest with status := .claimed, claimedBy := some (entityId space key) }, rfl, hready,
        hadded.assign _, rfl, rfl, hspared.save h hload _ .busy, _, hbusy, rfl⟩

theorem Engaged.start (h : Engaged space key before quest hall)
    (hstep : hall.Step (.start quest.id) answer after) :
    ∃ started, started.id = quest.id ∧ Engaged space key before started after := by
  have hready := h.ready.step hstep
  cases hstep with
  | refused => exact ⟨quest, rfl, h⟩
  | started =>
      exact ⟨{ quest with status := .inProgress }, rfl, hready, h.added.setStatus .inProgress, rfl,
        h.claimant, h.spared, h.busy⟩

theorem Engaged.load? (h : Engaged space key before quest hall) :
    ∃ agent, hall.store.load? (entityId space key) = some agent ∧ agent.status = .busy := by
  obtain ⟨agent, hagent, hbusy⟩ := h.busy
  exact ⟨agent, (h.ready.keyed.load?_eq_some_iff h.ready.working.reads).mpr ⟨key, hagent, rfl⟩,
    hbusy⟩

theorem Engaged.submit (h : Engaged space key before quest hall) {output : Payload}
    {verdict : Verdict} (hstep : hall.Step (.submit quest.id output verdict) answer after) :
    (∀ e, answer = .error e → after = hall) ∧
      (∀ reply, answer = .ok reply →
        ∃ judged, judged.id = quest.id ∧ Released key before judged after) := by
  obtain ⟨agent, hload, -⟩ := h.load?
  cases hstep with
  | refused => exact ⟨fun _ _ => rfl, nofun⟩
  | unsettled e _ hquest _ hfails =>
      rw [h.added.eq_of_quest? hquest] at hfails
      rcases hfails _ h.claimant with hnone | hwrites
      · rw [hload] at hnone
        cases hnone
      · rw [h.ready.working.writes] at hwrites
        cases hwrites
  | @settled _ _ _ found _ stored _ hquest _ hclaimant hstored =>
      rw [h.added.eq_of_quest? hquest, h.claimant] at hclaimant
      cases hclaimant
      refine ⟨nofun, ?_⟩
      intro reply _
      have hidle := h.ready.find?_save hstored
        (Board.applyVerdict verdict found.draft.requiredSkills stored)
        (Board.name_applyVerdict verdict _ stored)
      exact ⟨{ quest with status := verdict.finalStatus }, rfl, h.added.settle output verdict,
        verdict.finalStatus_eq, _, hidle, rfl⟩

theorem Engaged.abandon (h : Engaged space key before quest hall)
    (hstep : hall.Step (.abandon quest.id) answer after) :
    (∃ failed, failed.id = quest.id ∧ Released key before failed after) ∧
      before.SparesAgents after := by
  obtain ⟨agent, hload, hbusy⟩ := h.load?
  -- The quest exists, it is active and its claimant is busy: no way to leave it as it is applies.
  cases hstep with
  | refused e hallows => exact absurd ⟨quest, h.added.quest?_id⟩ hallows
  | withdrawn _ hquest hfree =>
      rw [h.added.eq_of_quest? hquest] at hfree
      obtain ⟨other, hother, hnot⟩ := hfree _ h.claimant
      rw [hload] at hother
      cases hother
      exact absurd hbusy hnot
  | unreleased e _ hquest hclaimant hfails =>
      rw [h.added.eq_of_quest? hquest, h.claimant] at hclaimant
      cases hclaimant
      rcases hfails with hnone | ⟨-, -, -, hwrites⟩
      · rw [hload] at hnone
        cases hnone
      · rw [h.ready.working.writes] at hwrites
        cases hwrites
  | @released _ _ _ stored _ hquest hclaimant hstored =>
      rw [h.added.eq_of_quest? hquest, h.claimant] at hclaimant
      cases hclaimant
      have hwithdraw : hall.board.withdraw quest.id quest = hall.board.setStatus quest.id .failed :=
        if_pos h.active
      rw [h.added.eq_of_quest? hquest, hwithdraw]
      have hidle := h.ready.find?_save hstored { stored with status := .idle } rfl
      exact ⟨⟨{ quest with status := .failed }, rfl, h.added.setStatus .failed, .inr rfl, _, hidle,
        rfl⟩, h.spared.save h.ready hstored _ .idle⟩

end Steps

end Hall

namespace Training

variable (env : Environment ω) (plan : ArenaPlan) (template : Template) (trainee : Trainee)

inductive Attempted (before : ω) : Except AttemptError Receipt → ω → Prop
  | halted {halt : Halt} {after : ω} (hcheck : env.check before = (.error halt, after)) :
      Attempted before (.error (.halted halt)) after
  | unposted {e : BoardError} {checked after : ω} (hcheck : env.check before = (.ok (), checked))
      (hpost : env.board.post (draft plan trainee template) checked = (.error e, after)) :
      Attempted before (.error (.board e)) after
  | unclaimed {quest : Quest} {e : BoardError} {checked posted after : ω}
      (hcheck : env.check before = (.ok (), checked))
      (hpost : env.board.post (draft plan trainee template) checked = (.ok quest, posted))
      (hclaim : env.board.claim quest.id trainee.agent.id posted = (.error e, after)) :
      Attempted before (.error (.board e)) after
  | completed {quest : Quest} {receipt : Receipt} {checked posted claimed after : ω}
      (hcheck : env.check before = (.ok (), checked))
      (hpost : env.board.post (draft plan trainee template) checked = (.ok quest, posted))
      (hclaim : env.board.claim quest.id trainee.agent.id posted = (.ok (), claimed))
      (hcomplete : complete env plan trainee template quest claimed = (.ok receipt, after)) :
      Attempted before (.ok receipt) after
  | abandoned {quest : Quest} {e : AttemptError} {checked posted claimed failed : ω}
      (hcheck : env.check before = (.ok (), checked))
      (hpost : env.board.post (draft plan trainee template) checked = (.ok quest, posted))
      (hclaim : env.board.claim quest.id trainee.agent.id posted = (.ok (), claimed))
      (hcomplete : complete env plan trainee template quest claimed = (.error e, failed)) :
      Attempted before (.error e) (env.board.abandon quest.id failed).2

theorem attempted_attempt (before : ω) :
    Attempted env plan template trainee before (attempt env plan template trainee before).1
      (attempt env plan template trainee before).2 := by
  unfold attempt
  split
  · rename_i hcheck
    exact .halted hcheck
  · rename_i hcheck
    split
    · rename_i hpost
      exact .unposted hcheck hpost
    · rename_i hpost
      split
      · rename_i hclaim
        exact .unclaimed hcheck hpost hclaim
      · rename_i hclaim
        split
        · rename_i hcomplete
          exact .completed hcheck hpost hclaim hcomplete
        · rename_i hcomplete
          exact .abandoned hcheck hpost hclaim hcomplete

end Training

namespace Attempt

variable (env : Environment ω) (plan : ArenaPlan) (template : Template)

def Posts (attempt : Attempt ω) (quest : Quest) (posted : ω) : Prop :=
  ∃ checked, env.check attempt.before = (.ok (), checked) ∧
    env.board.post (Training.draft plan attempt.trainee template) checked = (.ok quest, posted)

def Claims (attempt : Attempt ω) : Prop :=
  ∃ quest posted claimed, attempt.Posts env plan template quest posted ∧
    env.board.claim quest.id attempt.trainee.agent.id posted = (.ok (), claimed)

/-- Nothing is left hanging after an attempt. -/
structure Settled (view : HallView ω) (attempt : Attempt ω) : Prop where
  /-- Without a quest of its own, an attempt leaves all quests as they were. -/
  unposted : (∀ quest posted, ¬ attempt.Posts env plan template quest posted) →
    (view.hall attempt.after).board.quests = (view.hall attempt.before).board.quests
  /-- A quest that was posted is not being worked on, and no other has changed. -/
  posted : ∀ quest posted, attempt.Posts env plan template quest posted →
    ∃ last, last.id = quest.id ∧
      (view.hall attempt.before).board.Adds last (view.hall attempt.after).board ∧
      (last.status = .posted ∨ last.status = .completed ∨ last.status = .failed)
  /-- An attempt that failed has changed no agent but for its status. -/
  spared : ∀ e, attempt.outcome = .error e →
    (view.hall attempt.before).SparesAgents (view.hall attempt.after)
  idle : attempt.Claims env plan template →
    ∃ agent, (view.hall attempt.after).store.agents.find? attempt.trainee.key = some agent ∧
      agent.status = .idle

section Ending

variable {env : Environment ω} {plan : ArenaPlan} {template : Template} {attempt : Attempt ω}
  {view : HallView ω}

theorem Settled.of_unposted
    (hnone : ∀ quest posted, ¬ attempt.Posts env plan template quest posted)
    (hsame : view.hall attempt.after = view.hall attempt.before) :
    attempt.Settled env plan template view where
  unposted := fun _ => by rw [hsame]
  posted := fun quest posted hposts => absurd hposts (hnone quest posted)
  spared := fun _ _ => by
    rw [hsame]
    exact .refl _
  idle := by
    rintro ⟨quest, posted, -, hposts, -⟩
    exact absurd hposts (hnone quest posted)

theorem Posts.eq {quest other : Quest} {posted world : ω}
    (h : attempt.Posts env plan template quest posted)
    (hother : attempt.Posts env plan template other world) : other = quest ∧ world = posted := by
  obtain ⟨checked, hcheck, hpost⟩ := h
  obtain ⟨again, hagain, hrepost⟩ := hother
  rw [hcheck] at hagain
  cases hagain
  rw [hpost] at hrepost
  cases hrepost
  exact ⟨rfl, rfl⟩

theorem Settled.of_posts {quest last : Quest} {posted : ω}
    (hposts : attempt.Posts env plan template quest posted) (hid : last.id = quest.id)
    (hadds : (view.hall attempt.before).board.Adds last (view.hall attempt.after).board)
    (hstatus : last.status = .posted ∨ last.status = .completed ∨ last.status = .failed)
    (hspared : ∀ e, attempt.outcome = .error e →
      (view.hall attempt.before).SparesAgents (view.hall attempt.after))
    (hidle : ∀ claimed,
      env.board.claim quest.id attempt.trainee.agent.id posted = (.ok (), claimed) →
      ∃ agent, (view.hall attempt.after).store.agents.find? attempt.trainee.key = some agent ∧
        agent.status = .idle) :
    attempt.Settled env plan template view where
  unposted := fun hnone => absurd hposts (hnone quest posted)
  posted := by
    intro other world hother
    obtain ⟨rfl, rfl⟩ := hposts.eq hother
    exact ⟨last, hid, hadds, hstatus⟩
  spared := hspared
  idle := by
    rintro ⟨other, world, claimed, hother, hclaim⟩
    obtain ⟨rfl, rfl⟩ := hposts.eq hother
    exact hidle claimed hclaim

end Ending

end Attempt

namespace Environment

variable {env : Environment ω} {view : HallView ω} {world : ω} {plan : ArenaPlan}
  {template : Template} {key : String} {before : Hall} {quest : Quest}

/-- In a world that works, the agent under a key is engaged with the quest of an id. -/
structure AtWork (env : Environment ω) (view : HallView ω) (key : String) (before : Hall)
    (id : String) (world : ω) : Prop where
  works : view.works world
  engaged : ∃ quest, quest.id = id ∧
    Hall.Engaged env.store.space key before quest (view.hall world)

section Working

variable {id : String}

theorem AtWork.unseen (h : env.AtWork view key before id world) {change : ω → ω}
    (hchange : view.Unseen change) : env.AtWork view key before id (change world) := by
  obtain ⟨hhall, hworks⟩ := hchange world
  refine ⟨hworks h.works, ?_⟩
  rw [hhall]
  exact h.engaged

theorem AtWork.start (h : env.AtWork view key before id world) (hosts : env.Hosts view) :
    env.AtWork view key before id (env.board.start id world).2 := by
  obtain ⟨quest, rfl, hengaged⟩ := h.engaged
  obtain ⟨hstep, hworks⟩ := hosts.step h.works (.start quest.id)
  exact ⟨hworks, hengaged.start hstep⟩

theorem AtWork.submit (h : env.AtWork view key before id world) (hosts : env.Hosts view)
    {output : Payload} {verdict : Verdict} {answer : Except BoardError Receipt} {after : ω}
    (hsubmit : env.board.submit id output verdict world = (answer, after)) :
    (∀ e, answer = .error e → env.AtWork view key before id after) ∧
      (∀ receipt, answer = .ok receipt →
        ∃ judged, judged.id = id ∧ Hall.Released key before judged (view.hall after)) := by
  obtain ⟨quest, rfl, hengaged⟩ := h.engaged
  obtain ⟨hstep, hworks⟩ := hosts.step h.works (.submit quest.id output verdict)
  simp only [perform, hsubmit] at hstep hworks
  obtain ⟨hrefused, hreleased⟩ := hengaged.submit hstep
  constructor
  · rintro e rfl
    refine ⟨hworks, quest, rfl, ?_⟩
    rw [hrefused e rfl]
    exact hengaged
  · rintro receipt rfl
    exact hreleased _ rfl

theorem AtWork.abandon (h : env.AtWork view key before id world) (hosts : env.Hosts view) :
    (∃ failed, failed.id = id ∧
        Hall.Released key before failed (view.hall (env.board.abandon id world).2)) ∧
      before.SparesAgents (view.hall (env.board.abandon id world).2) := by
  obtain ⟨quest, rfl, hengaged⟩ := h.engaged
  exact hengaged.abandon (hosts.step h.works (.abandon quest.id)).1

theorem AtWork.complete (hosts : env.Hosts view) {trainee : Trainee} {posted : Quest}
    (h : env.AtWork view key before posted.id world)
    {outcome : Except AttemptError Receipt} {after : ω}
    (hcomplete : Training.complete env plan trainee template posted world = (outcome, after)) :
    (∀ e, outcome = .error e → env.AtWork view key before posted.id after) ∧
      (∀ receipt, outcome = .ok receipt →
        ∃ judged, judged.id = posted.id ∧ Hall.Released key before judged (view.hall after)) := by
  -- Each step leaves the trainee at work, and a failure ends the attempt right after one of them.
  have hstarted := h.start hosts
  unfold Training.complete at hcomplete
  split at hcomplete <;> rename_i hstart <;> rw [hstart] at hstarted
  · cases hcomplete
    exact ⟨fun _ _ => hstarted, nofun⟩
  · have hexecuted := hstarted.unseen (hosts.execute trainee.agent posted)
    split at hcomplete <;> rename_i hexecute <;> simp only [hexecute] at hexecuted
    · cases hcomplete
      exact ⟨fun _ _ => hexecuted, nofun⟩
    · rename_i output _
      have hjudged := hexecuted.unseen (hosts.judge plan.strictness template output)
      split at hcomplete <;> rename_i hjudge <;> simp only [hjudge] at hjudged
      · cases hcomplete
        exact ⟨fun _ _ => hjudged, nofun⟩
      · simp only at hcomplete
        split at hcomplete <;> rename_i hsubmit <;>
          obtain ⟨hrefused, hreleased⟩ := hjudged.submit hosts hsubmit
        · cases hcomplete
          exact ⟨fun _ _ => hrefused _ rfl, nofun⟩
        · cases hcomplete
          exact ⟨nofun, fun _ _ => hreleased _ rfl⟩

end Working

/-- In a world that works, a quest was posted, and nothing else is different from before. -/
structure AtBoard (env : Environment ω) (view : HallView ω) (before : Hall) (quest : Quest)
    (world : ω) : Prop where
  works : view.works world
  ready : (view.hall world).Ready env.store.space
  posted : quest.status = .posted
  added : before.board.Adds quest (view.hall world).board
  spared : before.SparesAgents (view.hall world)

theorem HallReady.post (h : env.HallReady view world) (hosts : env.Hosts view) {draft : Draft}
    {answer : Except BoardError Quest} {after : ω}
    (hpost : env.board.post draft world = (answer, after)) :
    (∀ e, answer = .error e → view.hall after = view.hall world) ∧
      (∀ quest, answer = .ok quest → env.AtBoard view (view.hall world) quest after) := by
  obtain ⟨hstep, hworks⟩ := hosts.step h.1 (.post draft)
  simp only [perform, hpost] at hstep hworks
  have hready := h.2.step hstep
  constructor
  · rintro e rfl
    generalize view.hall after = hall at hstep
    cases hstep
    rfl
  · rintro quest rfl
    have hadded := h.2.numbered.adds_fresh draft
    generalize hhall : view.hall after = hall at hstep hready
    cases hstep
    refine ⟨hworks, ?_, rfl, ?_, ?_⟩ <;> rw [hhall]
    · exact hready
    · exact hadded
    · exact fun _ => Agent.rel_sameButStatus_refl _

theorem AtBoard.claim (h : env.AtBoard view before quest world) (hosts : env.Hosts view)
    {agentId : String} (hid : agentId = entityId env.store.space key)
    {answer : Except BoardError Unit} {after : ω}
    (hclaim : env.board.claim quest.id agentId world = (answer, after)) :
    (∀ e, answer = .error e → env.AtBoard view before quest after) ∧
      (∀ reply, answer = .ok reply → env.AtWork view key before quest.id after) := by
  subst hid
  obtain ⟨hstep, hworks⟩ := hosts.step h.works (.claim quest.id (entityId env.store.space key))
  simp only [perform, hclaim] at hstep hworks
  obtain ⟨hrefused, hengaged⟩ := h.ready.claim h.added h.spared hstep
  constructor
  · rintro e rfl
    have hsame := hrefused e rfl
    refine ⟨hworks, ?_, h.posted, ?_, ?_⟩ <;> rw [hsame]
    · exact h.ready
    · exact h.added
    · exact h.spared
  · rintro reply rfl
    exact ⟨hworks, hengaged _ rfl⟩

theorem HallReady.atBoard (h : env.HallReady view world) (hosts : env.Hosts view) {draft : Draft}
    {checked posted : ω} (hcheck : env.check world = (.ok (), checked))
    (hpost : env.board.post draft checked = (.ok quest, posted)) :
    env.AtBoard view (view.hall world) quest posted := by
  obtain ⟨hready, hsame⟩ := h.checked hosts hcheck
  rw [← hsame]
  exact (hready.post hosts hpost).2 quest rfl

/-- An attempt at any quest, by a trainee in a hall that is ready, leaves nothing hanging. -/
theorem Hosts.attempt_settled (hosts : env.Hosts view) {attempt : Attempt ω}
    (h : env.AttemptReady view plan template attempt) : attempt.Settled env plan template view := by
  obtain ⟨trainee, place, start, outcome, last⟩ := attempt
  obtain ⟨hready, hkeyed, hmade⟩ := h
  have hattempted : Training.Attempted env plan template trainee start outcome last := by
    simpa only [hmade] using Training.attempted_attempt env plan template trainee start
  cases hattempted with
  | halted hcheck =>
      refine .of_unposted ?_ (hready.checked hosts hcheck).2
      rintro quest posted ⟨checked, hpermit, -⟩
      rw [hcheck] at hpermit
      cases hpermit
  | unposted hcheck hpost =>
      obtain ⟨hchecked, hsame⟩ := hready.checked hosts hcheck
      refine .of_unposted ?_ (((hchecked.post hosts hpost).1 _ rfl).trans hsame)
      rintro quest posted ⟨checked, hpermit, hposted⟩
      rw [hcheck] at hpermit
      cases hpermit
      rw [hpost] at hposted
      cases hposted
  | unclaimed hcheck hpost hclaim =>
      have hleft := ((hready.atBoard hosts hcheck hpost).claim hosts hkeyed hclaim).1 _ rfl
      refine .of_posts ⟨_, hcheck, hpost⟩ rfl hleft.added (.inl hleft.posted)
        (fun _ _ => hleft.spared) ?_
      intro claimed hclaimed
      rw [hclaim] at hclaimed
      cases hclaimed
  | completed hcheck hpost hclaim hcomplete =>
      have hwork := ((hready.atBoard hosts hcheck hpost).claim hosts hkeyed hclaim).2 _ rfl
      obtain ⟨judged, hid, hreleased⟩ := (hwork.complete hosts hcomplete).2 _ rfl
      exact .of_posts ⟨_, hcheck, hpost⟩ hid hreleased.added (.inr hreleased.status) nofun
        fun _ _ => hreleased.idle
  | abandoned hcheck hpost hclaim hcomplete =>
      have hwork := ((hready.atBoard hosts hcheck hpost).claim hosts hkeyed hclaim).2 _ rfl
      have hfailed := (hwork.complete hosts hcomplete).1 _ rfl
      obtain ⟨⟨given, hid, hreleased⟩, hspared⟩ := hfailed.abandon hosts
      exact .of_posts ⟨_, hcheck, hpost⟩ hid hreleased.added (.inr hreleased.status)
        (fun _ _ => hspared) fun _ _ => hreleased.idle

/-- Whether a run comes to its end or is halted, none of its attempts leaves anything hanging. -/
theorem Hosts.run_settled (hosts : env.Hosts view) (dryRun idempotent : Bool)
    (hworks : view.works world) (hready : (view.hall world).Ready env.store.space) :
    ∃ log, Arena.Run env plan dryRun idempotent world log
        (Arena.run env plan dryRun idempotent world).1
        (Arena.run env plan dryRun idempotent world).2 ∧
      ∀ round ∈ log, ∀ attempt ∈ round.attempts,
        attempt.Settled env plan round.template view := by
  obtain ⟨log, hrun⟩ := Arena.run_run env plan dryRun idempotent world
  refine ⟨log, hrun, ?_⟩
  intro round hround attempt hattempt
  exact hosts.attempt_settled (hosts.ready_run ⟨hworks, hready⟩ hrun round hround attempt hattempt)

def hinderedWorld : Rehearsal :=
  { Rehearsal.onStore .scouted with
    board := (Board.empty.disable .start).bar "guildhall.agent.scout-2" }

theorem Hosts.run_settled_hindered :
    ∃ log, Arena.Run Rehearsal.quiet Arena.scouts false true hinderedWorld log
        (Arena.run Rehearsal.quiet Arena.scouts false true hinderedWorld).1
        (Arena.run Rehearsal.quiet Arena.scouts false true hinderedWorld).2 ∧
      (∀ round ∈ log, ∀ attempt ∈ round.attempts,
        attempt.Settled Rehearsal.quiet Arena.scouts round.template Rehearsal.hallView) ∧
      (Arena.run Rehearsal.quiet Arena.scouts false true hinderedWorld).2.board.quests.map
        Quest.status = [.failed, .posted, .failed] := by
  have hready : (Rehearsal.hallView.hall hinderedWorld).Ready Store.defaultSpace :=
    ⟨Store.wellKeyed_scouted, Store.working_scouted, rfl⟩
  have hstatus :
      (Arena.run Rehearsal.quiet Arena.scouts false true hinderedWorld).2.board.quests.map
        Quest.status = [.failed, .posted, .failed] := by
    decide +kernel
  obtain ⟨log, hrun, hsettled⟩ :=
    Hosts.run_settled Rehearsal.hosts_quiet false true ⟨rfl, rfl⟩ hready
  exact ⟨log, hrun, hsettled, hstatus⟩

end Environment

end QuestAcademy
