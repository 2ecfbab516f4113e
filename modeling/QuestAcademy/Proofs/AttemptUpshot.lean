import QuestAcademy.Proofs.AttemptReport
import QuestAcademy.Proofs.AttemptSettlement
import QuestAcademy.Proofs.LastingPermit

namespace QuestAcademy

variable {ω : Type}

def Quest.unnumbered (quest : Quest) : Quest := { quest with id := "" }

/-- What an attempt of an agent looks at in a hall. -/
structure Circumstances where
  stored : Option Agent
  readsDisabled : Bool
  writesDisabled : Bool
  disabled : List BoardOperation
  barred : List String

/-- What comes of an attempt: why it failed, if it did; the quest that it left on the board, without
its number; and the agent that is stored then. -/
structure Upshot where
  failure : Option AttemptError
  quest : Option Quest
  agent : Option Agent

/-- What agents and judges do. They know no numbers of quests, and halt nobody. -/
structure Conduct where
  work : Agent → Quest → Except AttemptError Payload
  assess : Strictness → Template → Payload → Except JudgeError Judgement
  unnumbered : ∀ agent quest, work agent quest.unnumbered = work agent quest
  steady : ∀ agent quest halt, work agent quest ≠ .error (.halted halt)

/-- Agents and judges keep to a conduct, whatever the world is like. -/
structure Environment.Follows (env : Environment ω) (works : ω → Prop) (conduct : Conduct) :
    Prop where
  execute : ∀ agent quest world, works world →
    (env.execute agent quest world).1 = conduct.work agent quest
  judge : ∀ strictness template output world, works world →
    (env.judge strictness template output world).1 = conduct.assess strictness template output

namespace Circumstances

variable (space key : String) (circumstances : Circumstances)

def read : Except BoardError Agent :=
  if circumstances.readsDisabled then .error (.store .readsDisabled)
  else
    match circumstances.stored with
    | some agent => .ok agent
    | none => .error (.agentNotFound (entityId space key))

/-- The agent as it claims a quest, or why it cannot. -/
def claimant : Except BoardError Agent :=
  if circumstances.disabled.contains .claim then .error (.disabled .claim)
  else if circumstances.barred.contains (entityId space key) then
    .error (.claimsDisabled (entityId space key))
  else circumstances.read space key

end Circumstances

namespace Conduct

variable (conduct : Conduct) (space : String) (plan : ArenaPlan) (template : Template)
  (trainee : Trainee) (circumstances : Circumstances)

def posting : Quest :=
  { id := "", draft := Training.draft plan trainee template, status := .posted, claimedBy := none }

/-- The verdict on a quest that was claimed, or why there is none. -/
def verdict : Except AttemptError Verdict :=
  if circumstances.disabled.contains .start then .error (.board (.disabled .start))
  else
    match conduct.work trainee.agent (posting plan template trainee) with
    | .error e => .error e
    | .ok output =>
      match conduct.assess plan.strictness template output with
      | .error e => .error (.judge e)
      | .ok judgement =>
        if circumstances.disabled.contains .submit then .error (.board (.disabled .submit))
        else .ok (judgement.toVerdict (Training.baseExperience template.difficulty plan.multiplier))

def upshot : Upshot :=
  let posted := posting plan template trainee
  if circumstances.disabled.contains .post then
    { failure := some (.board (.disabled .post)), quest := none, agent := circumstances.stored }
  else
    match circumstances.claimant space trainee.key with
    | .error e =>
      { failure := some (.board e), quest := some posted, agent := circumstances.stored }
    | .ok agent =>
      let taken (status : QuestStatus) : Option Quest :=
        some { posted with status, claimedBy := some (entityId space trainee.key) }
      if circumstances.writesDisabled then
        { failure := some (.board (.store (.writesDisabled trainee.key)))
          quest := taken .claimed
          agent := circumstances.stored }
      else
        match conduct.verdict plan template trainee circumstances with
        | .error e =>
          { failure := some e
            quest := taken .failed
            agent := some { agent with status := .idle } }
        | .ok verdict =>
          { failure := none
            quest := taken verdict.finalStatus
            agent := some (Board.applyVerdict verdict template.skills agent) }

theorem verdict_ne (halt : Halt) :
    conduct.verdict plan template trainee circumstances ≠ .error (.halted halt) := by
  have hsteady := conduct.steady trainee.agent (posting plan template trainee) halt
  unfold verdict
  split
  · simp
  · split
    · rename_i hfailed
      rw [hfailed] at hsteady
      simpa using hsteady
    · split
      · simp
      · split <;> simp

theorem failure_upshot_ne (halt : Halt) :
    (conduct.upshot space plan template trainee circumstances).failure ≠ some (.halted halt) := by
  have hverdict := conduct.verdict_ne plan template trainee circumstances halt
  unfold upshot
  simp only
  split
  · simp
  · split
    · simp
    · split
      · simp
      · split
        · rename_i hfailed
          rw [hfailed] at hverdict
          simpa using hverdict
        · simp

end Conduct

namespace Hall

def circumstances (hall : Hall) (key : String) : Circumstances :=
  { stored := hall.store.agents.find? key
    readsDisabled := hall.store.readsDisabled
    writesDisabled := hall.store.writesDisabled
    disabled := hall.board.disabled
    barred := hall.board.barred }

/-- Agents are stored where they belong, and quests are numbered. -/
structure Tidy (space : String) (hall : Hall) : Prop where
  keyed : hall.store.WellKeyed space
  numbered : hall.board.Numbered

/-- What attempts of several agents make of a hall. Nothing depends on their order, but for the
numbers of the quests. -/
structure Tries (tries : List (String × Upshot)) (before after : Hall) : Prop where
  tried : ∀ key upshot, (key, upshot) ∈ tries → after.store.agents.find? key = upshot.agent
  others : ∀ key, key ∉ tries.map Prod.fst →
    after.store.agents.find? key = before.store.agents.find? key
  frame : ∃ byKey, after.store = { before.store with agents := { before.store.agents with byKey } }
  quests : (after.board.quests.map Quest.unnumbered).Perm
    (before.board.quests.map Quest.unnumbered ++ tries.filterMap fun entry => entry.2.quest)
  disabled : after.board.disabled = before.board.disabled
  barred : after.board.barred = before.board.barred
  submissions : after.board.submissions =
    before.board.submissions + tries.countP fun entry => entry.2.failure.isNone

end Hall

section Boards

/-- What an attempt makes of a board: it has one more quest, if any, and its verdict, if any. -/
structure Board.Gains (before : Board) (quest : Option Quest) (taken : Nat) (after : Board) :
    Prop where
  quests : after.quests = before.quests ++ quest.toList
  fresh : ∀ new ∈ quest, new.id = before.freshId
  disabled : after.disabled = before.disabled
  barred : after.barred = before.barred
  submissions : after.submissions = before.submissions + taken

variable {before after : Board} {quest : Quest} {taken : Nat}

theorem Board.Gains.none (board : Board) : board.Gains none 0 board :=
  ⟨(List.append_nil _).symm, nofun, rfl, rfl, rfl⟩

theorem Board.gains_fresh (board : Board) (draft : Draft) :
    board.Gains (some (board.fresh draft)) 0 (board.add (board.fresh draft)) where
  quests := rfl
  fresh := by
    rintro _ ⟨⟩
    rfl
  disabled := rfl
  barred := rfl
  submissions := rfl

theorem Board.Gains.adds (h : before.Gains (some quest) taken after) (hnumbered : before.Numbered) :
    before.Adds quest after := by
  refine ⟨h.quests, ?_⟩
  intro other hother hid
  refine hnumbered.freshId_not_mem ?_
  rw [← h.fresh quest rfl, ← hid]
  exact List.mem_map_of_mem hother

theorem Board.Gains.change (h : before.Gains (some quest) taken after)
    (hnumbered : before.Numbered) {f : Quest → Quest} (hf : ∀ quest, (f quest).id = quest.id) :
    before.Gains (some (f quest)) taken (after.change quest.id f) where
  quests := ((h.adds hnumbered).change hf).quests
  fresh := by
    rintro _ ⟨⟩
    rw [hf]
    exact h.fresh quest rfl
  disabled := h.disabled
  barred := h.barred
  submissions := h.submissions

theorem Board.Gains.settle (h : before.Gains (some quest) taken after)
    (hnumbered : before.Numbered) (output : Payload) (verdict : Verdict) :
    before.Gains (some { quest with status := verdict.finalStatus }) (taken + 1)
      (after.settle quest.id output verdict) where
  quests := ((h.adds hnumbered).settle output verdict).quests
  fresh := by
    rintro _ ⟨⟩
    exact h.fresh quest rfl
  disabled := h.disabled
  barred := h.barred
  submissions := congrArg (· + 1) h.submissions

theorem Board.Gains.numbered {quest : Option Quest} (h : before.Gains quest taken after)
    (hnumbered : before.Numbered) : after.Numbered := by
  cases quest with
  | none =>
      have hsame : after.quests = before.quests := h.quests.trans (List.append_nil _)
      unfold Numbered at hnumbered ⊢
      rw [hsame]
      exact hnumbered
  | some quest =>
      have hids : after.quests.map Quest.id =
          (before.add (before.fresh quest.draft)).quests.map Quest.id := by
        simp [h.quests, Board.add, Board.fresh, h.fresh quest rfl]
      have hlength : after.quests.length =
          (before.add (before.fresh quest.draft)).quests.length := by
        simp [h.quests, Board.add]
      unfold Numbered
      rw [hids, hlength]
      exact hnumbered.add quest.draft

theorem Hall.Tries.single {before after : Hall} {quest : Option Quest} {key : String}
    {upshot : Upshot} (hgains : before.board.Gains quest taken after.board)
    (hquest : quest.map Quest.unnumbered = upshot.quest)
    (htaken : taken = if upshot.failure.isNone then 1 else 0)
    (hagent : after.store.agents.find? key = upshot.agent)
    (hothers : ∀ other, other ≠ key →
      after.store.agents.find? other = before.store.agents.find? other)
    (hframe : ∃ byKey,
      after.store = { before.store with agents := { before.store.agents with byKey } }) :
    before.Tries [(key, upshot)] after where
  tried := by
    intro other same hmem
    obtain ⟨rfl, rfl⟩ := Prod.mk.inj (List.mem_singleton.mp hmem)
    exact hagent
  others := by
    intro other hother
    exact hothers other fun hkey => hother (by simp [hkey])
  frame := hframe
  quests := by
    rw [hgains.quests, List.map_append]
    cases quest <;> simp [← hquest]
  disabled := hgains.disabled
  barred := hgains.barred
  submissions := by
    rw [hgains.submissions, List.countP_singleton, htaken]

end Boards

section Stores

variable {space : String} {store : Store} {key : String}

theorem Store.frame_save {agent : Agent}
    (h : (store.agents.find? (instanceKey agent.name)).isSome) :
    ∃ byKey, store.save agent = { store with agents := { store.agents with byKey } } := by
  obtain ⟨old, hold⟩ := Option.isSome_iff_exists.mp h
  unfold Store.save
  split
  · exact ⟨store.agents.byKey, rfl⟩
  · rw [AgentTable.put_of_some agent hold]
    exact ⟨_, rfl⟩

theorem Store.WellKeyed.load?_key (h : store.WellKeyed space) (hreads : store.readsDisabled = false)
    (key : String) : store.load? (entityId space key) = store.agents.find? key := by
  ext agent
  rw [h.load?_eq_some_iff hreads]
  simp [entityId_inj]

theorem Board.loadAgent_key (h : store.WellKeyed space) (board : Board) (key : String) :
    loadAgent (Store.access space) (entityId space key) store =
      ((Hall.circumstances ⟨board, store⟩ key).read space key, store) := by
  unfold Circumstances.read Hall.circumstances
  cases hreads : store.readsDisabled with
  | true =>
      simp [loadAgent, StoreAccess.getById, Store.access, Store.listAgents, hreads,
        StoreError.isNotFound]
  | false =>
      have hload := h.load?_key hreads key
      simp only [Store.load?, hreads, Bool.false_eq_true, if_false] at hload
      simp only [loadAgent, StoreAccess.getById, Store.access, Store.listAgents, hreads,
        Bool.false_eq_true, if_false, hload]
      cases store.agents.find? key <;> simp [StoreError.isNotFound]

theorem Hall.claim_eq {hall : Hall} (h : hall.store.WellKeyed space) {quest : Quest} {id : String}
    (hquest : hall.board.quest? id = some quest) (hstatus : quest.status = .posted)
    (key : String) :
    Board.claim (Store.access space) id (entityId space key) hall.board hall.store =
      match (hall.circumstances key).claimant space key with
      | .error e => (.error e, hall.board, hall.store)
      | .ok agent =>
        (Board.saved hall.store { agent with status := .busy },
          hall.board.assign id (entityId space key),
          hall.store.save { agent with status := .busy }) := by
  have hdisabled : (hall.circumstances key).disabled = hall.board.disabled := rfl
  have hbarred : (hall.circumstances key).barred = hall.board.barred := rfl
  have hassign : (hall.board.setStatus id .claimed).change id
      (fun quest => { quest with claimedBy := some (entityId space key) }) =
        hall.board.assign id (entityId space key) :=
    Board.change_change hall.board id _ fun _ => rfl
  unfold Board.claim Circumstances.claimant
  rw [hdisabled, hbarred]
  split
  · rfl
  · split
    · rfl
    · rw [Board.loadAgent_key h hall.board key]
      cases (Hall.circumstances ⟨hall.board, hall.store⟩ key).read space key with
      | error e => rfl
      | ok agent =>
          simp only [Board.transition_of_status .claimed hquest hstatus, hassign,
            Board.saveAgent_eq]
          cases Board.saved hall.store { agent with status := .busy } <;> rfl

end Stores

namespace Hall

def taken (space key : String) (before : Hall) (draft : Draft) (status : QuestStatus) : Quest :=
  { id := before.board.freshId, draft, status, claimedBy := some (entityId space key) }

/-- The agent under the key has claimed a new quest and is busy with it; nothing else is different
from before. -/
structure Taken (space key : String) (before : Hall) (agent : Agent) (draft : Draft)
    (status : QuestStatus) (hall : Hall) : Prop where
  working : before.store.Working
  stored : before.store.agents.find? key = some agent
  saved : hall.store = before.store.save { agent with status := .busy }
  gains : before.board.Gains (some (before.taken space key draft status)) 0 hall.board

def withQuest (hall : Hall) (draft : Draft) : Hall :=
  { hall with board := hall.board.add (hall.board.fresh draft) }

theorem stored_of_claimant {space key : String} {hall : Hall} {agent : Agent}
    (h : (hall.circumstances key).claimant space key = .ok agent) :
    hall.store.readsDisabled = false ∧ hall.store.agents.find? key = some agent := by
  unfold Circumstances.claimant at h
  split at h
  · cases h
  · split at h
    · cases h
    · unfold Circumstances.read at h
      split at h
      · cases h
      · rename_i hreads
        split at h
        · rename_i hstored
          cases h
          exact ⟨Bool.eq_false_of_not_eq_true hreads, hstored⟩
        · cases h

section Steps

variable {space key : String} {before hall : Hall} {agent : Agent} {draft : Draft}
  {status : QuestStatus}

theorem Taken.quest? (h : Taken space key before agent draft status hall)
    (htidy : before.Tidy space) :
    hall.board.quest? before.board.freshId = some (before.taken space key draft status) :=
  (h.gains.adds htidy.numbered).quest?_id

theorem Taken.setStatus (h : Taken space key before agent draft status hall)
    (htidy : before.Tidy space) (next : QuestStatus) :
    Taken space key before agent draft next
      { hall with board := hall.board.setStatus before.board.freshId next } :=
  ⟨h.working, h.stored, h.saved, h.gains.change htidy.numbered
    (f := fun quest => { quest with status := next }) fun _ => rfl⟩

theorem Taken.keyed (h : Taken space key before agent draft status hall)
    (htidy : before.Tidy space) :
    instanceKey agent.name = key ∧ hall.store.WellKeyed space ∧ hall.store.Working := by
  have hname : { agent with status := Availability.busy }.name = agent.name := rfl
  obtain ⟨hkey, hkeyed⟩ := htidy.keyed.save_changed h.stored hname rfl
  rw [h.saved]
  exact ⟨hkey, hkeyed, h.working.save _⟩

theorem Taken.find? (h : Taken space key before agent draft status hall)
    (htidy : before.Tidy space) :
    hall.store.agents.find? key = some { agent with status := .busy } := by
  obtain ⟨hkey, -, -⟩ := h.keyed htidy
  rw [h.saved, Store.find?_save h.working]
  simp [hkey]

theorem Taken.loadAgent (h : Taken space key before agent draft status hall)
    (htidy : before.Tidy space) :
    Board.loadAgent (Store.access space) (entityId space key) hall.store =
      (.ok { agent with status := .busy }, hall.store) := by
  obtain ⟨-, hkeyed, hworking⟩ := h.keyed htidy
  rw [Board.loadAgent_key hkeyed hall.board]
  simp [Circumstances.read, circumstances, hworking.reads, h.find? htidy]

theorem Taken.saveAgent (h : Taken space key before agent draft status hall)
    (htidy : before.Tidy space) (changed : Agent) :
    Board.saveAgent (Store.access space) changed hall.store =
      (.ok (), hall.store.save changed) := by
  obtain ⟨-, -, hworking⟩ := h.keyed htidy
  simp [Board.saveAgent_eq, Board.saved, hworking.writes]

theorem Taken.start (h : Taken space key before agent draft .claimed hall)
    (htidy : before.Tidy space) :
    Board.start before.board.freshId hall.board =
      if before.board.disabled.contains .start then (.error (.disabled .start), hall.board)
      else (.ok (), hall.board.setStatus before.board.freshId .inProgress) := by
  have hstatus : (before.taken space key draft .claimed).status = .claimed := rfl
  unfold Board.start
  rw [h.gains.disabled, Board.transition_of_status .inProgress (h.quest? htidy) hstatus]

theorem Taken.submit (h : Taken space key before agent draft .inProgress hall)
    (htidy : before.Tidy space) (output : Payload) (verdict : Verdict) :
    ∃ receipt, Board.submit (Store.access space) before.board.freshId output verdict hall.board
        hall.store =
      if before.board.disabled.contains .submit then
        (.error (.disabled .submit), hall.board, hall.store)
      else (.ok receipt, hall.board.settle before.board.freshId output verdict,
        hall.store.save (Board.applyVerdict verdict draft.requiredSkills agent)) := by
  have hstatus : (before.taken space key draft .inProgress).status = .inProgress := rfl
  unfold Board.submit
  rw [h.gains.disabled,
    Board.transition_of_status verdict.finalStatus (h.quest? htidy) hstatus]
  simp only [taken, h.loadAgent htidy, h.saveAgent htidy, Board.applyVerdict_status]
  split
  · exact ⟨⟨"", "", .posted, 0, 0, 0⟩, rfl⟩
  · exact ⟨_, rfl⟩

theorem Taken.abandon (h : Taken space key before agent draft status hall)
    (htidy : before.Tidy space) (hactive : status.isActive = true) :
    Board.abandon (Store.access space) before.board.freshId hall.board hall.store =
      (.ok (), hall.board.setStatus before.board.freshId .failed,
        hall.store.save { agent with status := .idle }) := by
  unfold Board.abandon
  rw [h.quest? htidy]
  simp only [taken, hactive, if_true, h.loadAgent htidy, ne_eq, not_true_eq_false, if_false,
    h.saveAgent htidy]
  rfl

theorem Taken.ends (h : Taken space key before agent draft status hall)
    (htidy : before.Tidy space) {final : Agent} (hname : final.name = agent.name)
    (hid : final.id = agent.id) {board : Board} {quest : Quest} {count : Nat} {upshot : Upshot}
    (hgains : before.board.Gains (some quest) count board)
    (hquest : upshot.quest = some quest.unnumbered)
    (hcount : count = if upshot.failure.isNone then 1 else 0)
    (hfinal : upshot.agent = some final) :
    before.Tries [(key, upshot)] ⟨board, hall.store.save final⟩ ∧
      Tidy space ⟨board, hall.store.save final⟩ := by
  obtain ⟨hkey, hkeyed, hworking⟩ := h.keyed htidy
  have hown : instanceKey final.name = key := by
    rw [hname]
    exact hkey
  have hstored := h.find? htidy
  constructor
  · refine .single hgains hquest.symm hcount ?_ ?_ ?_
    · rw [hfinal, Store.find?_save hworking, hown, if_pos rfl]
    · intro other hother
      rw [Store.find?_save hworking, hown, if_neg hother, h.saved,
        Store.find?_save h.working, hkey, if_neg hother]
    · have hbusy : (before.store.agents.find?
          (instanceKey { agent with status := Availability.busy }.name)).isSome = true := by
        rw [hkey, h.stored]
        rfl
      have hthere : (hall.store.agents.find? (instanceKey final.name)).isSome = true := by
        rw [hown, hstored]
        rfl
      obtain ⟨first, hfirst⟩ := Store.frame_save hbusy
      obtain ⟨second, hsecond⟩ := Store.frame_save hthere
      refine ⟨second, ?_⟩
      rw [hsecond, h.saved, hfirst]
  · exact ⟨(hkeyed.save_changed hstored hname hid).2, hgains.numbered htidy.numbered⟩

end Steps

end Hall

end QuestAcademy
