import QuestAcademy.Proofs.StoreCalls

/-!
One call of a board with its store. `Hall.Step` lists everything that a call can do, and
`Hall.step_perform` says that the list is complete; what calls keep is read off it, case by case.
-/

namespace QuestAcademy

namespace Board

def fresh (board : Board) (draft : Draft) : Quest :=
  { id := board.freshId, draft, status := .posted, claimedBy := none }

def add (board : Board) (quest : Quest) : Board :=
  { board with quests := board.quests ++ [quest] }

def setStatus (board : Board) (id : String) (status : QuestStatus) : Board :=
  board.change id fun quest => { quest with status }

def assign (board : Board) (id agentId : String) : Board :=
  board.change id fun quest => { quest with status := .claimed, claimedBy := some agentId }

def settle (board : Board) (id : String) (output : Payload) (verdict : Verdict) : Board :=
  { board.setStatus id verdict.finalStatus with
    outputs := Keyed.insert id output board.outputs
    submissions := board.submissions + 1 }

/-- The board after a quest was given up: only a quest that is being worked on fails. -/
def withdraw (board : Board) (id : String) (quest : Quest) : Board :=
  if quest.status.isActive then board.setStatus id .failed else board

theorem id_of_quest? {board : Board} {id : String} {quest : Quest}
    (h : board.quest? id = some quest) : quest.id = id := by
  simpa using List.find?_some h

theorem mem_of_quest? {board : Board} {id : String} {quest : Quest}
    (h : board.quest? id = some quest) : quest ∈ board.quests :=
  List.mem_of_find?_eq_some h

theorem change_change (board : Board) (id : String) {f : Quest → Quest} (g : Quest → Quest)
    (hf : ∀ quest, (f quest).id = quest.id) :
    (board.change id f).change id g = board.change id fun quest => g (f quest) := by
  unfold change
  rw [List.map_map]
  congr 1
  apply List.map_congr_left
  intro quest _
  by_cases hid : quest.id = id <;> simp [hid, hf]

theorem quest?_change (board : Board) (id other : String) {f : Quest → Quest}
    (hf : ∀ quest, (f quest).id = quest.id) :
    (board.change id f).quest? other =
      (board.quest? other).map fun quest => if other = id then f quest else quest := by
  unfold quest? change
  rw [List.find?_map]
  have hsame : ((fun quest : Quest => decide (quest.id = other)) ∘
      fun quest => if quest.id = id then f quest else quest) =
        fun quest => decide (quest.id = other) := by
    funext quest
    by_cases hid : quest.id = id <;> simp [hid, hf]
  rw [hsame]
  cases hfound : board.quests.find? fun quest => decide (quest.id = other) with
  | none => rfl
  | some quest =>
      have hid : quest.id = other := by simpa using List.find?_some hfound
      simp [hid]

theorem quest?_setStatus (board : Board) (id other : String) (status : QuestStatus) :
    (board.setStatus id status).quest? other =
      (board.quest? other).map fun quest =>
        if other = id then { quest with status } else quest :=
  quest?_change board id other fun _ => rfl

theorem quest?_assign (board : Board) (id agentId other : String) :
    (board.assign id agentId).quest? other =
      (board.quest? other).map fun quest =>
        if other = id then { quest with status := .claimed, claimedBy := some agentId }
        else quest :=
  quest?_change board id other fun _ => rfl

theorem transition_of_status {board : Board} {id : String} {quest : Quest}
    {expected : QuestStatus} (next : QuestStatus) (hquest : board.quest? id = some quest)
    (hstatus : quest.status = expected) :
    board.transition id expected next =
      .ok ({ quest with status := next }, board.setStatus id next) := by
  simp [transition, setStatus, hquest, hstatus]

theorem transition_of_not {board : Board} {id : String} {expected : QuestStatus}
    (next : QuestStatus)
    (h : ¬ ∃ quest, board.quest? id = some quest ∧ quest.status = expected) :
    ∃ e, board.transition id expected next = .error e := by
  unfold transition
  cases hquest : board.quest? id with
  | none => exact ⟨_, rfl⟩
  | some quest =>
      have hstatus : quest.status ≠ expected := fun hs => h ⟨quest, hquest, hs⟩
      exact ⟨_, if_pos hstatus⟩

end Board

def Draft.errand : Draft :=
  { templateId := "errand"
    title := "Errand"
    description := ""
    difficulty := .trivial
    requiredSkills := ["running"]
    input := .null
    baseExperience := 25
    mentor := none }

/-- A board and the store whose agents it changes. -/
structure Hall where
  board : Board
  store : Store

inductive BoardCall
  | post (draft : Draft)
  | claim (questId agentId : String)
  | start (questId : String)
  | submit (questId : String) (output : Payload) (verdict : Verdict)
  | abandon (questId : String)

inductive BoardAnswer
  | posted (quest : Quest)
  | done
  | settled (receipt : Receipt)

namespace Hall

def ofStore (store : Store) : Hall :=
  { board := .empty, store }

/-- A call over the store in memory, whose ids begin with `space`. -/
def perform (space : String) (hall : Hall) : BoardCall → Except BoardError BoardAnswer × Hall
  | .post draft =>
      let (answer, board) := Board.post draft hall.board
      (answer.map .posted, { hall with board })
  | .claim questId agentId =>
      let (answer, board, store) :=
        Board.claim (Store.access space) questId agentId hall.board hall.store
      (answer.map fun _ => .done, { board, store })
  | .start questId =>
      let (answer, board) := Board.start questId hall.board
      (answer.map fun _ => .done, { hall with board })
  | .submit questId output verdict =>
      let (answer, board, store) :=
        Board.submit (Store.access space) questId output verdict hall.board hall.store
      (answer.map .settled, { board, store })
  | .abandon questId =>
      let (answer, board, store) :=
        Board.abandon (Store.access space) questId hall.board hall.store
      (answer.map fun _ => .done, { board, store })

/-- What a call looks at before it changes anything allows it. -/
def Allows (hall : Hall) : BoardCall → Prop
  | .post _ => .post ∉ hall.board.disabled
  | .claim questId agentId =>
      .claim ∉ hall.board.disabled ∧ agentId ∉ hall.board.barred ∧
        hall.store.load? agentId ≠ none ∧
          ∃ quest, hall.board.quest? questId = some quest ∧ quest.status = .posted
  | .start questId =>
      .start ∉ hall.board.disabled ∧
        ∃ quest, hall.board.quest? questId = some quest ∧ quest.status = .claimed
  | .submit questId _ _ =>
      .submit ∉ hall.board.disabled ∧
        ∃ quest, hall.board.quest? questId = some quest ∧ quest.status = .inProgress
  | .abandon questId => ∃ quest, hall.board.quest? questId = some quest

/-- What a call answers and leaves behind. Whatever a call refuses it refuses before it changes
anything; failures of the store that strike later leave the new status of the quest on the board. -/
inductive Step (hall : Hall) : BoardCall → Except BoardError BoardAnswer → Hall → Prop
  | refused {call : BoardCall} (e : BoardError) (hallows : ¬ hall.Allows call) :
      Step hall call (.error e) hall
  | posted {draft : Draft} (hallows : hall.Allows (.post draft)) :
      Step hall (.post draft) (.ok (.posted (hall.board.fresh draft)))
        { hall with board := hall.board.add (hall.board.fresh draft) }
  | claimed {questId agentId : String} {quest : Quest} {agent : Agent}
      (hallows : hall.Allows (.claim questId agentId))
      (hquest : hall.board.quest? questId = some quest) (hstatus : quest.status = .posted)
      (hagent : hall.store.load? agentId = some agent)
      (hwrites : hall.store.writesDisabled = false) :
      Step hall (.claim questId agentId) (.ok .done)
        { board := hall.board.assign questId agentId
          store := hall.store.save { agent with status := .busy } }
  | claimUnsaved {questId agentId : String} {quest : Quest} (e : BoardError)
      (hallows : hall.Allows (.claim questId agentId))
      (hquest : hall.board.quest? questId = some quest) (hstatus : quest.status = .posted)
      (hwrites : hall.store.writesDisabled = true) :
      Step hall (.claim questId agentId) (.error e)
        { hall with board := hall.board.assign questId agentId }
  | started {questId : String} {quest : Quest} (hallows : hall.Allows (.start questId))
      (hquest : hall.board.quest? questId = some quest) (hstatus : quest.status = .claimed) :
      Step hall (.start questId) (.ok .done)
        { hall with board := hall.board.setStatus questId .inProgress }
  | settled {questId : String} {output : Payload} {verdict : Verdict} {quest : Quest}
      {agentId : String} {agent : Agent}
      (hallows : hall.Allows (.submit questId output verdict))
      (hquest : hall.board.quest? questId = some quest) (hstatus : quest.status = .inProgress)
      (hclaimant : quest.claimedBy = some agentId)
      (hagent : hall.store.load? agentId = some agent)
      (hwrites : hall.store.writesDisabled = false) :
      Step hall (.submit questId output verdict)
        (.ok (.settled {
          questId, agentId
          status := verdict.finalStatus
          change := verdict.change
          levelBefore := agent.level
          levelAfter := (Board.applyVerdict verdict quest.draft.requiredSkills agent).level }))
        { board := hall.board.settle questId output verdict
          store := hall.store.save
            (Board.applyVerdict verdict quest.draft.requiredSkills agent) }
  | unsettled {questId : String} {output : Payload} {verdict : Verdict} {quest : Quest}
      (e : BoardError) (hallows : hall.Allows (.submit questId output verdict))
      (hquest : hall.board.quest? questId = some quest) (hstatus : quest.status = .inProgress)
      (hfails : ∀ agentId, quest.claimedBy = some agentId →
        hall.store.load? agentId = none ∨ hall.store.writesDisabled = true) :
      Step hall (.submit questId output verdict) (.error e)
        { hall with board := hall.board.setStatus questId verdict.finalStatus }
  | withdrawn {questId : String} {quest : Quest} (hallows : hall.Allows (.abandon questId))
      (hquest : hall.board.quest? questId = some quest)
      (hfree : ∀ agentId, quest.claimedBy = some agentId →
        ∃ agent, hall.store.load? agentId = some agent ∧ agent.status ≠ .busy) :
      Step hall (.abandon questId) (.ok .done)
        { hall with board := hall.board.withdraw questId quest }
  | released {questId : String} {quest : Quest} {agentId : String} {agent : Agent}
      (hallows : hall.Allows (.abandon questId))
      (hquest : hall.board.quest? questId = some quest)
      (hclaimant : quest.claimedBy = some agentId)
      (hagent : hall.store.load? agentId = some agent) (hbusy : agent.status = .busy)
      (hwrites : hall.store.writesDisabled = false) :
      Step hall (.abandon questId) (.ok .done)
        { board := hall.board.withdraw questId quest
          store := hall.store.save { agent with status := .idle } }
  | unreleased {questId : String} {quest : Quest} {agentId : String} (e : BoardError)
      (hallows : hall.Allows (.abandon questId))
      (hquest : hall.board.quest? questId = some quest)
      (hclaimant : quest.claimedBy = some agentId)
      (hfails : hall.store.load? agentId = none ∨
        ∃ agent, hall.store.load? agentId = some agent ∧ agent.status = .busy ∧
          hall.store.writesDisabled = true) :
      Step hall (.abandon questId) (.error e)
        { hall with board := hall.board.withdraw questId quest }

section Calls

variable (space : String) (hall : Hall)

theorem step_post (draft : Draft) :
    hall.Step (.post draft) (hall.perform space (.post draft)).1
      (hall.perform space (.post draft)).2 := by
  by_cases hdisabled : BoardOperation.post ∈ hall.board.disabled
  · simp only [perform, Board.post, List.contains_iff_mem, hdisabled, if_true]
    exact .refused _ fun h => h hdisabled
  · simp only [perform, Board.post, List.contains_iff_mem, hdisabled, if_false]
    exact .posted hdisabled

theorem step_claim (questId agentId : String) :
    hall.Step (.claim questId agentId) (hall.perform space (.claim questId agentId)).1
      (hall.perform space (.claim questId agentId)).2 := by
  by_cases hdisabled : BoardOperation.claim ∈ hall.board.disabled
  · simp only [perform, Board.claim, List.contains_iff_mem, hdisabled, if_true]
    exact .refused _ fun h => h.1 hdisabled
  by_cases hbarred : agentId ∈ hall.board.barred
  · simp only [perform, Board.claim, List.contains_iff_mem, hdisabled, hbarred, if_true,
      if_false]
    exact .refused _ fun h => h.2.1 hbarred
  cases hagent : hall.store.load? agentId with
  | none =>
      obtain ⟨e, hload⟩ := Board.loadAgent_of_none space hagent
      simp only [perform, Board.claim, List.contains_iff_mem, hdisabled, hbarred, if_false, hload]
      exact .refused _ fun h => h.2.2.1 hagent
  | some agent =>
      have hload := Board.loadAgent_of_some space hagent
      by_cases hready : ∃ quest, hall.board.quest? questId = some quest ∧ quest.status = .posted
      · obtain ⟨quest, hquest, hstatus⟩ := hready
        have hallows : hall.Allows (.claim questId agentId) :=
          ⟨hdisabled, hbarred, by simp [hagent], quest, hquest, hstatus⟩
        have hassign : (hall.board.setStatus questId .claimed).change questId
            (fun quest => { quest with claimedBy := some agentId }) =
              hall.board.assign questId agentId :=
          Board.change_change hall.board questId _ fun _ => rfl
        simp only [perform, Board.claim, List.contains_iff_mem, hdisabled, hbarred, if_false,
          hload, Board.transition_of_status .claimed hquest hstatus, hassign,
          Board.saveAgent_eq, Board.saved]
        cases hwrites : hall.store.writesDisabled with
        | false => exact .claimed hallows hquest hstatus hagent hwrites
        | true =>
            simp only [Store.save, hwrites, if_true]
            exact .claimUnsaved _ hallows hquest hstatus hwrites
      · obtain ⟨e, htransition⟩ := Board.transition_of_not .claimed hready
        simp only [perform, Board.claim, List.contains_iff_mem, hdisabled, hbarred, if_false,
          hload, htransition]
        exact .refused _ fun h => hready h.2.2.2

theorem step_start (questId : String) :
    hall.Step (.start questId) (hall.perform space (.start questId)).1
      (hall.perform space (.start questId)).2 := by
  by_cases hdisabled : BoardOperation.start ∈ hall.board.disabled
  · simp only [perform, Board.start, List.contains_iff_mem, hdisabled, if_true]
    exact .refused _ fun h => h.1 hdisabled
  by_cases hready : ∃ quest, hall.board.quest? questId = some quest ∧ quest.status = .claimed
  · obtain ⟨quest, hquest, hstatus⟩ := hready
    simp only [perform, Board.start, List.contains_iff_mem, hdisabled, if_false,
      Board.transition_of_status .inProgress hquest hstatus]
    exact .started ⟨hdisabled, quest, hquest, hstatus⟩ hquest hstatus
  · obtain ⟨e, htransition⟩ := Board.transition_of_not .inProgress hready
    simp only [perform, Board.start, List.contains_iff_mem, hdisabled, if_false, htransition]
    exact .refused _ fun h => hready h.2

theorem step_submit (questId : String) (output : Payload) (verdict : Verdict) :
    hall.Step (.submit questId output verdict)
      (hall.perform space (.submit questId output verdict)).1
      (hall.perform space (.submit questId output verdict)).2 := by
  by_cases hdisabled : BoardOperation.submit ∈ hall.board.disabled
  · simp only [perform, Board.submit, List.contains_iff_mem, hdisabled, if_true]
    exact .refused _ fun h => h.1 hdisabled
  by_cases hready : ∃ quest, hall.board.quest? questId = some quest ∧ quest.status = .inProgress
  · obtain ⟨quest, hquest, hstatus⟩ := hready
    have hallows : hall.Allows (.submit questId output verdict) :=
      ⟨hdisabled, quest, hquest, hstatus⟩
    simp only [perform, Board.submit, List.contains_iff_mem, hdisabled, if_false,
      Board.transition_of_status verdict.finalStatus hquest hstatus]
    cases hclaimant : quest.claimedBy with
    | none => exact .unsettled _ hallows hquest hstatus (by simp [hclaimant])
    | some agentId =>
        cases hagent : hall.store.load? agentId with
        | none =>
            obtain ⟨e, hload⟩ := Board.loadAgent_of_none space hagent
            simp only [hload]
            exact .unsettled _ hallows hquest hstatus (by simp [hclaimant, hagent])
        | some agent =>
            simp only [Board.loadAgent_of_some space hagent, Board.saveAgent_eq, Board.saved]
            cases hwrites : hall.store.writesDisabled with
            | false => exact .settled hallows hquest hstatus hclaimant hagent hwrites
            | true =>
                simp only [Store.save, hwrites, if_true]
                exact .unsettled _ hallows hquest hstatus (by simp [hwrites])
  · obtain ⟨e, htransition⟩ := Board.transition_of_not verdict.finalStatus hready
    simp only [perform, Board.submit, List.contains_iff_mem, hdisabled, if_false, htransition]
    exact .refused _ fun h => hready h.2

theorem step_abandon (questId : String) :
    hall.Step (.abandon questId) (hall.perform space (.abandon questId)).1
      (hall.perform space (.abandon questId)).2 := by
  cases hquest : hall.board.quest? questId with
  | none =>
      simp only [perform, Board.abandon, hquest]
      exact .refused _ fun ⟨quest, h⟩ => by simp [hquest] at h
  | some quest =>
      have hallows : hall.Allows (.abandon questId) := ⟨quest, hquest⟩
      have hwithdraw : (if quest.status.isActive = true then
          hall.board.change questId fun quest => { quest with status := .failed }
        else hall.board) = hall.board.withdraw questId quest := rfl
      simp only [perform, Board.abandon, hquest, hwithdraw]
      cases hclaimant : quest.claimedBy with
      | none => exact .withdrawn hallows hquest (by simp [hclaimant])
      | some agentId =>
          cases hagent : hall.store.load? agentId with
          | none =>
              obtain ⟨e, hload⟩ := Board.loadAgent_of_none space hagent
              simp only [hload]
              exact .unreleased _ hallows hquest hclaimant (.inl hagent)
          | some agent =>
              simp only [Board.loadAgent_of_some space hagent]
              by_cases hbusy : agent.status = .busy
              · simp only [ne_eq, hbusy, not_true_eq_false, if_false, Board.saveAgent_eq,
                  Board.saved]
                cases hwrites : hall.store.writesDisabled with
                | false => exact .released hallows hquest hclaimant hagent hbusy hwrites
                | true =>
                    simp only [Store.save, hwrites, if_true]
                    exact .unreleased _ hallows hquest hclaimant
                      (.inr ⟨agent, hagent, hbusy, hwrites⟩)
              · simp only [ne_eq, hbusy, not_false_eq_true, if_true]
                refine .withdrawn hallows hquest ?_
                intro id hid
                rw [hclaimant] at hid
                cases hid
                exact ⟨agent, hagent, hbusy⟩

theorem step_perform (call : BoardCall) :
    hall.Step call (hall.perform space call).1 (hall.perform space call).2 := by
  cases call with
  | post draft => exact hall.step_post space draft
  | claim questId agentId => exact hall.step_claim space questId agentId
  | start questId => exact hall.step_start space questId
  | submit questId output verdict => exact hall.step_submit space questId output verdict
  | abandon questId => exact hall.step_abandon space questId

end Calls

end Hall

end QuestAcademy
