import QuestAcademy.Proofs.BoardCalls

/-!
What a failed board call leaves behind. A call is atomic unless the store fails it after its quest
got a new status; `Hall.FailsLate` says when that is, and `effect_of_error` that it is the only
exception.
-/

namespace QuestAcademy

namespace Board

/-- The quest that a call is about, with the status and the claimant that the call gives it. -/
def leftBy (board : Board) : BoardCall → Board
  | .post _ => board
  | .claim questId agentId => board.assign questId agentId
  | .start questId => board.setStatus questId .inProgress
  | .submit questId _ verdict => board.setStatus questId verdict.finalStatus
  | .abandon questId => board.setStatus questId .failed

theorem outputs_leftBy (board : Board) (call : BoardCall) :
    (board.leftBy call).outputs = board.outputs := by
  cases call <;> rfl

theorem submissions_leftBy (board : Board) (call : BoardCall) :
    (board.leftBy call).submissions = board.submissions := by
  cases call <;> rfl

theorem setStatus_ne {board : Board} {id : String} {quest : Quest} {status : QuestStatus}
    (hquest : board.quest? id = some quest) (hstatus : quest.status ≠ status) :
    board.setStatus id status ≠ board := by
  intro heq
  have hfound := quest?_setStatus board id id status
  rw [heq, hquest] at hfound
  simp only [Option.map_some, if_true, Option.some.injEq] at hfound
  exact hstatus (congrArg Quest.status hfound)

theorem assign_ne {board : Board} {id : String} {quest : Quest} (agentId : String)
    (hquest : board.quest? id = some quest) (hstatus : quest.status = .posted) :
    board.assign id agentId ≠ board := by
  intro heq
  have hfound := quest?_assign board id agentId id
  rw [heq, hquest] at hfound
  simp only [Option.map_some, if_true, Option.some.injEq] at hfound
  have hclaimed := congrArg Quest.status hfound
  rw [hstatus] at hclaimed
  cases hclaimed

end Board

namespace Hall

/-- The store fails a call after the quest of the call got its new status: a claim whose agent
cannot be written, a verdict whose claimant cannot be read or written, or a quest in work given up
whose claimant cannot be read, or is busy and cannot be written. -/
def FailsLate (hall : Hall) : BoardCall → Prop
  | .post _ | .start _ => False
  | .claim questId agentId =>
      hall.Allows (.claim questId agentId) ∧ hall.store.writesDisabled = true
  | .submit questId output verdict =>
      hall.Allows (.submit questId output verdict) ∧
        ∀ quest agentId, hall.board.quest? questId = some quest →
          quest.claimedBy = some agentId →
            hall.store.load? agentId = none ∨ hall.store.writesDisabled = true
  | .abandon questId =>
      ∃ quest agentId, hall.board.quest? questId = some quest ∧ quest.status.isActive = true ∧
        quest.claimedBy = some agentId ∧
          (hall.store.load? agentId = none ∨
            ∃ agent, hall.store.load? agentId = some agent ∧ agent.status = .busy ∧
              hall.store.writesDisabled = true)

variable {hall after : Hall} {call : BoardCall} {e : BoardError}

theorem Allows.of_failsLate (h : hall.FailsLate call) : hall.Allows call := by
  cases call with
  | post draft => exact h.elim
  | claim questId agentId => exact h.1
  | start questId => exact h.elim
  | submit questId output verdict => exact h.1
  | abandon questId =>
      obtain ⟨quest, _, hquest, _⟩ := h
      exact ⟨quest, hquest⟩

theorem Step.eq_of_error (h : hall.Step call (.error e) after) (hlate : ¬ hall.FailsLate call) :
    after = hall := by
  cases h with
  | refused => rfl
  | claimUnsaved _ hallows hquest hstatus hwrites => exact absurd ⟨hallows, hwrites⟩ hlate
  | unsettled _ hallows hquest hstatus hfails =>
      refine absurd ⟨hallows, ?_⟩ hlate
      intro quest agentId hfound hclaimant
      rw [hquest] at hfound
      cases hfound
      exact hfails agentId hclaimant
  | @unreleased questId quest agentId _ hallows hquest hclaimant hfails =>
      have hidle : quest.status.isActive = false := by
        rw [← Bool.not_eq_true]
        intro hactive
        exact hlate ⟨quest, agentId, hquest, hactive, hclaimant, hfails⟩
      simp [Board.withdraw, hidle]

theorem Step.eq_leftBy_of_error (h : hall.Step call (.error e) after)
    (hlate : hall.FailsLate call) :
    after = { hall with board := hall.board.leftBy call } ∧
      hall.board.leftBy call ≠ hall.board := by
  cases h with
  | refused _ hallows => exact absurd (Allows.of_failsLate hlate) hallows
  | claimUnsaved _ hallows hquest hstatus hwrites =>
      exact ⟨rfl, Board.assign_ne _ hquest hstatus⟩
  | @unsettled questId output verdict quest _ hallows hquest hstatus hfails =>
      refine ⟨rfl, Board.setStatus_ne hquest ?_⟩
      rw [hstatus, Verdict.finalStatus]
      split <;> exact QuestStatus.noConfusion
  | @unreleased questId quest agentId _ hallows hquest hclaimant hfails =>
      obtain ⟨found, _, hfound, hactive, _⟩ := hlate
      rw [hquest] at hfound
      cases hfound
      refine ⟨by simp [Board.withdraw, Board.leftBy, hactive], Board.setStatus_ne hquest ?_⟩
      intro hfailed
      rw [hfailed] at hactive
      cases hactive

/-- A failed call changes neither an agent nor an output nor the count of verdicts. It changes
nothing at all, exactly if the store did not fail it late; else its one quest has the status, and
after a claim the claimant, that the call gives it. -/
theorem effect_of_error (space : String) (hall : Hall) (call : BoardCall) (e : BoardError)
    (h : (hall.perform space call).1 = .error e) :
    (hall.perform space call).2.store = hall.store ∧
      (hall.perform space call).2.board.outputs = hall.board.outputs ∧
      (hall.perform space call).2.board.submissions = hall.board.submissions ∧
      ((hall.perform space call).2 = hall ↔ ¬ hall.FailsLate call) ∧
      (hall.FailsLate call →
        (hall.perform space call).2 = { hall with board := hall.board.leftBy call }) := by
  have hstep := hall.step_perform space call
  rw [h] at hstep
  by_cases hlate : hall.FailsLate call
  · obtain ⟨hafter, hne⟩ := hstep.eq_leftBy_of_error hlate
    rw [hafter]
    refine ⟨rfl, Board.outputs_leftBy _ call, Board.submissions_leftBy _ call, ?_, fun _ => rfl⟩
    constructor
    · intro hsame
      exact absurd (congrArg Hall.board hsame) hne
    · intro hnot
      exact absurd hlate hnot
  · have hafter := hstep.eq_of_error hlate
    rw [hafter]
    exact ⟨rfl, rfl, rfl, iff_of_true rfl hlate, fun hcontra => absurd hcontra hlate⟩

def unsaving : Hall :=
  let posted := (perform "guildhall" (.ofStore .scouted) (.post Draft.errand)).2
  { posted with store := { posted.store with writesDisabled := true } }

theorem effect_of_unsaved_claim :
    ∃ e, (unsaving.perform "guildhall" (.claim "q1" "guildhall.agent.scout")).1 = .error e ∧
      (unsaving.perform "guildhall" (.claim "q1" "guildhall.agent.scout")).2.store =
        unsaving.store ∧
      ((unsaving.perform "guildhall" (.claim "q1" "guildhall.agent.scout")).2 = unsaving ↔
        ¬ unsaving.FailsLate (.claim "q1" "guildhall.agent.scout")) := by
  have hfails : (unsaving.perform "guildhall" (.claim "q1" "guildhall.agent.scout")).1.isOk =
      false := by decide +kernel
  cases hanswer : (unsaving.perform "guildhall" (.claim "q1" "guildhall.agent.scout")).1 with
  | error e =>
      obtain ⟨hstore, -, -, hsame, -⟩ := effect_of_error "guildhall" unsaving _ e hanswer
      exact ⟨e, rfl, hstore, hsame⟩
  | ok answer =>
      rw [hanswer] at hfails
      cases hfails

/-- A claim that fails in the end has taken its quest off the board's offer. -/
theorem failed_claim_leaves_quest_claimed :
    (unsaving.perform "guildhall" (.claim "q1" "guildhall.agent.scout")).1.isOk = false ∧
      (unsaving.board.quest? "q1").map Quest.status = some .posted ∧
      ((unsaving.perform "guildhall"
        (.claim "q1" "guildhall.agent.scout")).2.board.quest? "q1").map Quest.status =
          some .claimed := by
  decide +kernel

end Hall

end QuestAcademy
