import QuestAcademy.Proofs.BoardHistory

namespace QuestAcademy

def Board.isAnswered (board : Board) (id : String) : Bool :=
  (board.output? id).isSome

/-- The verdicts of a history, and nothing else, made of the opening store and an empty board what
the hall is now: the board counts them, no quest has two, and each agent got those on its quests. -/
structure Hall.Ledger (opening : Store) (history : List CallRecord) (hall : Hall) : Prop where
  verdicts : hall.board.submissions = history.countP CallRecord.isVerdict
  answered : hall.board.submissions =
    hall.board.quests.countP fun quest => hall.board.isAnswered quest.id
  once : ∀ id, history.countP (CallRecord.isVerdictOn id) =
    if hall.board.isAnswered id then 1 else 0
  finished : ∀ id, hall.board.isAnswered id = true →
    ∃ quest, hall.board.quest? id = some quest ∧ quest.status.isFinished = true
  agents : ∀ key,
    Option.Rel (Agent.JudgedBy history) (opening.agents.find? key) (hall.store.agents.find? key)

namespace Board

theorem countP_change (board : Board) (id : String) {f : Quest → Quest}
    (hf : ∀ quest, (f quest).id = quest.id) (p : String → Bool) :
    (board.change id f).quests.countP (fun quest => p quest.id) =
      board.quests.countP fun quest => p quest.id := by
  simp only [change, List.countP_map]
  apply List.countP_congr
  intro quest _
  by_cases hid : quest.id = id <;> simp [hid, hf]

theorem countP_assign (board : Board) (id agentId : String) (p : String → Bool) :
    (board.assign id agentId).quests.countP (fun quest => p quest.id) =
      board.quests.countP fun quest => p quest.id :=
  countP_change board id
    (f := fun quest => { quest with status := .claimed, claimedBy := some agentId })
    (fun _ => rfl) p

theorem countP_setStatus (board : Board) (id : String) (status : QuestStatus) (p : String → Bool) :
    (board.setStatus id status).quests.countP (fun quest => p quest.id) =
      board.quests.countP fun quest => p quest.id :=
  countP_change board id (f := fun quest => { quest with status }) (fun _ => rfl) p

theorem countP_withdraw (board : Board) (id : String) (quest : Quest) (p : String → Bool) :
    (board.withdraw id quest).quests.countP (fun quest => p quest.id) =
      board.quests.countP fun quest => p quest.id := by
  unfold withdraw
  split
  · exact countP_setStatus board id .failed p
  · rfl

theorem outputs_withdraw (board : Board) (id : String) (quest : Quest) :
    (board.withdraw id quest).outputs = board.outputs := by
  unfold withdraw
  split <;> rfl

theorem submissions_withdraw (board : Board) (id : String) (quest : Quest) :
    (board.withdraw id quest).submissions = board.submissions := by
  unfold withdraw
  split <;> rfl

theorem isAnswered_settle (board : Board) (id : String) (output : Payload) (verdict : Verdict)
    (other : String) :
    (board.settle id output verdict).isAnswered other =
      (decide (other = id) || board.isAnswered other) := by
  simp only [isAnswered, output?, settle, Keyed.find?_insert]
  by_cases hsame : other = id <;> simp [hsame]

theorem countP_id_or {quests : List Quest} (h : (quests.map Quest.id).Nodup) {quest : Quest}
    (hquest : quest ∈ quests) {p : String → Bool} (hp : p quest.id = false) :
    (quests.countP fun other => decide (other.id = quest.id) || p other.id) =
      quests.countP (fun other => p other.id) + 1 := by
  induction quests with
  | nil => cases hquest
  | cons first rest ih =>
      obtain ⟨hfirst, hrest⟩ := List.nodup_cons.mp h
      rcases List.mem_cons.mp hquest with rfl | hmem
      · have hothers : (rest.countP fun other => decide (other.id = quest.id) || p other.id) =
            rest.countP fun other => p other.id := by
          apply List.countP_congr
          intro other hother
          have hne : other.id ≠ quest.id := fun hsame =>
            hfirst (hsame ▸ List.mem_map_of_mem hother)
          simp [hne]
        rw [List.countP_cons_of_pos (by simp), List.countP_cons_of_neg (by simp [hp]), hothers]
      · have hne : first.id ≠ quest.id := fun hsame =>
          hfirst (hsame ▸ List.mem_map_of_mem hmem)
        simp only [List.countP_cons, hne, decide_false, Bool.false_or, ih hrest hmem]
        omega

end Board

namespace Hall

variable {space : String} {opening : Store} {history : List CallRecord} {hall later : Hall}

theorem Ledger.quiet (h : Ledger opening history hall) {record : CallRecord}
    (hrecord : record.verdict? = none) (houtputs : later.board.outputs = hall.board.outputs)
    (hsubmissions : later.board.submissions = hall.board.submissions)
    (hcount : (later.board.quests.countP fun quest => hall.board.isAnswered quest.id) =
      hall.board.quests.countP fun quest => hall.board.isAnswered quest.id)
    (hfollows : hall.board.Follows later.board)
    (hagents : ∀ key, Option.Rel Agent.SameButStatus (hall.store.agents.find? key)
      (later.store.agents.find? key)) :
    Ledger opening (history ++ [record]) later := by
  have hanswered : later.board.isAnswered = hall.board.isAnswered := by
    funext id
    simp only [Board.isAnswered, Board.output?, houtputs]
  refine ⟨?_, ?_, ?_, ?_, ?_⟩
  · rw [hsubmissions, h.verdicts, List.countP_append, List.countP_singleton,
      CallRecord.isVerdict, hrecord]
    rfl
  · rw [hsubmissions, hanswered, hcount]
    exact h.answered
  · intro id
    rw [hanswered, ← h.once, List.countP_append, List.countP_singleton,
      CallRecord.isVerdictOn, hrecord]
    rfl
  · intro id hid
    rw [hanswered] at hid
    obtain ⟨quest, hquest, hfinished⟩ := h.finished id hid
    obtain ⟨next, hnext, hcourse⟩ := hfollows.kept id quest hquest
    refine ⟨next, hnext, ?_⟩
    rw [hcourse.continues.status hfinished]
    exact hfinished
  · intro key
    refine Agent.rel_judgedBy_append (h.agents key) ?_
    simp only [CallRecord.judge_of_none hrecord]
    exact hagents key

theorem Consistent.find?_save (h : hall.Consistent space) {id : String} {old : Agent}
    (hold : hall.store.load? id = some old) (agent : Agent) (hname : agent.name = old.name) :
    ∃ key, hall.store.agents.find? key = some old ∧ id = entityId space key ∧
      ∀ other, (hall.store.save agent).agents.find? other =
        if other = key then some agent else hall.store.agents.find? other := by
  obtain ⟨key, hkey, hid⟩ := (h.keyed.load?_eq_some_iff h.working.reads).mp hold
  refine ⟨key, hkey, hid, ?_⟩
  intro other
  rw [Store.find?_save h.working, hname, h.keyed.key key old hkey]

theorem Consistent.rel_save (h : hall.Consistent space) {id : String} {agent : Agent}
    (hagent : hall.store.load? id = some agent) (status : Availability) (key : String) :
    Option.Rel Agent.SameButStatus (hall.store.agents.find? key)
      ((hall.store.save { agent with status }).agents.find? key) := by
  obtain ⟨own, hown, -, hsaved⟩ :=
    h.find?_save hagent { agent with status } rfl
  rw [hsaved]
  split
  · rename_i hkey
    rw [hkey, hown]
    exact .some rfl
  · exact Agent.rel_sameButStatus_refl _

/-- A verdict moves the claimant on and nobody else. -/
theorem Consistent.rel_judge (h : hall.Consistent space) {record : CallRecord}
    {questId agentId : String} {quest : Quest} {agent : Agent} {verdict : Verdict}
    (hrecord : record.verdict? = some (questId, verdict))
    (hquest : record.before.board.quest? questId = some quest)
    (hclaimant : quest.claimedBy = some agentId) (hagent : hall.store.load? agentId = some agent)
    (key : String) :
    Option.Rel (fun now later => (record.judge now).SameButStatus later)
      (hall.store.agents.find? key)
      ((hall.store.save
        (Board.applyVerdict verdict quest.draft.requiredSkills agent)).agents.find? key) := by
  obtain ⟨own, hown, hownId, hsaved⟩ := h.find?_save hagent
    (Board.applyVerdict verdict quest.draft.requiredSkills agent)
    (Board.name_applyVerdict _ _ agent)
  rw [hsaved]
  by_cases hkey : key = own
  · have hmine : quest.claimedBy = some agent.id := by
      rw [hclaimant, h.keyed.id own agent hown, hownId]
    rw [hkey, hown, if_pos rfl]
    refine .some ?_
    rw [CallRecord.judge_of_claimedBy hrecord hquest hmine]
    exact .refl _
  · rw [if_neg hkey]
    cases hnow : hall.store.agents.find? key with
    | none => exact .none
    | some now =>
        have hother : quest.claimedBy ≠ some now.id := by
          rw [hclaimant, h.keyed.id key now hnow, hownId]
          intro hsame
          exact hkey ((entityId_inj space).mp (Option.some.inj hsame)).symm
        refine .some ?_
        rw [CallRecord.judge_of_claimedBy_ne hrecord hquest hother]
        exact .refl now

theorem Ledger.isAnswered_of_inProgress (h : Ledger opening history hall) {questId : String}
    {quest : Quest} (hquest : hall.board.quest? questId = some quest)
    (hstatus : quest.status = .inProgress) : hall.board.isAnswered questId = false := by
  rw [← Bool.not_eq_true]
  intro hanswered
  obtain ⟨found, hfound, hfinished⟩ := h.finished questId hanswered
  rw [hquest] at hfound
  cases hfound
  rw [hstatus] at hfinished
  cases hfinished

theorem Ledger.settled (h : Ledger opening history hall) (hconsistent : hall.Consistent space)
    {questId agentId : String} {quest : Quest} {agent : Agent} {verdict : Verdict}
    {output : Payload} {answer : BoardAnswer}
    (hquest : hall.board.quest? questId = some quest) (hstatus : quest.status = .inProgress)
    (hclaimant : quest.claimedBy = some agentId) (hagent : hall.store.load? agentId = some agent) :
    Ledger opening
      (history ++
        [{ before := hall, call := .submit questId output verdict, answer := .ok answer }])
      { board := hall.board.settle questId output verdict
        store :=
          hall.store.save (Board.applyVerdict verdict quest.draft.requiredSkills agent) } := by
  have hid := Board.id_of_quest? hquest
  have hnew := h.isAnswered_of_inProgress hquest hstatus
  have hanswered := hall.board.isAnswered_settle questId output verdict
  refine ⟨?_, ?_, ?_, ?_, ?_⟩
  · rw [List.countP_append, List.countP_singleton, ← h.verdicts]
    rfl
  · have hcount := Board.countP_setStatus hall.board questId verdict.finalStatus
      fun id => decide (id = questId) || hall.board.isAnswered id
    have hmore := Board.countP_id_or hconsistent.orderly.nodup (Board.mem_of_quest? hquest)
      (p := hall.board.isAnswered) (by rw [hid, hnew])
    rw [hid, ← h.answered] at hmore
    simp only [hanswered]
    exact (hcount.trans hmore).symm
  · intro id
    rw [hanswered, List.countP_append, List.countP_singleton, h.once, CallRecord.isVerdictOn]
    by_cases hsame : id = questId
    · simp [CallRecord.verdict?, hsame, hnew]
    · simp [CallRecord.verdict?, hsame, Ne.symm hsame]
  · intro id hanswers
    have hfound := Board.quest?_setStatus hall.board questId id verdict.finalStatus
    by_cases hsame : id = questId
    · rw [hsame, hquest] at hfound
      rw [hsame]
      exact ⟨_, hfound, by simpa using QuestStatus.isFinished_finalStatus verdict⟩
    · simp only [hanswered, hsame, decide_false, Bool.false_or] at hanswers
      obtain ⟨other, hother, hfinished⟩ := h.finished id hanswers
      rw [hother] at hfound
      exact ⟨_, hfound, by simpa [hsame] using hfinished⟩
  · intro key
    exact Agent.rel_judgedBy_append (h.agents key)
      (hconsistent.rel_judge rfl hquest hclaimant hagent key)

theorem Ledger.call (h : Ledger opening history hall) (hconsistent : hall.Consistent space)
    {call : BoardCall} {answer : Except BoardError BoardAnswer}
    (hstep : hall.Step call answer later) :
    Ledger opening (history ++ [{ before := hall, call, answer }]) later := by
  have hfollows := hconsistent.follows hstep
  have hsame := fun key => Agent.rel_sameButStatus_refl (hall.store.agents.find? key)
  cases hanswer : answer with
  | error e =>
      rw [hanswer] at hstep
      rw [hconsistent.eq_of_error hstep]
      exact h.quiet (CallRecord.verdict?_of_error hall call e) rfl rfl rfl (.refl hall.board) hsame
  | ok result =>
      rw [hanswer] at hstep
      cases hstep with
      | @posted draft =>
          have hnew : hall.board.isAnswered (hall.board.fresh draft).id = false := by
            rw [← Bool.not_eq_true]
            intro hanswered
            obtain ⟨quest, hquest, -⟩ := h.finished _ hanswered
            have hnone := hconsistent.orderly.freshId_not_mem
            exact absurd (hquest.symm.trans hnone) (by simp)
          refine h.quiet rfl rfl rfl ?_ hfollows hsame
          simp only [Board.add, List.countP_append, List.countP_singleton, hnew,
            Bool.false_eq_true, if_false, Nat.add_zero]
      | claimed _ hquest _ hagent =>
          exact h.quiet rfl rfl rfl (Board.countP_assign hall.board _ _ _) hfollows
            (hconsistent.rel_save hagent .busy)
      | started _ hquest =>
          exact h.quiet rfl rfl rfl (Board.countP_setStatus hall.board _ _ _) hfollows hsame
      | settled _ hquest hstatus hclaimant hagent =>
          exact h.settled hconsistent hquest hstatus hclaimant hagent
      | withdrawn _ hquest =>
          exact h.quiet rfl (Board.outputs_withdraw ..) (Board.submissions_withdraw ..)
            (Board.countP_withdraw ..) hfollows hsame
      | released _ hquest _ hagent =>
          exact h.quiet rfl (Board.outputs_withdraw ..) (Board.submissions_withdraw ..)
            (Board.countP_withdraw ..) hfollows (hconsistent.rel_save hagent .idle)

theorem Consistent.next (h : hall.Consistent space) (event : BoardEvent) :
    (hall.next space event).Consistent space := by
  cases event with
  | call call => exact h.step (hall.step_perform space call)
  | disable _ | bar _ | enableAll =>
      exact ⟨h.keyed, h.working, ⟨h.orderly.numbered, h.orderly.unclaimed_iff, h.orderly.claimant⟩⟩

theorem Ledger.next (h : Ledger opening history hall) (hconsistent : hall.Consistent space)
    (event : BoardEvent) :
    Ledger opening (history ++ (hall.record? space event).toList) (hall.next space event) := by
  cases event with
  | call call => exact h.call hconsistent (hall.step_perform space call)
  | disable _ | bar _ | enableAll =>
      simp only [record?, Option.toList_none, List.append_nil]
      exact ⟨h.verdicts, h.answered, h.once, h.finished, h.agents⟩

theorem Consistent.after (h : hall.Consistent space) (events : List BoardEvent) :
    (hall.after space events).Consistent space := by
  induction events generalizing hall with
  | nil => exact h
  | cons event rest ih => exact ih (h.next event)

end Hall

end QuestAcademy
