import QuestAcademy.Proofs.QuestLifecycle

namespace QuestAcademy

/-- Something that happens to a board: a call, or the setting of what it shall refuse. -/
inductive BoardEvent
  | call (call : BoardCall)
  | disable (operation : BoardOperation)
  | bar (agentId : String)
  | enableAll

/-- A call with the hall that it found and the answer that it got. -/
structure CallRecord where
  before : Hall
  call : BoardCall
  answer : Except BoardError BoardAnswer

namespace CallRecord

def verdict? (record : CallRecord) : Option (String × Verdict) :=
  match record.call, record.answer with
  | .submit questId _ verdict, .ok _ => some (questId, verdict)
  | _, _ => none

def isVerdict (record : CallRecord) : Bool :=
  record.verdict?.isSome

def isVerdictOn (id : String) (record : CallRecord) : Bool :=
  record.verdict?.any fun verdict => verdict.1 = id

def judge (agent : Agent) (record : CallRecord) : Agent :=
  match record.verdict? with
  | none => agent
  | some (questId, verdict) =>
      match record.before.board.quest? questId with
      | none => agent
      | some quest =>
          if quest.claimedBy = some agent.id then
            Board.applyVerdict verdict quest.draft.requiredSkills agent
          else agent

end CallRecord

/-- An agent after the verdicts of a history, in their order. -/
def Agent.judged (history : List CallRecord) (agent : Agent) : Agent :=
  history.foldl CallRecord.judge agent

def Agent.SameButStatus (agent other : Agent) : Prop :=
  other = { agent with status := other.status }

/-- The agent is now what the history made of it, whatever its status. -/
def Agent.JudgedBy (history : List CallRecord) (initial now : Agent) : Prop :=
  (initial.judged history).SameButStatus now

namespace Hall

def next (space : String) (hall : Hall) : BoardEvent → Hall
  | .call call => (hall.perform space call).2
  | .disable operation => { hall with board := hall.board.disable operation }
  | .bar agentId => { hall with board := hall.board.bar agentId }
  | .enableAll => { hall with board := hall.board.enableAll }

def record? (space : String) (hall : Hall) : BoardEvent → Option CallRecord
  | .call call => some { before := hall, call, answer := (hall.perform space call).1 }
  | .disable _ | .bar _ | .enableAll => none

def after (space : String) (hall : Hall) (events : List BoardEvent) : Hall :=
  events.foldl (fun hall event => hall.next space event) hall

def history (space : String) (hall : Hall) : List BoardEvent → List CallRecord
  | [] => []
  | event :: rest => (hall.record? space event).toList ++ (hall.next space event).history space rest

end Hall

theorem CallRecord.judge_of_none {record : CallRecord} (h : record.verdict? = none)
    (agent : Agent) : record.judge agent = agent := by
  simp only [judge, h]

theorem CallRecord.verdict?_of_error (before : Hall) (call : BoardCall) (e : BoardError) :
    { before, call, answer := .error e : CallRecord }.verdict? = none := by
  cases call <;> rfl

section Judging

variable {record : CallRecord} {questId : String} {verdict : Verdict} {quest : Quest}
  {agent : Agent}

theorem CallRecord.judge_of_claimedBy (hrecord : record.verdict? = some (questId, verdict))
    (hquest : record.before.board.quest? questId = some quest)
    (hclaimant : quest.claimedBy = some agent.id) :
    record.judge agent = Board.applyVerdict verdict quest.draft.requiredSkills agent := by
  simp only [judge, hrecord, hquest, hclaimant, if_true]

theorem CallRecord.judge_of_claimedBy_ne (hrecord : record.verdict? = some (questId, verdict))
    (hquest : record.before.board.quest? questId = some quest)
    (hclaimant : quest.claimedBy ≠ some agent.id) : record.judge agent = agent := by
  simp only [judge, hrecord, hquest, hclaimant, if_false]

end Judging

namespace Agent

theorem SameButStatus.refl (agent : Agent) : agent.SameButStatus agent := rfl

theorem SameButStatus.trans {first second third : Agent} (h₁ : first.SameButStatus second)
    (h₂ : second.SameButStatus third) : first.SameButStatus third := by
  unfold SameButStatus at *
  rw [h₂, h₁]

theorem SameButStatus.judge {agent other : Agent} (h : agent.SameButStatus other)
    (record : CallRecord) : (record.judge agent).SameButStatus (record.judge other) := by
  have hid : other.id = agent.id := by rw [h]
  cases hrecord : record.verdict? with
  | none =>
      rw [CallRecord.judge_of_none hrecord, CallRecord.judge_of_none hrecord]
      exact h
  | some verdict =>
      simp only [CallRecord.judge, hrecord, hid]
      cases hquest : record.before.board.quest? verdict.1 with
      | none => exact h
      | some quest =>
          simp only
          split
          · have hstatus := Board.applyVerdict_status verdict.2 quest.draft.requiredSkills agent
              other.status
            rw [h, hstatus]
            exact .refl _
          · exact h

theorem judged_append (history : List CallRecord) (record : CallRecord) (agent : Agent) :
    agent.judged (history ++ [record]) = record.judge (agent.judged history) := by
  simp only [judged, List.foldl_append, List.foldl_cons, List.foldl_nil]

theorem JudgedBy.append {history : List CallRecord} {record : CallRecord}
    {initial now later : Agent} (h : JudgedBy history initial now)
    (hlater : (record.judge now).SameButStatus later) :
    JudgedBy (history ++ [record]) initial later := by
  unfold JudgedBy at *
  rw [judged_append]
  exact (h.judge record).trans hlater

theorem rel_judgedBy_append {history : List CallRecord} {record : CallRecord}
    {initial now later : Option Agent} (h : Option.Rel (JudgedBy history) initial now)
    (hlater : Option.Rel (fun now later => (record.judge now).SameButStatus later) now later) :
    Option.Rel (JudgedBy (history ++ [record])) initial later := by
  cases h with
  | none =>
      cases hlater
      exact .none
  | some hjudged =>
      cases hlater with
      | some hsame => exact .some (hjudged.append hsame)

theorem rel_sameButStatus_refl (agent : Option Agent) : Option.Rel SameButStatus agent agent := by
  cases agent with
  | none => exact .none
  | some agent => exact .some (.refl agent)

end Agent

end QuestAcademy
