import QuestAcademy.Board
import QuestAcademy.Folder
import QuestAcademy.Judging
import QuestAcademy.Permit
import QuestAcademy.Progress

namespace QuestAcademy

/-- Why an attempt at a quest came to nothing. -/
inductive AttemptError
  | board (error : BoardError)
  | execution (text : String)
  | judge (error : JudgeError)
  | halted (halt : Halt)

def AttemptError.message : AttemptError → String
  | board error => "Board error: " ++ error.message
  | execution text => "Execution failed: " ++ text
  | judge error => "Judge error: " ++ error.message
  | halted halt => "Round cancelled: " ++ halt.message

structure Environment (ω : Type) where
  store : StoreAccess ω
  board : BoardAccess ω
  execute : Agent → Quest → ω → Except AttemptError Payload × ω
  judge : Strictness → Template → Payload → ω → Except JudgeError Judgement × ω
  report : ProgressEvent → ω → ω
  /-- Asks whether work may go on. -/
  check : ω → Except Halt Unit × ω
  folder : Folder

def echo (agent : Agent) (quest : Quest) : Payload :=
  let output := [("agent", .text agent.name), ("quest", .text quest.draft.title),
    ("input", quest.draft.input)]
  let mentor := match quest.draft.mentor with
    | some mentor => [("mentor", .text mentor)]
    | none => []
  .map (Keyed.ofList (output ++ mentor))

end QuestAcademy
