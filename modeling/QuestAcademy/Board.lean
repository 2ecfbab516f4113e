import QuestAcademy.Quest
import QuestAcademy.Store

/-!
The quest board. `BoardAccess` is what a run may ask of any board; `Board` keeps its quests in
memory and applies verdicts to the agents of a store.
-/

namespace QuestAcademy

inductive BoardOperation
  | post
  | claim
  | start
  | submit
  deriving DecidableEq

namespace BoardOperation

def label : BoardOperation → String
  | post => "Post"
  | claim => "Claim"
  | start => "Start"
  | submit => "Submit"

end BoardOperation

inductive BoardError
  | questNotFound (id : String)
  | agentNotFound (id : String)
  | wrongStatus (questId : String) (expected actual : QuestStatus)
  | disabled (operation : BoardOperation)
  | claimsDisabled (agentId : String)
  | noClaimant (questId : String)
  | store (error : StoreError)
  | injected (call : String) (number : Nat)
  deriving DecidableEq

def BoardError.message : BoardError → String
  | questNotFound id => "Quest not found: " ++ id
  | agentNotFound id => "Agent not found: " ++ id
  | wrongStatus questId expected actual =>
    "Quest " ++ questId ++ " is " ++ actual.label ++ ", expected " ++ expected.label
  | disabled operation => "Board backend error: " ++ operation.label ++ " disabled"
  | claimsDisabled agentId => "Board backend error: claims disabled for " ++ agentId
  | noClaimant questId => "Board backend error: quest " ++ questId ++ " has no claimant"
  | store error => "Board backend error: " ++ error.message
  | injected call number =>
    "Board backend error: injected " ++ call ++ " #" ++ Decimal.text number

/-- What may be asked of a board that is part of a world. -/
structure BoardAccess (ω : Type) where
  post : Draft → ω → Except BoardError Quest × ω
  claim : (questId agentId : String) → ω → Except BoardError Unit × ω
  start : (questId : String) → ω → Except BoardError Unit × ω
  submit : (questId : String) → Payload → Verdict → ω → Except BoardError Receipt × ω
  abandon : (questId : String) → ω → Except BoardError Unit × ω

structure Board where
  quests : List Quest
  outputs : List (String × Payload)
  disabled : List BoardOperation
  barred : List String
  submissions : Nat

namespace Board

def empty : Board :=
  { quests := [], outputs := [], disabled := [], barred := [], submissions := 0 }

def quest? (board : Board) (id : String) : Option Quest :=
  board.quests.find? fun quest => quest.id = id

def output? (board : Board) (id : String) : Option Payload :=
  Keyed.find? id board.outputs

def disable (board : Board) (operation : BoardOperation) : Board :=
  { board with disabled := operation :: board.disabled }

def bar (board : Board) (agentId : String) : Board :=
  { board with barred := agentId :: board.barred }

def enableAll (board : Board) : Board :=
  { board with disabled := [], barred := [] }

/-- The id of the next quest: quests are numbered as they are posted. -/
def freshId (board : Board) : String :=
  "q" ++ Decimal.text (board.quests.length + 1)

def change (board : Board) (id : String) (f : Quest → Quest) : Board :=
  { board with quests := board.quests.map fun quest => if quest.id = id then f quest else quest }

/-- Moves a quest from the expected status to the next one. -/
def transition (board : Board) (id : String) (expected next : QuestStatus) :
    Except BoardError (Quest × Board) :=
  match board.quest? id with
  | none => .error (.questNotFound id)
  | some quest =>
    if quest.status ≠ expected then .error (.wrongStatus id expected quest.status)
    else
      .ok ({ quest with status := next },
        board.change id fun quest => { quest with status := next })

variable {ω : Type}

def loadAgent (store : StoreAccess ω) (id : String) (world : ω) : Except BoardError Agent × ω :=
  match store.getById id world with
  | (.ok agent, world) => (.ok agent, world)
  | (.error e, world) =>
    (.error (if e.isNotFound then .agentNotFound id else .store e), world)

def saveAgent (store : StoreAccess ω) (agent : Agent) (world : ω) : Except BoardError Unit × ω :=
  match store.putAgent (instanceKey agent.name) agent world with
  | (.ok (), world) => (.ok (), world)
  | (.error e, world) => (.error (.store e), world)

def post (draft : Draft) (board : Board) : Except BoardError Quest × Board :=
  if board.disabled.contains .post then (.error (.disabled .post), board)
  else
    let quest : Quest := { id := board.freshId, draft, status := .posted, claimedBy := none }
    (.ok quest, { board with quests := board.quests ++ [quest] })

/-- Gives a posted quest to an agent, who is busy from then on. -/
def claim (store : StoreAccess ω) (questId agentId : String) (board : Board) (world : ω) :
    Except BoardError Unit × Board × ω :=
  if board.disabled.contains .claim then (.error (.disabled .claim), board, world)
  else if board.barred.contains agentId then (.error (.claimsDisabled agentId), board, world)
  else
    match loadAgent store agentId world with
    | (.error e, world) => (.error e, board, world)
    | (.ok agent, world) =>
      match board.transition questId .posted .claimed with
      | .error e => (.error e, board, world)
      | .ok (_, board) =>
        let board := board.change questId fun quest => { quest with claimedBy := some agentId }
        match saveAgent store { agent with status := .busy } world with
        | (.error e, world) => (.error e, board, world)
        | (.ok (), world) => (.ok (), board, world)

def start (questId : String) (board : Board) : Except BoardError Unit × Board :=
  if board.disabled.contains .start then (.error (.disabled .start), board)
  else
    match board.transition questId .claimed .inProgress with
    | .error e => (.error e, board)
    | .ok (_, board) => (.ok (), board)

def applyVerdict (verdict : Verdict) (skills : List String) (agent : Agent) : Agent :=
  let agent :=
    if verdict.passed then
      skills.foldl (fun agent skill => agent.practise verdict.award skill)
        (agent.grant verdict.award)
    else agent.deduct verdict.penalty
  { agent with status := .idle }

/-- Takes an output with its verdict, and applies the verdict to the claimant. The status of the
quest is settled first. -/
def submit (store : StoreAccess ω) (questId : String) (output : Payload) (verdict : Verdict)
    (board : Board) (world : ω) : Except BoardError Receipt × Board × ω :=
  if board.disabled.contains .submit then (.error (.disabled .submit), board, world)
  else
    match board.transition questId .inProgress verdict.finalStatus with
    | .error e => (.error e, board, world)
    | .ok (quest, board) =>
      match quest.claimedBy with
      | none => (.error (.noClaimant questId), board, world)
      | some agentId =>
        match loadAgent store agentId world with
        | (.error e, world) => (.error e, board, world)
        | (.ok agent, world) =>
          let changed := applyVerdict verdict quest.draft.requiredSkills agent
          match saveAgent store changed world with
          | (.error e, world) => (.error e, board, world)
          | (.ok (), world) =>
            (.ok {
              questId, agentId
              status := verdict.finalStatus
              change := verdict.change
              levelBefore := agent.level
              levelAfter := changed.level },
            { board with
              outputs := Keyed.insert questId output board.outputs
              submissions := board.submissions + 1 },
            world)

/-- Gives a quest up without a verdict. A quest that is not finished fails, and its claimant is idle
again. -/
def abandon (store : StoreAccess ω) (questId : String) (board : Board) (world : ω) :
    Except BoardError Unit × Board × ω :=
  match board.quest? questId with
  | none => (.error (.questNotFound questId), board, world)
  | some quest =>
    let board :=
      if quest.status.isActive then
        board.change questId fun quest => { quest with status := .failed }
      else board
    match quest.claimedBy with
    | none => (.ok (), board, world)
    | some agentId =>
      match loadAgent store agentId world with
      | (.error e, world) => (.error e, board, world)
      | (.ok agent, world) =>
        if agent.status ≠ .busy then (.ok (), board, world)
        else
          match saveAgent store { agent with status := .idle } world with
          | (.error e, world) => (.error e, board, world)
          | (.ok (), world) => (.ok (), board, world)

end Board

end QuestAcademy
