import QuestAcademy.Arena

/-!
Rehearsals: a store and a board in memory on which runs can be tried out. Single calls can be made
to fail, the permit can be taken away on the way, and what a run does is recorded.
-/

namespace QuestAcademy

structure CallSchedule where
  counts : List (String × Nat)
  faults : List (String × List Nat)

namespace CallSchedule

def create (faults : List (String × List Nat)) : CallSchedule := ⟨[], faults⟩

/-- Counts a call; the number is told when the call has to fail. -/
def count (schedule : CallSchedule) (call : String) : Option Nat × CallSchedule :=
  let number := (Keyed.find? call schedule.counts).getD 0 + 1
  let failing := ((Keyed.find? call schedule.faults).getD []).contains number
  (if failing then some number else none,
    { schedule with counts := Keyed.insert call number schedule.counts })

end CallSchedule

structure Performance where
  agent : Agent
  quest : Quest
  output : Payload

/-- What is to happen during a run. -/
structure Script where
  revokeOnEvent : Option Nat
  /-- The permit is revoked by these executions, which go on nevertheless. -/
  revokingExecutions : List Nat
  failingExecutions : List Nat
  failingAgents : List String
  failureText : String
  scorer : Scorer
  silent : Bool

structure Rehearsal where
  store : Store
  board : Board
  permit : Permit
  storeCalls : CallSchedule
  boardCalls : CallSchedule
  events : List ProgressEvent
  executions : Nat
  performances : List Performance

namespace Rehearsal

def empty : Rehearsal :=
  { store := .empty
    board := .empty
    permit := .unlimited
    storeCalls := .create []
    boardCalls := .create []
    events := []
    executions := 0
    performances := [] }

def callStore {α : Type} (call : String) (op : Store → Except StoreError α × Store)
    (world : Rehearsal) : Except StoreError α × Rehearsal :=
  let (failing, storeCalls) := world.storeCalls.count call
  let world := { world with storeCalls }
  match failing with
  | some number => (.error (.injected call number), world)
  | none =>
    let (answer, store) := op world.store
    (answer, { world with store })

def storeAccess (space : String) : StoreAccess Rehearsal :=
  { space
    putAgent := fun key agent => callStore "put_agent" (Store.putAgent key agent)
    getAgent := fun key => callStore "get_agent" (Store.getAgent key)
    listAgents := callStore "list_all_agents" Store.listAgents
    putGuild := fun id guild => callStore "put_guild" (Store.putGuild id guild)
    getGuild := fun id => callStore "get_guild" (Store.getGuild id)
    updateGuild := fun id change => callStore "update_guild" (Store.updateGuild id change) }

def callBoard {α : Type} (call : String)
    (op : Board → Rehearsal → Except BoardError α × Board × Rehearsal) (world : Rehearsal) :
    Except BoardError α × Rehearsal :=
  let (failing, boardCalls) := world.boardCalls.count call
  let world := { world with boardCalls }
  match failing with
  | some number => (.error (.injected call number), world)
  | none =>
    let (answer, board, world) := op world.board world
    (answer, { world with board })

def boardOnly {α : Type} (op : Board → Except BoardError α × Board) (board : Board)
    (world : Rehearsal) : Except BoardError α × Board × Rehearsal :=
  let (answer, board) := op board
  (answer, board, world)

def boardAccess (space : String) : BoardAccess Rehearsal :=
  let store := storeAccess space
  { post := fun draft => callBoard "post" (boardOnly (Board.post draft))
    claim := fun questId agentId => callBoard "claim" (Board.claim store questId agentId)
    start := fun questId => callBoard "start" (boardOnly (Board.start questId))
    submit := fun questId output verdict =>
      callBoard "submit" (Board.submit store questId output verdict)
    abandon := fun questId => callBoard "abandon" (Board.abandon store questId) }

def revokeIf (condition : Bool) (world : Rehearsal) : Rehearsal :=
  if condition then { world with permit := world.permit.revoke } else world

/-- Lets an agent hand its quest back, unless the script has other plans. -/
def execute (script : Script) (agent : Agent) (quest : Quest) (world : Rehearsal) :
    Except AttemptError Payload × Rehearsal :=
  let output := echo agent quest
  if script.silent then (.ok output, world)
  else
    let number := world.executions + 1
    let world := revokeIf (script.revokingExecutions.contains number)
      { world with executions := number }
    if script.failingExecutions.contains number || script.failingAgents.contains agent.name then
      (.error (.execution script.failureText), world)
    else
      (.ok output, { world with performances := world.performances ++ [⟨agent, quest, output⟩] })

def report (script : Script) (event : ProgressEvent) (world : Rehearsal) : Rehearsal :=
  if script.silent then world
  else
    revokeIf (script.revokeOnEvent = some (world.events.length + 1))
      { world with events := world.events ++ [event] }

def environment (space : String) (folder : Folder) (script : Script) : Environment Rehearsal :=
  { store := storeAccess space
    board := boardAccess space
    execute := execute script
    judge := fun strictness template output world =>
      (Judgement.byTemplate script.scorer strictness template output, world)
    report := report script
    check := fun world => (world.permit.check, world)
    folder }

def begin (permit : Permit) (world : Rehearsal) : Rehearsal :=
  { world with permit, events := [], executions := 0, performances := [] }

end Rehearsal

end QuestAcademy
