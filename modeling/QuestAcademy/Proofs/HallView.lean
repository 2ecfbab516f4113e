import QuestAcademy.Proofs.BoardCalls
import QuestAcademy.Proofs.StoreMirror

/-!
Environments whose store and board are those kept in memory. A world shows the hall that its calls
change; single calls may be made to fail as long as the world is not said to work. The calls of the
board go on to the calls of the store, so that these may fail in the middle of a call of the board.
-/

namespace QuestAcademy

/-- What worlds show of a board with its store, and which worlds make no call fail. -/
structure HallView (ω : Type) where
  hall : ω → Hall
  works : ω → Prop

variable {ω : Type}

namespace HallView

variable (view : HallView ω)

/-- A call is made to fail, and nothing that is shown changes. -/
def Faults {ε α : Type} (call : ω → Except ε α × ω) (world : ω) : Prop :=
  ¬ view.works world ∧ (∃ e, (call world).1 = .error e) ∧
    view.hall (call world).2 = view.hall world

/-- A call does to the store what `op` does to it. -/
def OnStore {α : Type} (call : ω → Except StoreError α × ω)
    (op : Store → Except StoreError α × Store) : Prop :=
  ∀ world, (view.works world → view.works (call world).2) ∧
    (view.Faults call world ∨
      (call world).1 = (op (view.hall world).store).1 ∧
        view.hall (call world).2 =
          { view.hall world with store := (op (view.hall world).store).2 })

/-- A call does to the board what `op` does to it, and to the store whatever calls `op` makes. -/
def OnBoard {α : Type} (call : ω → Except BoardError α × ω)
    (op : Board → ω → Except BoardError α × Board × ω) : Prop :=
  ∀ world, (view.works world → view.works (call world).2) ∧
    (view.Faults call world ∨
      ∃ ready, view.hall ready = view.hall world ∧ (view.works world → view.works ready) ∧
        (call world).1 = (op (view.hall world).board ready).1 ∧
        view.hall (call world).2 =
          { board := (op (view.hall world).board ready).2.1
            store := (view.hall (op (view.hall world).board ready).2.2).store })

/-- A change of the world that the hall does not show. -/
def Unseen (change : ω → ω) : Prop :=
  ∀ world, view.hall (change world) = view.hall world ∧
    (view.works world → view.works (change world))

variable {view : HallView ω} {P : Store → Prop} {world : ω}

theorem OnStore.keeps {α : Type} {call : ω → Except StoreError α × ω}
    {op : Store → Except StoreError α × Store} (h : view.OnStore call op)
    (hop : ∀ store, P store → P (op store).2) (hworld : P (view.hall world).store) :
    P (view.hall (call world).2).store := by
  obtain ⟨-, ⟨-, -, hkept⟩ | ⟨-, hafter⟩⟩ := h world
  · rw [hkept]
    exact hworld
  · rw [hafter]
    exact hop _ hworld

theorem OnBoard.keeps {α : Type} {call : ω → Except BoardError α × ω}
    {op : Board → ω → Except BoardError α × Board × ω} (h : view.OnBoard call op)
    (hop : ∀ board ready, P (view.hall ready).store → P (view.hall (op board ready).2.2).store)
    (hworld : P (view.hall world).store) : P (view.hall (call world).2).store := by
  obtain ⟨-, ⟨-, -, hkept⟩ | ⟨ready, hready, -, -, hafter⟩⟩ := h world
  · rw [hkept]
    exact hworld
  · rw [hafter]
    apply hop
    rw [hready]
    exact hworld

theorem Unseen.keeps {change : ω → ω} (h : view.Unseen change)
    (hworld : P (view.hall world).store) : P (view.hall (change world)).store := by
  rw [(h world).1]
  exact hworld

end HallView

/-- An operation of the board that asks nothing of the store. -/
def Board.alone {α : Type} (op : Board → Except BoardError α × Board) (board : Board) (world : ω) :
    Except BoardError α × Board × ω :=
  ((op board).1, (op board).2, world)

namespace Environment

def perform (env : Environment ω) (world : ω) : BoardCall → Except BoardError BoardAnswer × ω
  | .post draft =>
      let (answer, world) := env.board.post draft world
      (answer.map .posted, world)
  | .claim questId agentId =>
      let (answer, world) := env.board.claim questId agentId world
      (answer.map fun _ => .done, world)
  | .start questId =>
      let (answer, world) := env.board.start questId world
      (answer.map fun _ => .done, world)
  | .submit questId output verdict =>
      let (answer, world) := env.board.submit questId output verdict world
      (answer.map .settled, world)
  | .abandon questId =>
      let (answer, world) := env.board.abandon questId world
      (answer.map fun _ => .done, world)

/-- All calls go to the hall that the world shows, which nothing else changes. -/
structure Hosts (env : Environment ω) (view : HallView ω) : Prop where
  putAgent : ∀ key agent, view.OnStore (env.store.putAgent key agent) (Store.putAgent key agent)
  getAgent : ∀ key, view.OnStore (env.store.getAgent key) (Store.getAgent key)
  listAgents : view.OnStore env.store.listAgents Store.listAgents
  putGuild : ∀ id guild, view.OnStore (env.store.putGuild id guild) (Store.putGuild id guild)
  updateGuild : ∀ id change,
    view.OnStore (env.store.updateGuild id change) (Store.updateGuild id change)
  post : ∀ draft, view.OnBoard (env.board.post draft) (Board.alone (Board.post draft))
  claim : ∀ questId agentId,
    view.OnBoard (env.board.claim questId agentId) (Board.claim env.store questId agentId)
  start : ∀ questId, view.OnBoard (env.board.start questId) (Board.alone (Board.start questId))
  submit : ∀ questId output verdict,
    view.OnBoard (env.board.submit questId output verdict)
      (Board.submit env.store questId output verdict)
  abandon : ∀ questId, view.OnBoard (env.board.abandon questId) (Board.abandon env.store questId)
  execute : ∀ agent quest, view.Unseen fun world => (env.execute agent quest world).2
  judge : ∀ strictness template output,
    view.Unseen fun world => (env.judge strictness template output world).2
  report : ∀ event, view.Unseen (env.report event)
  check : view.Unseen fun world => (env.check world).2

end Environment

namespace Board

/-- What the calls of a store keep, if only agents of some kind are put into it and such agents are
listed, and if what the board makes of agents of this kind is of this kind. -/
structure Trades (store : StoreAccess ω) (P : ω → Prop) (Q : Agent → Prop) : Prop where
  listAgents : ∀ {world}, P world → P (store.listAgents world).2
  listed : ∀ {world agents}, P world → (store.listAgents world).1 = .ok agents →
    ∀ agent ∈ agents, Q agent
  putAgent : ∀ {agent world}, Q agent → P world →
    P (store.putAgent (instanceKey agent.name) agent world).2
  withStatus : ∀ {agent} status, Q agent → Q { agent with status }
  applyVerdict : ∀ {agent} verdict skills, Q agent → Q (applyVerdict verdict skills agent)

section Trading

variable {store : StoreAccess ω} {P : ω → Prop} {Q : Agent → Prop} {world : ω} {board : Board}

theorem Trades.loadAgent (h : Trades store P Q) (id : String) (hworld : P world) :
    P (loadAgent store id world).2 ∧
      ∀ agent, (Board.loadAgent store id world).1 = .ok agent → Q agent := by
  have hlisted := h.listAgents hworld
  simp only [Board.loadAgent, StoreAccess.getById]
  cases hlist : store.listAgents world with
  | mk answer after =>
      rw [hlist] at hlisted
      cases answer with
      | error e =>
          refine ⟨hlisted, ?_⟩
          intro agent hagent
          cases hagent
      | ok agents =>
          cases hfound : agents.find? fun agent => agent.id = id with
          | none =>
              simp only [hfound]
              refine ⟨hlisted, ?_⟩
              intro agent hagent
              cases hagent
          | some found =>
              simp only [hfound]
              refine ⟨hlisted, ?_⟩
              intro agent hagent
              cases hagent
              exact h.listed hworld (by rw [hlist]) found (List.mem_of_find?_eq_some hfound)

theorem Trades.saveAgent (h : Trades store P Q) {agent : Agent} (hagent : Q agent)
    (hworld : P world) : P (saveAgent store agent world).2 := by
  have hput := h.putAgent hagent hworld
  unfold Board.saveAgent
  split <;> rename_i heq <;> rw [heq] at hput <;> exact hput

theorem Trades.claim (h : Trades store P Q) (questId agentId : String) (hworld : P world) :
    P (claim store questId agentId board world).2.2 := by
  unfold Board.claim
  split
  · exact hworld
  · split
    · exact hworld
    · obtain ⟨hloaded, hagent⟩ := h.loadAgent agentId hworld
      split <;> rename_i heq <;> rw [heq] at hloaded hagent
      · exact hloaded
      · split
        · exact hloaded
        · have hsaved := h.saveAgent (h.withStatus .busy (hagent _ rfl)) hloaded
          simp only
          split <;> rename_i hsave <;> rw [hsave] at hsaved <;> exact hsaved

theorem Trades.submit (h : Trades store P Q) (questId : String) (output : Payload)
    (verdict : Verdict) (hworld : P world) :
    P (submit store questId output verdict board world).2.2 := by
  unfold Board.submit
  split
  · exact hworld
  · split
    · exact hworld
    · rename_i quest settled htransition
      split
      · exact hworld
      · rename_i agentId hclaimant
        obtain ⟨hloaded, hagent⟩ := h.loadAgent agentId hworld
        split <;> rename_i heq <;> rw [heq] at hloaded hagent
        · exact hloaded
        · have hsaved := h.saveAgent
            (h.applyVerdict verdict quest.draft.requiredSkills (hagent _ rfl)) hloaded
          simp only
          split <;> rename_i hsave <;> rw [hsave] at hsaved <;> exact hsaved

theorem Trades.abandon (h : Trades store P Q) (questId : String) (hworld : P world) :
    P (abandon store questId board world).2.2 := by
  unfold Board.abandon
  split
  · exact hworld
  · simp only
    split
    · exact hworld
    · rename_i agentId _
      obtain ⟨hloaded, hagent⟩ := h.loadAgent agentId hworld
      split <;> rename_i heq <;> rw [heq] at hloaded hagent
      · exact hloaded
      · split
        · exact hloaded
        · have hsaved := h.saveAgent (h.withStatus .idle (hagent _ rfl)) hloaded
          split <;> rename_i hsave <;> rw [hsave] at hsaved <;> exact hsaved

end Trading

end Board

namespace Rehearsal

/-- The board and the store of a rehearsal; it works if no call of theirs is to fail. -/
def hallView : HallView Rehearsal where
  hall := fun world => { board := world.board, store := world.store }
  works := fun world => world.storeCalls.faults = [] ∧ world.boardCalls.faults = []

/-- Rehearsals as a hall, of which only some are said to work. -/
def showing (works : Rehearsal → Prop) : HallView Rehearsal :=
  { hallView with works }

/-- In a rehearsal that works no call is to fail. What a call may change is of no account. -/
structure Smooth (works : Rehearsal → Prop) : Prop where
  storeCalls : ∀ {world}, works world → world.storeCalls.faults = []
  boardCalls : ∀ {world}, works world → world.boardCalls.faults = []
  kept : ∀ {world after : Rehearsal}, works world → after.permit = world.permit →
    after.storeCalls.faults = world.storeCalls.faults →
    after.boardCalls.faults = world.boardCalls.faults → works after

theorem smooth_hallView : Smooth hallView.works where
  storeCalls := fun hworks => hworks.1
  boardCalls := fun hworks => hworks.2
  kept := fun hworks _ hstore hboard => ⟨hstore.trans hworks.1, hboard.trans hworks.2⟩

theorem count_eq_none {schedule : CallSchedule} (h : schedule.faults = []) (call : String) :
    (schedule.count call).1 = none := by
  simp [CallSchedule.count, h, Keyed.find?]

section Calls

variable {works : Rehearsal → Prop}

theorem Smooth.onStore (h : Smooth works) {α : Type} (call : String)
    (op : Store → Except StoreError α × Store) :
    (showing works).OnStore (callStore call op) op := by
  intro world
  cases hcount : (world.storeCalls.count call).1 with
  | none =>
      have hcall : callStore call op world = ((op world.store).1, { world with
          storeCalls := (world.storeCalls.count call).2
          store := (op world.store).2 }) := by
        simp only [callStore, hcount]
      rw [hcall]
      exact ⟨fun hworks => h.kept hworks rfl rfl rfl, .inr ⟨rfl, rfl⟩⟩
  | some number =>
      have hcall : callStore call op world = (.error (.injected call number),
          { world with storeCalls := (world.storeCalls.count call).2 }) := by
        simp only [callStore, hcount]
      unfold HallView.Faults
      rw [hcall]
      refine ⟨fun hworks => h.kept hworks rfl rfl rfl, .inl ⟨?_, ⟨_, rfl⟩, rfl⟩⟩
      intro hworks
      rw [count_eq_none (h.storeCalls hworks)] at hcount
      cases hcount

theorem Smooth.trades (h : Smooth works) (space : String) :
    Board.Trades (storeAccess space) works fun _ => True where
  listAgents := fun {world} hworks =>
    (h.onStore "list_all_agents" Store.listAgents world).1 hworks
  listed := fun _ _ _ _ => trivial
  putAgent := fun {agent world} _ hworks =>
    (h.onStore "put_agent" (Store.putAgent (instanceKey agent.name) agent) world).1 hworks
  withStatus := fun _ _ => trivial
  applyVerdict := fun _ _ _ => trivial

theorem Smooth.onBoard (h : Smooth works) {α : Type} (call : String)
    {op : Board → Rehearsal → Except BoardError α × Board × Rehearsal}
    (hop : ∀ board world, works world → works (op board world).2.2) :
    (showing works).OnBoard (callBoard call op) op := by
  intro world
  cases hcount : (world.boardCalls.count call).1 with
  | none =>
      let ready : Rehearsal := { world with boardCalls := (world.boardCalls.count call).2 }
      have hcall : callBoard call op world = ((op world.board ready).1,
          { (op world.board ready).2.2 with board := (op world.board ready).2.1 }) := by
        simp only [callBoard, hcount, ready]
      have hready : works world → works ready := fun hworks => h.kept hworks rfl rfl rfl
      rw [hcall]
      exact ⟨fun hworks => h.kept (hop world.board ready (hready hworks)) rfl rfl rfl,
        .inr ⟨ready, rfl, hready, rfl, rfl⟩⟩
  | some number =>
      have hcall : callBoard call op world = (.error (.injected call number),
          { world with boardCalls := (world.boardCalls.count call).2 }) := by
        simp only [callBoard, hcount]
      unfold HallView.Faults
      rw [hcall]
      refine ⟨fun hworks => h.kept hworks rfl rfl rfl, .inl ⟨?_, ⟨_, rfl⟩, rfl⟩⟩
      intro hworks
      rw [count_eq_none (h.boardCalls hworks)] at hcount
      cases hcount

end Calls

theorem unseen_revokeIf (condition : Bool) : hallView.Unseen (revokeIf condition) := by
  intro world
  unfold revokeIf
  split
  · exact ⟨rfl, id⟩
  · exact ⟨rfl, id⟩

theorem unseen_execute (script : Script) (agent : Agent) (quest : Quest) :
    hallView.Unseen fun world => (execute script agent quest world).2 := by
  intro world
  have hrevoke := unseen_revokeIf (script.revokingExecutions.contains (world.executions + 1))
    { world with executions := world.executions + 1 }
  simp only [execute]
  split
  · exact ⟨rfl, id⟩
  · split
    · exact hrevoke
    · exact hrevoke

theorem unseen_report (script : Script) (event : ProgressEvent) :
    hallView.Unseen (report script event) := by
  intro world
  have hrevoke := unseen_revokeIf (script.revokeOnEvent = some (world.events.length + 1))
    { world with events := world.events ++ [event] }
  unfold report
  split
  · exact ⟨rfl, id⟩
  · exact hrevoke

/-- A rehearsal is a hall; which rehearsals work may depend on the permit, as long as the script
leaves it alone. -/
theorem Smooth.hosts {works : Rehearsal → Prop} (h : Smooth works) (space : String)
    (folder : Folder) {script : Script}
    (hexecute : ∀ agent quest world, works world → works (execute script agent quest world).2)
    (hreport : ∀ event world, works world → works (report script event world)) :
    (environment space folder script).Hosts (showing works) where
  putAgent := fun key agent => h.onStore "put_agent" (Store.putAgent key agent)
  getAgent := fun key => h.onStore "get_agent" (Store.getAgent key)
  listAgents := h.onStore "list_all_agents" Store.listAgents
  putGuild := fun id guild => h.onStore "put_guild" (Store.putGuild id guild)
  updateGuild := fun id change => h.onStore "update_guild" (Store.updateGuild id change)
  post := fun _ => h.onBoard "post" fun _ _ hworks => hworks
  claim := fun questId agentId => h.onBoard "claim" fun _ _ hworks =>
    (h.trades space).claim questId agentId hworks
  start := fun _ => h.onBoard "start" fun _ _ hworks => hworks
  submit := fun questId output verdict => h.onBoard "submit" fun _ _ hworks =>
    (h.trades space).submit questId output verdict hworks
  abandon := fun questId => h.onBoard "abandon" fun _ _ hworks =>
    (h.trades space).abandon questId hworks
  execute := fun agent quest world =>
    ⟨(unseen_execute script agent quest world).1, hexecute agent quest world⟩
  judge := fun _ _ _ _ => ⟨rfl, id⟩
  report := fun event world => ⟨(unseen_report script event world).1, hreport event world⟩
  check := fun _ => ⟨rfl, id⟩

theorem hosts (space : String) (folder : Folder) (script : Script) :
    (environment space folder script).Hosts hallView :=
  smooth_hallView.hosts space folder
    (fun agent quest world => (unseen_execute script agent quest world).2)
    (fun event world => (unseen_report script event world).2)

theorem hosts_quiet : quiet.Hosts hallView := hosts _ _ _

end Rehearsal

end QuestAcademy
