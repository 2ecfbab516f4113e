import QuestAcademy.Proofs.HallView

namespace QuestAcademy

variable {ω : Type}

namespace HallView

def storeView (view : HallView ω) : StoreView ω where
  store := fun world => (view.hall world).store
  works := view.works

variable {view : HallView ω} {world : ω}

theorem OnStore.hall_eq {α : Type} {call : ω → Except StoreError α × ω}
    {op : Store → Except StoreError α × Store} (h : view.OnStore call op)
    (hworks : view.works world) :
    (call world).1 = (op (view.hall world).store).1 ∧
      view.hall (call world).2 =
        { view.hall world with store := (op (view.hall world).store).2 } ∧
      view.works (call world).2 := by
  obtain ⟨hafter, ⟨hfails, -⟩ | ⟨hanswer, hhall⟩⟩ := h world
  · exact absurd hworks hfails
  · exact ⟨hanswer, hhall, hafter hworks⟩

theorem OnStore.mirrors {α : Type} {call : ω → Except StoreError α × ω}
    {op : Store → Except StoreError α × Store} (h : view.OnStore call op) :
    view.storeView.Mirrors call op := by
  intro world hworks
  obtain ⟨hanswer, hhall, hafter⟩ := h.hall_eq hworks
  refine ⟨(call world).1, (call world).2, rfl, ?_, hafter⟩
  simp only [storeView, hanswer, hhall]

end HallView

/-- An operation of the board does in a world what it does over the store that the world shows. -/
def StoreView.MirrorsBoard {α : Type} (view : StoreView ω)
    (op : Board → ω → Except BoardError α × Board × ω)
    (model : Board → Store → Except BoardError α × Board × Store) : Prop :=
  ∀ board world, view.works world → ∃ answer left after, op board world = (answer, left, after) ∧
    model board (view.store world) = (answer, left, view.store after) ∧ view.works after

namespace Board

variable {view : StoreView ω} {store : StoreAccess ω} (space : String)

theorem mirrors_loadAgent (h : view.Mirrors store.listAgents (Store.access space).listAgents)
    (id : String) : view.Mirrors (loadAgent store id) (loadAgent (Store.access space) id) := by
  intro world hworks
  obtain ⟨answer, after, hcall, hmodel, hafter⟩ := h world hworks
  simp only [loadAgent, StoreAccess.getById, hcall, hmodel]
  cases answer with
  | error e => exact ⟨_, after, rfl, rfl, hafter⟩
  | ok agents =>
      cases hfound : agents.find? fun agent => agent.id = id with
      | none =>
          simp only [hfound]
          exact ⟨_, after, rfl, rfl, hafter⟩
      | some agent =>
          simp only [hfound]
          exact ⟨_, after, rfl, rfl, hafter⟩

theorem mirrors_saveAgent
    (h : ∀ key agent, view.Mirrors (store.putAgent key agent)
      ((Store.access space).putAgent key agent)) (agent : Agent) :
    view.Mirrors (saveAgent store agent) (saveAgent (Store.access space) agent) := by
  intro world hworks
  obtain ⟨answer, after, hcall, hmodel, hafter⟩ :=
    h (instanceKey agent.name) agent world hworks
  simp only [saveAgent, hcall, hmodel]
  cases answer with
  | error e => exact ⟨_, after, rfl, rfl, hafter⟩
  | ok done => exact ⟨_, after, rfl, rfl, hafter⟩

theorem mirrorsBoard_alone {α : Type} (op : Board → Except BoardError α × Board) :
    view.MirrorsBoard (alone op) (alone op) :=
  fun _ world hworks => ⟨_, _, world, rfl, rfl, hworks⟩

section Mirroring

variable
  (hlist : view.Mirrors store.listAgents (Store.access space).listAgents)
  (hput : ∀ key agent, view.Mirrors (store.putAgent key agent)
    ((Store.access space).putAgent key agent))
include hlist hput

theorem mirrorsBoard_claim (questId agentId : String) :
    view.MirrorsBoard (claim store questId agentId)
      (claim (Store.access space) questId agentId) := by
  intro board world hworks
  unfold claim
  by_cases hdisabled : board.disabled.contains .claim = true
  · simp only [hdisabled, if_true]
    exact ⟨_, _, world, rfl, rfl, hworks⟩
  by_cases hbarred : board.barred.contains agentId = true
  · simp only [hdisabled, hbarred, if_true]
    exact ⟨_, _, world, rfl, rfl, hworks⟩
  obtain ⟨answer, after, hcall, hmodel, hafter⟩ :=
    mirrors_loadAgent space hlist agentId world hworks
  simp only [hdisabled, hbarred, hcall, hmodel]
  cases answer with
  | error e => exact ⟨_, _, after, rfl, rfl, hafter⟩
  | ok agent =>
      cases htransition : board.transition questId .posted .claimed with
      | error e => exact ⟨_, _, after, rfl, rfl, hafter⟩
      | ok moved =>
          obtain ⟨answer, saved, hcall, hmodel, hsaved⟩ :=
            mirrors_saveAgent space hput { agent with status := .busy } after hafter
          simp only [hcall, hmodel]
          cases answer with
          | error e => exact ⟨_, _, saved, rfl, rfl, hsaved⟩
          | ok done => exact ⟨_, _, saved, rfl, rfl, hsaved⟩

theorem mirrorsBoard_submit (questId : String) (output : Payload) (verdict : Verdict) :
    view.MirrorsBoard (submit store questId output verdict)
      (submit (Store.access space) questId output verdict) := by
  intro board world hworks
  unfold submit
  by_cases hdisabled : board.disabled.contains .submit = true
  · simp only [hdisabled, if_true]
    exact ⟨_, _, world, rfl, rfl, hworks⟩
  simp only [hdisabled]
  cases htransition : board.transition questId .inProgress verdict.finalStatus with
  | error e => exact ⟨_, _, world, rfl, rfl, hworks⟩
  | ok moved =>
      obtain ⟨quest, settled⟩ := moved
      cases hclaimant : quest.claimedBy with
      | none =>
          simp only [hclaimant]
          exact ⟨_, _, world, rfl, rfl, hworks⟩
      | some agentId =>
          obtain ⟨answer, after, hcall, hmodel, hafter⟩ :=
            mirrors_loadAgent space hlist agentId world hworks
          simp only [hclaimant, hcall, hmodel]
          cases answer with
          | error e => exact ⟨_, _, after, rfl, rfl, hafter⟩
          | ok agent =>
              obtain ⟨answer, saved, hcall, hmodel, hsaved⟩ := mirrors_saveAgent space hput
                (applyVerdict verdict quest.draft.requiredSkills agent) after hafter
              simp only [hcall, hmodel]
              cases answer with
              | error e => exact ⟨_, _, saved, rfl, rfl, hsaved⟩
              | ok done => exact ⟨_, _, saved, rfl, rfl, hsaved⟩

theorem mirrorsBoard_abandon (questId : String) :
    view.MirrorsBoard (abandon store questId) (abandon (Store.access space) questId) := by
  intro board world hworks
  unfold abandon
  cases hquest : board.quest? questId with
  | none => exact ⟨_, _, world, rfl, rfl, hworks⟩
  | some quest =>
      cases hclaimant : quest.claimedBy with
      | none =>
          simp only [hclaimant]
          exact ⟨_, _, world, rfl, rfl, hworks⟩
      | some agentId =>
          obtain ⟨answer, after, hcall, hmodel, hafter⟩ :=
            mirrors_loadAgent space hlist agentId world hworks
          simp only [hclaimant, hcall, hmodel]
          cases answer with
          | error e => exact ⟨_, _, after, rfl, rfl, hafter⟩
          | ok agent =>
              by_cases hbusy : agent.status = .busy
              · obtain ⟨answer, saved, hcall, hmodel, hsaved⟩ :=
                  mirrors_saveAgent space hput { agent with status := .idle } after hafter
                simp only [ne_eq, hbusy, not_true_eq_false, if_false, hcall, hmodel]
                cases answer with
                | error e => exact ⟨_, _, saved, rfl, rfl, hsaved⟩
                | ok done => exact ⟨_, _, saved, rfl, rfl, hsaved⟩
              · simp only [ne_eq, hbusy, not_false_eq_true, if_true]
                exact ⟨_, _, after, rfl, rfl, hafter⟩

end Mirroring

end Board

namespace HallView

variable {view : HallView ω} {world : ω}

theorem OnBoard.hall_eq {α : Type} {call : ω → Except BoardError α × ω}
    {op : Board → ω → Except BoardError α × Board × ω}
    {model : Board → Store → Except BoardError α × Board × Store} (h : view.OnBoard call op)
    (hmodel : view.storeView.MirrorsBoard op model) (hworks : view.works world) :
    (call world).1 = (model (view.hall world).board (view.hall world).store).1 ∧
      view.hall (call world).2 =
        { board := (model (view.hall world).board (view.hall world).store).2.1
          store := (model (view.hall world).board (view.hall world).store).2.2 } ∧
      view.works (call world).2 := by
  obtain ⟨hafter, ⟨hfails, -⟩ | ⟨ready, hready, hstays, hanswer, hhall⟩⟩ := h world
  · exact absurd hworks hfails
  · obtain ⟨answer, left, done, hop, hsame, -⟩ :=
      hmodel (view.hall world).board ready (hstays hworks)
    have hstore : view.storeView.store ready = (view.hall world).store := by
      simp only [storeView, hready]
    rw [hstore] at hsame
    rw [hop] at hanswer hhall
    rw [hsame]
    exact ⟨hanswer, hhall, hafter hworks⟩

end HallView

namespace Environment

variable {env : Environment ω} {view : HallView ω} {world : ω}

section Calls

theorem Hosts.hall_post (h : env.Hosts view) (hworks : view.works world) (draft : Draft) :
    (env.board.post draft world).1 = (Board.post draft (view.hall world).board).1 ∧
      view.hall (env.board.post draft world).2 =
        { view.hall world with board := (Board.post draft (view.hall world).board).2 } ∧
      view.works (env.board.post draft world).2 :=
  (h.post draft).hall_eq (Board.mirrorsBoard_alone _) hworks

theorem Hosts.hall_start (h : env.Hosts view) (hworks : view.works world) (questId : String) :
    (env.board.start questId world).1 = (Board.start questId (view.hall world).board).1 ∧
      view.hall (env.board.start questId world).2 =
        { view.hall world with board := (Board.start questId (view.hall world).board).2 } ∧
      view.works (env.board.start questId world).2 :=
  (h.start questId).hall_eq (Board.mirrorsBoard_alone _) hworks

variable (h : env.Hosts view) (hworks : view.works world)
include h hworks

theorem Hosts.hall_claim (questId agentId : String) :
    let done := Board.claim (Store.access env.store.space) questId agentId
      (view.hall world).board (view.hall world).store
    (env.board.claim questId agentId world).1 = done.1 ∧
      view.hall (env.board.claim questId agentId world).2 = ⟨done.2.1, done.2.2⟩ ∧
      view.works (env.board.claim questId agentId world).2 :=
  (h.claim questId agentId).hall_eq (Board.mirrorsBoard_claim env.store.space
    h.listAgents.mirrors (fun key agent => (h.putAgent key agent).mirrors) questId agentId) hworks

theorem Hosts.hall_submit (questId : String) (output : Payload) (verdict : Verdict) :
    let done := Board.submit (Store.access env.store.space) questId output verdict
      (view.hall world).board (view.hall world).store
    (env.board.submit questId output verdict world).1 = done.1 ∧
      view.hall (env.board.submit questId output verdict world).2 = ⟨done.2.1, done.2.2⟩ ∧
      view.works (env.board.submit questId output verdict world).2 :=
  (h.submit questId output verdict).hall_eq (Board.mirrorsBoard_submit env.store.space
    h.listAgents.mirrors (fun key agent => (h.putAgent key agent).mirrors) questId output verdict)
    hworks

theorem Hosts.hall_abandon (questId : String) :
    let done := Board.abandon (Store.access env.store.space) questId
      (view.hall world).board (view.hall world).store
    (env.board.abandon questId world).1 = done.1 ∧
      view.hall (env.board.abandon questId world).2 = ⟨done.2.1, done.2.2⟩ ∧
      view.works (env.board.abandon questId world).2 :=
  (h.abandon questId).hall_eq (Board.mirrorsBoard_abandon env.store.space
    h.listAgents.mirrors (fun key agent => (h.putAgent key agent).mirrors) questId) hworks

theorem Hosts.step (call : BoardCall) :
    (view.hall world).Step call (env.perform world call).1
        (view.hall (env.perform world call).2) ∧
      view.works (env.perform world call).2 := by
  have hstep := (view.hall world).step_perform env.store.space call
  cases call with
  | post draft =>
      obtain ⟨hanswer, hhall, hafter⟩ := h.hall_post hworks draft
      simp only [perform, hanswer, hhall]
      exact ⟨hstep, hafter⟩
  | claim questId agentId =>
      obtain ⟨hanswer, hhall, hafter⟩ := h.hall_claim hworks questId agentId
      simp only [perform, hanswer, hhall]
      exact ⟨hstep, hafter⟩
  | start questId =>
      obtain ⟨hanswer, hhall, hafter⟩ := h.hall_start hworks questId
      simp only [perform, hanswer, hhall]
      exact ⟨hstep, hafter⟩
  | submit questId output verdict =>
      obtain ⟨hanswer, hhall, hafter⟩ := h.hall_submit hworks questId output verdict
      simp only [perform, hanswer, hhall]
      exact ⟨hstep, hafter⟩
  | abandon questId =>
      obtain ⟨hanswer, hhall, hafter⟩ := h.hall_abandon hworks questId
      simp only [perform, hanswer, hhall]
      exact ⟨hstep, hafter⟩

end Calls

end Environment

end QuestAcademy
