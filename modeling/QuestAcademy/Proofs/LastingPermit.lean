import QuestAcademy.Proofs.HostedCalls

namespace QuestAcademy

variable {ω : Type}

theorem exists_ok_of_map {ε α β : Type} {answer : Except ε α × ω} {f : α → β} {b : β}
    (h : answer.1.toOption.map f = some b) : ∃ a after, answer = (.ok a, after) ∧ f a = b := by
  obtain ⟨result, after⟩ := answer
  cases result with
  | error e => cases h
  | ok a => exact ⟨a, after, rfl, Option.some.inj h⟩

/-- Work may go on in every world that works. -/
def Environment.Permits (env : Environment ω) (works : ω → Prop) : Prop :=
  ∀ world, works world → (env.check world).1 = .ok ()

theorem Environment.Permits.check {env : Environment ω} {works : ω → Prop} {world : ω}
    (h : env.Permits works) (hworks : works world) :
    ∃ checked, env.check world = (.ok (), checked) := by
  refine ⟨(env.check world).2, ?_⟩
  rw [← h world hworks]

/-- A script that takes no permit away. -/
structure Script.Lenient (script : Script) : Prop where
  onEvent : script.revokeOnEvent = none
  executions : script.revokingExecutions = []

namespace Rehearsal

/-- Rehearsals that work if no call is to fail and work may go on. -/
def lasting : HallView Rehearsal :=
  showing fun world => hallView.works world ∧ world.permit.check = .ok ()

theorem works_lasting_onStore (store : Store) : lasting.works (onStore store) :=
  ⟨⟨rfl, rfl⟩, rfl⟩

theorem smooth_lasting : Smooth lasting.works where
  storeCalls := fun hworks => hworks.1.1
  boardCalls := fun hworks => hworks.1.2
  kept := by
    intro world after hworks hpermit hstore hboard
    refine ⟨smooth_hallView.kept hworks.1 hpermit hstore hboard, ?_⟩
    rw [hpermit]
    exact hworks.2

section Lenient

variable {script : Script}

theorem permit_execute (h : script.Lenient) (agent : Agent) (quest : Quest) (world : Rehearsal) :
    (execute script agent quest world).2.permit = world.permit := by
  simp only [execute, h.executions, List.contains_nil, revokeIf, Bool.false_eq_true, if_false]
  split
  · rfl
  · split <;> rfl

theorem permit_report (h : script.Lenient) (event : ProgressEvent) (world : Rehearsal) :
    (report script event world).permit = world.permit := by
  simp only [report, h.onEvent, revokeIf, reduceCtorEq]
  split <;> rfl

theorem hosts_lasting (h : script.Lenient) (space : String) (folder : Folder) :
    (environment space folder script).Hosts lasting := by
  apply smooth_lasting.hosts
  · intro agent quest world hworks
    refine ⟨(unseen_execute script agent quest world).2 hworks.1, ?_⟩
    rw [permit_execute h]
    exact hworks.2
  · intro event world hworks
    refine ⟨(unseen_report script event world).2 hworks.1, ?_⟩
    rw [permit_report h]
    exact hworks.2

end Lenient

theorem permits_lasting (space : String) (folder : Folder) (script : Script) :
    (environment space folder script).Permits lasting.works :=
  fun _ hworks => hworks.2

theorem hosts_quiet_lasting : quiet.Hosts lasting := hosts_lasting ⟨rfl, rfl⟩ _ _

theorem permits_quiet : quiet.Permits lasting.works := permits_lasting _ _ _

theorem inMemory_lasting : quiet.InMemory Store.defaultSpace lasting.storeView where
  space_eq := rfl
  putAgent := fun key agent => (hosts_quiet_lasting.putAgent key agent).mirrors
  getAgent := fun key => (hosts_quiet_lasting.getAgent key).mirrors
  listAgents := hosts_quiet_lasting.listAgents.mirrors
  putGuild := fun id guild => (hosts_quiet_lasting.putGuild id guild).mirrors
  getGuild := fun id => (smooth_lasting.onStore "get_guild" (Store.getGuild id)).mirrors
  updateGuild := fun id change => (hosts_quiet_lasting.updateGuild id change).mirrors
  report := fun _ _ hworks => ⟨rfl, hworks⟩
  check := fun _ hworks => ⟨rfl, hworks⟩

end Rehearsal

end QuestAcademy
