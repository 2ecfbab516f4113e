import Mathlib.Data.Set.Function
import QuestAcademy.Proofs.RosterPlacement

namespace QuestAcademy

def Store.names (store : Store) : Set String :=
  {name | store.Holds name}

namespace Roster

def namesOf (items : List (AgentBatch × String)) : Set String :=
  {name | ∃ item ∈ items, item.2 = name}

theorem namesOf_cons (batch : AgentBatch) (name : String) (rest : List (AgentBatch × String)) :
    namesOf ((batch, name) :: rest) = insert name (namesOf rest) := by
  ext other
  simp [namesOf, eq_comm]

variable {space : String} {items : List (AgentBatch × String)} {before after : Store}
  {created : Nat}

theorem Places.holds_iff {batch : AgentBatch} {name : String}
    (h : Places space batch name before after) (other : String) :
    after.Holds other ↔
      other = name ∨ before.Holds other ∧ instanceKey other ≠ instanceKey name := by
  unfold Store.Holds
  rw [h.agent]
  by_cases hkey : instanceKey other = instanceKey name
  · rw [if_pos hkey]
    constructor
    · rintro ⟨agent, hagent, rfl⟩
      cases hagent
      exact .inl rfl
    · rintro (rfl | ⟨-, hne⟩)
      · exact ⟨_, rfl, rfl⟩
      · exact absurd hkey hne
  · rw [if_neg hkey]
    constructor
    · intro hother
      exact .inr ⟨hother, hkey⟩
    · rintro (rfl | ⟨hother, -⟩)
      · exact absurd rfl hkey
      · exact hother

theorem Enrols.size_le (h : Enrols space items before created after) :
    after.agents.size ≤ before.agents.size + created := by
  induction h with
  | done => exact Nat.le_refl _
  | skipped hholds hrest ih => exact ih
  | placed hnew hplaces hrest ih =>
      have hsize := hplaces.size
      split at hsize <;> omega

theorem injOn_names (store : Store) : Set.InjOn instanceKey store.names := by
  rintro name ⟨agent, hagent, rfl⟩ other ⟨same, hsame, rfl⟩ hkey
  rw [hkey, hsame] at hagent
  cases hagent
  rfl

/-- The store grows by one for every agent that is placed exactly if no two of the names that are
stored or among the items have the same key: an agent placed where another one lies is placed, but
the store does not grow. -/
theorem Enrols.size_eq_iff (h : Enrols space items before created after) (hnamed : before.Named) :
    after.agents.size = before.agents.size + created ↔
      Set.InjOn instanceKey (before.names ∪ namesOf items) := by
  induction h with
  | @done store =>
      have hnone : namesOf [] = ∅ := by
        ext name
        simp [namesOf]
      rw [hnone, Set.union_empty]
      exact iff_of_true rfl (injOn_names store)
  | @skipped batch name rest store after created hholds hrest ih =>
      have hsame : store.names ∪ namesOf ((batch, name) :: rest) = store.names ∪ namesOf rest := by
        rw [namesOf_cons, Set.union_insert, Set.insert_eq_of_mem]
        exact .inl hholds
      rw [hsame]
      exact ih hnamed
  | @placed batch name rest store next after created hnew hplaces hrest ih =>
      have hsize := hplaces.size
      have hle := hrest.size_le
      cases hfound : store.agents.find? (instanceKey name) with
      | none =>
          have hsame : store.names ∪ namesOf ((batch, name) :: rest) =
              next.names ∪ namesOf rest := by
            have hfree : ∀ other, store.Holds other → instanceKey other ≠ instanceKey name := by
              rintro other ⟨agent, hagent, -⟩ hkey
              rw [hkey, hfound] at hagent
              cases hagent
            have hnames : next.names = insert name store.names := by
              ext other
              simp only [Store.names, Set.mem_ofPred_eq, Set.mem_insert_iff, hplaces.holds_iff]
              constructor
              · rintro (rfl | ⟨hother, -⟩)
                · exact .inl rfl
                · exact .inr hother
              · rintro (rfl | hother)
                · exact .inl rfl
                · exact .inr ⟨hother, hfree other hother⟩
            rw [namesOf_cons, hnames, Set.union_insert, Set.insert_union]
          rw [hfound] at hsize
          rw [hsame, ← ih hplaces.named, hsize]
          simp only [Option.isSome_none, Bool.false_eq_true, if_false]
          omega
      | some agent =>
          rw [hfound] at hsize
          refine iff_of_false ?_ ?_
          · simp only [Option.isSome_some, if_true] at hsize
            omega
          · intro hinj
            have hkey : instanceKey agent.name = instanceKey name := hnamed.key _ agent hfound
            have hstored : store.Holds agent.name := ⟨agent, hkey ▸ hfound, rfl⟩
            have hitem : name ∈ namesOf ((batch, name) :: rest) :=
              ⟨(batch, name), List.mem_cons_self, rfl⟩
            exact hnew ⟨agent, hfound, hinj (.inl hstored) (.inr hitem) hkey⟩

end Roster

namespace Environment

open Roster

variable {ω : Type} {env : Environment ω} {space : String} {view : StoreView ω}

/-- A completed idempotent run leaves every stored agent as it is and adds as many as it reports,
exactly if no two names that are stored or in the plan differ and have the same key. -/
theorem InMemory.seed_spares_agents_iff (h : env.InMemory space view) {plan : RosterPlan}
    {world after : ω} {report : Report} (hworks : view.works world)
    (hworking : (view.store world).Working) (hnamed : (view.store world).Named)
    (hseed : seed env plan false true world = (.ok report, after)) :
    (∀ key agent, (view.store world).agents.find? key = some agent →
        (view.store after).agents.find? key = some agent) ∧
      (view.store after).agents.size = (view.store world).agents.size + report.agentsCreated ↔
    Set.InjOn instanceKey ((view.store world).names ∪ namesOf plan.items) := by
  obtain ⟨founded, hfounds, henrols, -⟩ := h.seed_enrols hworks hworking hnamed hseed
  have hnames : founded.names = (view.store world).names := by
    unfold Store.names Store.Holds
    rw [hfounds.agents]
  have hsize := henrols.size_eq_iff (hfounds.named hnamed)
  rw [hnames, hfounds.agents] at hsize
  refine ⟨fun hkept => hsize.mp hkept.2, fun hinj => ⟨?_, hsize.mpr hinj⟩⟩
  intro key agent hagent
  refine henrols.find?_of_spares ⟨hfounds.agents ▸ hagent, ?_⟩
  intro item hitem hkey
  have hown := hnamed.key key agent hagent
  have hstored : (view.store world).Holds agent.name := ⟨agent, hown ▸ hagent, rfl⟩
  exact hinj (.inr ⟨item, hitem, rfl⟩) (.inl hstored) (hkey.trans hown.symm)

theorem seed_spares_scout_iff :
    ∃ report after,
      seed Rehearsal.quiet (.solo "bard-{n}" none) false true (Rehearsal.onStore .scouted) =
          (.ok report, after) ∧
        ((∀ key agent, Store.scouted.agents.find? key = some agent →
            after.store.agents.find? key = some agent) ∧
          after.store.agents.size = Store.scouted.agents.size + report.agentsCreated ↔
        Set.InjOn instanceKey
          (Store.scouted.names ∪ namesOf (RosterPlan.solo "bard-{n}" none).items)) := by
  have hok : (seed Rehearsal.quiet (.solo "bard-{n}" none) false true
      (Rehearsal.onStore .scouted)).1.isOk = true := by decide +kernel
  cases hseed : seed Rehearsal.quiet (.solo "bard-{n}" none) false true
      (Rehearsal.onStore .scouted) with
  | mk answer after =>
      rw [hseed] at hok
      cases answer with
      | error failure => cases hok
      | ok report =>
          have hkeyed : Store.scouted.Named := Store.wellKeyed_scouted.toNamed
          exact ⟨report, after, rfl, Rehearsal.inMemory_quiet.seed_spares_agents_iff
            (Rehearsal.works_onStore .scouted) Store.working_scouted hkeyed hseed⟩

/-- An agent named "Foo 1" is gone once a roster has placed one named "foo-1". -/
theorem seed_replaces_agent_of_same_key :
    let before := Store.empty.save (Agent.create "guildhall.agent.foo-1" "Foo 1" 9)
    let after :=
      (seed Rehearsal.quiet (.solo "foo-{n}" none) false true (Rehearsal.onStore before)).2.store
    (before.agents.find? "foo-1").map Agent.name = some "Foo 1" ∧
      (after.agents.find? "foo-1").map Agent.name = some "foo-1" ∧
      after.agents.size = before.agents.size := by
  decide +kernel

end Environment

end QuestAcademy
