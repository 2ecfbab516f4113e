import QuestAcademy.Proofs.GuildMembership
import QuestAcademy.Proofs.LastingPermit
import QuestAcademy.Proofs.RosterPreservation

namespace QuestAcademy

def RosterPlan.duet : RosterPlan :=
  { name := "duet"
    description := ""
    batches := [{
      pattern := "bard-{n}"
      count := 2
      level := Level.lowest
      skills := []
      modelSettings := none
      isNpc := true
      guildId := some "choir"
      firstOrdinal := 1 }]
    charters := [] }

def Store.withBard : Store :=
  empty.save (Agent.create "guildhall.agent.bard-1" "bard-1" 4)

namespace Roster

variable {space : String} {items : List (AgentBatch × String)} {before after : Store}
  {created : Nat}

theorem injOn_namesOf_iff (items : List (AgentBatch × String)) :
    Set.InjOn instanceKey (namesOf items) ↔
      ∀ item ∈ items, ∀ other ∈ items, instanceKey item.2 = instanceKey other.2 →
        item.2 = other.2 := by
  constructor
  · intro hinj item hitem other hother hkey
    exact hinj ⟨item, hitem, rfl⟩ ⟨other, hother, rfl⟩ hkey
  · rintro hitems _ ⟨item, hitem, rfl⟩ _ ⟨other, hother, rfl⟩ hkey
    exact hitems item hitem other hother hkey

theorem Enrols.holds (h : Enrols space items before created after)
    (hinj : Set.InjOn instanceKey (namesOf items)) : ∀ item ∈ items, after.Holds item.2 := by
  -- What lies under the key of a name once its item is passed is spared by all later items.
  have hstays : ∀ {batch : AgentBatch} {name : String} {rest : List (AgentBatch × String)}
      {store last : Store} {placed : Nat} {agent : Agent},
      Set.InjOn instanceKey (namesOf ((batch, name) :: rest)) →
      store.agents.find? (instanceKey name) = some agent → agent.name = name →
      Enrols space rest store placed last → last.Holds name := by
    intro batch name rest store last placed agent hinj hstored hname hrest
    refine ⟨agent, hrest.find?_of_spares ⟨hstored, ?_⟩, hname⟩
    intro item hitem hkey
    rw [hname]
    exact hinj ⟨item, List.mem_cons_of_mem _ hitem, rfl⟩
      ⟨(batch, name), List.mem_cons_self, rfl⟩ hkey
  have hlater : ∀ {batch : AgentBatch} {name : String} {rest : List (AgentBatch × String)},
      Set.InjOn instanceKey (namesOf ((batch, name) :: rest)) →
      Set.InjOn instanceKey (namesOf rest) := by
    intro batch name rest hinj
    rw [namesOf_cons] at hinj
    exact hinj.mono (Set.subset_insert _ _)
  induction h with
  | done => simp
  | skipped hholds hrest ih =>
      obtain ⟨agent, hstored, hname⟩ := hholds
      intro item hitem
      rcases List.mem_cons.mp hitem with rfl | hmem
      · exact hstays hinj hstored hname hrest
      · exact ih (hlater hinj) item hmem
  | @placed batch name _ store _ _ _ hnew hplaces hrest ih =>
      intro item hitem
      rcases List.mem_cons.mp hitem with rfl | hmem
      · have hstored := hplaces.agent (instanceKey name)
        rw [if_pos rfl] at hstored
        exact hstays hinj hstored rfl hrest
      · exact ih (hlater hinj) item hmem

theorem Enrols.named (h : Enrols space items before created after) (hnamed : before.Named) :
    after.Named := by
  induction h with
  | done => exact hnamed
  | skipped hholds hrest ih => exact ih hnamed
  | placed hnew hplaces hrest ih => exact ih hplaces.named

theorem validate_of_seed {ω : Type} {env : Environment ω} {plan : RosterPlan}
    {dryRun idempotent : Bool} {world after : ω} {report : Report}
    (h : seed env plan dryRun idempotent world = (.ok report, after)) :
    plan.validate = .ok () := by
  unfold seed at h
  simp only at h
  split at h
  · cases h
  · assumption

end Roster

namespace Environment

open Roster

variable {ω : Type} {env : Environment ω} {space : String} {view : StoreView ω} {world : ω}

theorem InMemory.seedGuilds_completes (h : env.InMemory space view)
    (hpermits : env.Permits view.works) (total : Nat) (charters : List GuildCharter) (done : Nat)
    (report : Report) (hworks : view.works world) :
    ∃ final after, seedGuilds env false total done charters report world =
        (.ok (), final, after) ∧
      final = { report with guildsCreated := report.guildsCreated + charters.length } := by
  induction charters generalizing done report world with
  | nil => exact ⟨report, world, rfl, rfl⟩
  | cons charter rest ih =>
      obtain ⟨checked, hanswer⟩ := hpermits.check hworks
      have hchecked := (h.check world hworks).2
      rw [hanswer] at hchecked
      have hreported := (h.report (foundingEvent charter (done + 1) total) checked hchecked).2
      obtain ⟨founding, founded, hcall, hmodel, hfounded⟩ := h.found charter _ hreported
      rw [found_access] at hmodel
      obtain ⟨rfl, -⟩ := Prod.mk.inj hmodel
      obtain ⟨final, after, hrest, hfinal⟩ := ih (done + 1) (report.noteFounding .founded) hfounded
      refine ⟨final, after, ?_, ?_⟩
      · rw [seedGuilds]
        simp only [hanswer, Bool.false_eq_true, if_false, hcall]
        exact hrest
      · rw [hfinal, List.length_cons, Nat.add_comm rest.length, ← Nat.add_assoc]
        rfl

def Finds (store : Store) (item : AgentBatch × String) (agent : Agent) : Prop :=
  store.agents.find? (instanceKey item.2) = some agent ∧ agent.name = item.2

theorem InMemory.seedAgents_skips (h : env.InMemory space view)
    (hpermits : env.Permits view.works) (total : Nat) {items : List (AgentBatch × String)}
    (done : Nat) (report : Report) (hworks : view.works world)
    (hworking : (view.store world).Working) (hnamed : (view.store world).Named)
    (hholds : ∀ item ∈ items, (view.store world).Holds item.2) :
    ∃ final found after, seedAgents env false true total done items report world =
        (.ok (), final, after) ∧
      final = { report with
        agentsSkipped := report.agentsSkipped + items.length
        agents := report.agents ++ found.map Agent.summary } ∧
      List.Forall₂ (Finds (view.store world)) items found ∧
        view.store after = view.store world := by
  induction items generalizing done report world with
  | nil =>
      refine ⟨report, [], world, rfl, ?_, .nil, rfl⟩
      rw [List.map_nil, List.append_nil]
      rfl
  | cons item rest ih =>
      obtain ⟨batch, name⟩ := item
      obtain ⟨checked, hanswer⟩ := hpermits.check hworks
      obtain ⟨hcheck, hchecked⟩ := h.check world hworks
      rw [hanswer] at hcheck hchecked
      obtain ⟨hreport, hreported⟩ := h.report (placingEvent name (done + 1) total) checked hchecked
      obtain ⟨placement, placed, hcall, hmodel, hplaced⟩ := h.placeNew true batch name _ hreported
      obtain ⟨agent, hstored, hname, hskipped⟩ := placeNew_of_holds space hworking hnamed batch
        (hholds (batch, name) List.mem_cons_self)
      rw [hreport, hcheck, hskipped] at hmodel
      obtain ⟨rfl, hsame⟩ := Prod.mk.inj hmodel
      rw [hsame] at hworking hnamed hholds hstored ⊢
      obtain ⟨final, found, after, hrest, hfinal, hfound, hafter⟩ :=
        ih (done + 1) (report.notePlacement (.skipped agent)) hplaced hworking hnamed
          fun item hitem => hholds item (List.mem_cons_of_mem _ hitem)
      refine ⟨final, agent :: found, after, ?_, ?_, .cons ⟨hstored, hname⟩ hfound, hafter⟩
      · rw [seedAgents]
        simp only [hanswer, Bool.false_eq_true, if_false, hcall]
        exact hrest
      · rw [hfinal, List.length_cons, Nat.add_comm rest.length, ← Nat.add_assoc, List.map_cons,
          List.append_cons]
        rfl

/-- What a run reports that finds an agent for every item of its plan. -/
structure FindsAll (store : Store) (plan : RosterPlan) (report : Report) : Prop where
  agentsCreated : report.agentsCreated = 0
  npcsSpawned : report.npcsSpawned = 0
  agentsSkipped : report.agentsSkipped = plan.items.length
  errors : report.errors = []
  agents : ∃ found, List.Forall₂ (Finds store) plan.items found ∧
    report.agents = found.map Agent.summary

theorem InMemory.seed_findsAll (h : env.InMemory space view) (hpermits : env.Permits view.works)
    {plan : RosterPlan} (hworks : view.works world) (hworking : (view.store world).Working)
    (hnamed : (view.store world).Named) (hvalid : plan.validate = .ok ())
    (hholds : ∀ item ∈ plan.items, (view.store world).Holds item.2) :
    ∃ report after, seed env plan false true world = (.ok report, after) ∧
      FindsAll (view.store world) plan report ∧
        (view.store after).agents = (view.store world).agents := by
  obtain ⟨guildReport, founded, hguilds, hreport⟩ := h.seedGuilds_completes hpermits
    plan.charters.length plan.charters 0 (Report.start .tieredRoster false) hworks
  obtain ⟨hfounds, -, hfounded⟩ := h.seedGuilds_founds hworks hguilds
  have hkept : ∀ item ∈ plan.items, (view.store founded).Holds item.2 := by
    unfold Store.Holds
    rw [hfounds.agents]
    exact hholds
  obtain ⟨final, found, after, hagents, hfinal, hfound, hafter⟩ :=
    h.seedAgents_skips hpermits plan.agentCount 0 guildReport hfounded
      (hfounds.working hworking) (hfounds.named hnamed) hkept
  have hfinds : List.Forall₂ (Finds (view.store world)) plan.items found := by
    unfold Finds at hfound ⊢
    rw [hfounds.agents] at hfound
    exact hfound
  refine ⟨final, after, ?_, ?_, ?_⟩
  · unfold seed
    simp only [hvalid, hguilds, hagents]
  · rw [hfinal, hreport]
    exact ⟨rfl, rfl, Nat.zero_add _, rfl, found, hfinds, List.nil_append _⟩
  · rw [hafter]
    exact hfounds.agents

/-- A second run of a plan finds everybody that the first one found or placed, and changes no agent
and not their order. The worlds of the two runs need only show the same store between them. -/
theorem InMemory.seed_again {ω₁ ω₂ : Type} {env₁ : Environment ω₁} {env₂ : Environment ω₂}
    {view₁ : StoreView ω₁} {view₂ : StoreView ω₂} (h₁ : env₁.InMemory space view₁)
    (h₂ : env₂.InMemory space view₂) (hpermits : env₂.Permits view₂.works) {plan : RosterPlan}
    {start between : ω₁} {first : Report} (hworks : view₁.works start)
    (hworking : (view₁.store start).Working) (hnamed : (view₁.store start).Named)
    (hinj : Set.InjOn instanceKey (namesOf plan.items))
    (hfirst : seed env₁ plan false true start = (.ok first, between)) {again : ω₂}
    (hagain : view₂.works again) (hsame : view₂.store again = view₁.store between) :
    ∃ report after, seed env₂ plan false true again = (.ok report, after) ∧
      FindsAll (view₁.store between) plan report ∧
        (view₂.store after).agents = (view₁.store between).agents := by
  obtain ⟨founded, hfounds, henrols, -⟩ := h₁.seed_enrols hworks hworking hnamed hfirst
  have hvalid : plan.validate = .ok () := validate_of_seed hfirst
  rw [← hsame] at henrols ⊢
  exact h₂.seed_findsAll hpermits hagain (henrols.working (hfounds.working hworking))
    (henrols.named (hfounds.named hnamed)) hvalid (henrols.holds hinj)

/-- The first bard is there before the first run; the second one is placed, but cannot join. -/
theorem InMemory.seed_again_duet :
    ∃ first between, seed Rehearsal.quiet .duet false true (Rehearsal.onStore .withBard) =
        (.ok first, between) ∧
      (first.agentsSkipped, first.agentsCreated, first.errors.length) = (1, 1, 1) ∧
      ∃ report after, seed Rehearsal.quiet .duet false true between = (.ok report, after) ∧
        FindsAll between.store .duet report ∧ after.store.agents = between.store.agents := by
  have hcounts : (seed Rehearsal.quiet .duet false true
      (Rehearsal.onStore .withBard)).1.toOption.map (fun report =>
        (report.agentsSkipped, report.agentsCreated, report.errors.length)) = some (1, 1, 1) := by
    decide +kernel
  obtain ⟨first, between, hfirst, hcount⟩ := exists_ok_of_map hcounts
  have hnamed : Store.withBard.Named := (Store.wellKeyed_empty Store.defaultSpace).toNamed.save _
  have hworking : Store.withBard.Working := Store.working_empty.save _
  have hinj : Set.InjOn instanceKey (namesOf RosterPlan.duet.items) :=
    (injOn_namesOf_iff _).mpr (by decide +kernel)
  have hworks := Rehearsal.works_lasting_onStore .withBard
  have hbetween : Rehearsal.lasting.works between :=
    (Rehearsal.inMemory_lasting.seed_enrols hworks hworking hnamed hfirst).choose_spec.2.2
  exact ⟨first, between, hfirst, hcount, Rehearsal.inMemory_lasting.seed_again
    Rehearsal.inMemory_lasting Rehearsal.permits_quiet hworks hworking hnamed hinj hfirst hbetween
    rfl⟩

end Environment

end QuestAcademy
