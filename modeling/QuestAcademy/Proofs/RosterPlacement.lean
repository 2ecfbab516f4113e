import QuestAcademy.Proofs.StoreMirror

namespace QuestAcademy

namespace Store

def Holds (store : Store) (name : String) : Prop :=
  ∃ agent, store.agents.find? (instanceKey name) = some agent ∧ agent.name = name

def guild? (store : Store) (id : String) : Option Guild :=
  Keyed.find? id store.guilds

theorem putAgent_of_working (space : String) {store : Store} (h : store.Working) (agent : Agent)
    (name : String) (hname : agent.name = name) :
    (access space).putAgent (instanceKey name) agent store = (.ok (), store.save agent) := by
  simp only [access, putAgent, save, hname, h.writes, Bool.false_eq_true, if_false]

theorem updateGuild_of_some (space : String) {store : Store} {id : String} {guild : Guild}
    (h : store.guild? id = some guild) (change : Guild → Guild) :
    (access space).updateGuild id change store =
      (.ok (), { store with guilds := Keyed.insert id (change guild) store.guilds }) := by
  rw [guild?] at h
  simp only [access, updateGuild, h]

theorem updateGuild_of_none (space : String) {store : Store} {id : String}
    (h : store.guild? id = none) (change : Guild → Guild) :
    (access space).updateGuild id change store = (.error (.noGuild id), store) := by
  rw [guild?] at h
  simp only [access, updateGuild, h]

theorem guild?_save (store : Store) (agent : Agent) (id : String) :
    (store.save agent).guild? id = store.guild? id := by
  rw [guild?, guilds_save, guild?]

theorem size_save {store : Store} (h : store.Working) (hnamed : store.Named) (agent : Agent) :
    (store.save agent).agents.size =
      if (store.agents.find? (instanceKey agent.name)).isSome then store.agents.size
      else store.agents.size + 1 := by
  simp only [save, h.writes, Bool.false_eq_true, if_false]
  exact AgentTable.size_put hnamed.sound (instanceKey agent.name) agent

end Store

def RosterPlan.solo (pattern : String) (guildId : Option String) : RosterPlan :=
  { name := "solo"
    description := ""
    batches := [{
      pattern
      count := 1
      level := Level.lowest
      skills := []
      modelSettings := none
      isNpc := false
      guildId
      firstOrdinal := 1 }]
    charters := guildId.toList.map fun id =>
      { id, name := "Soloists", description := "", culture := "", minLevel := Level.lowest } }

namespace Roster

variable {space : String}

/-- What founding guilds does to a store: each charter makes an empty guild, whatever was there. -/
structure Founds (charters : List GuildCharter) (before after : Store) : Prop where
  agents : after.agents = before.agents
  working : before.Working → after.Working
  chartered : ∀ charter ∈ charters, ∃ guild, after.guild? charter.id = some guild ∧
    guild.members = []
  others : ∀ id, (∀ charter ∈ charters, charter.id ≠ id) → after.guild? id = before.guild? id

theorem Founds.nil (store : Store) : Founds [] store store := by
  refine ⟨rfl, id, ?_, fun _ _ => rfl⟩
  intro charter hcharter
  cases hcharter

theorem Founds.cons {charter : GuildCharter} {rest : List GuildCharter} {before after : Store}
    (h : Founds rest (Store.putGuild charter.id charter.toGuild before).2 after) :
    Founds (charter :: rest) before after := by
  have hput : ∀ id, (Store.putGuild charter.id charter.toGuild before).2.guild? id =
      if id = charter.id then some charter.toGuild else before.guild? id :=
    fun id => Keyed.find?_insert charter.id id charter.toGuild before.guilds
  refine ⟨h.agents, fun hworking => h.working ⟨hworking.reads, hworking.writes⟩, ?_, ?_⟩
  · intro other hother
    by_cases hlater : ∃ later ∈ rest, later.id = other.id
    · obtain ⟨later, hlater, hid⟩ := hlater
      rw [← hid]
      exact h.chartered later hlater
    · rcases List.mem_cons.mp hother with rfl | hrest
      · have hlast := h.others other.id fun later hrest hid => hlater ⟨later, hrest, hid⟩
        rw [hput, if_pos rfl] at hlast
        exact ⟨other.toGuild, hlast, rfl⟩
      · exact absurd ⟨other, hrest, rfl⟩ hlater
  · intro id hid
    have hfirst : id ≠ charter.id := (hid charter List.mem_cons_self).symm
    rw [h.others id fun later hlater => hid later (List.mem_cons_of_mem charter hlater), hput,
      if_neg hfirst]

theorem Founds.named {charters : List GuildCharter} {before after : Store}
    (h : Founds charters before after) (hnamed : before.Named) : after.Named := by
  constructor
  · rw [h.agents]
    exact hnamed.sound
  · rw [h.agents]
    exact hnamed.key

theorem Founds.wellKeyed {charters : List GuildCharter} {before after : Store}
    (h : Founds charters before after) (hkeyed : before.WellKeyed space) :
    after.WellKeyed space := by
  refine ⟨h.named hkeyed.toNamed, ?_⟩
  rw [h.agents]
  exact hkeyed.id

/-- The agent that is placed under a name. It is in the guild of its batch if this guild is stored.
-/
def newcomer (space : String) (store : Store) (batch : AgentBatch) (name : String) : Agent :=
  { batch.build (entityId space (instanceKey name)) name with
    guilds := (batch.guildId.filter fun id => (store.guild? id).isSome).toList }

/-- What placing an agent does to a store. -/
structure Places (space : String) (batch : AgentBatch) (name : String) (before after : Store) :
    Prop where
  working : after.Working
  named : after.Named
  agent : ∀ key, after.agents.find? key =
    if key = instanceKey name then some (newcomer space before batch name)
    else before.agents.find? key
  size : after.agents.size =
    if (before.agents.find? (instanceKey name)).isSome then before.agents.size
    else before.agents.size + 1
  guild : ∀ id, after.guild? id = (before.guild? id).map fun guild =>
    if id ∈ (newcomer space before batch name).guilds then
      guild.addMember (entityId space (instanceKey name))
    else guild

/-- What going through items does to a store, with the number of the agents that are placed. -/
inductive Enrols (space : String) : List (AgentBatch × String) → Store → Nat → Store → Prop
  | done {store : Store} : Enrols space [] store 0 store
  | skipped {batch : AgentBatch} {name : String} {rest : List (AgentBatch × String)}
      {store after : Store} {created : Nat} (hholds : store.Holds name)
      (hrest : Enrols space rest store created after) :
      Enrols space ((batch, name) :: rest) store created after
  | placed {batch : AgentBatch} {name : String} {rest : List (AgentBatch × String)}
      {store next after : Store} {created : Nat} (hnew : ¬ store.Holds name)
      (hplaces : Places space batch name store next)
      (hrest : Enrols space rest next created after) :
      Enrols space ((batch, name) :: rest) store (created + 1) after

/-- The agent lies under the key, and items with this key have its name. -/
structure Spares (store : Store) (items : List (AgentBatch × String)) (key : String)
    (agent : Agent) : Prop where
  stored : store.agents.find? key = some agent
  clear : ∀ item ∈ items, instanceKey item.2 = key → item.2 = agent.name

section Sparing

variable {store next : Store} {batch : AgentBatch} {name key : String}
  {rest : List (AgentBatch × String)} {agent : Agent}

theorem spares_cons_iff :
    Spares store ((batch, name) :: rest) key agent ↔
      (instanceKey name = key → name = agent.name) ∧ Spares store rest key agent := by
  constructor
  · intro h
    exact ⟨h.clear (batch, name) List.mem_cons_self,
      h.stored, fun item hitem => h.clear item (List.mem_cons_of_mem _ hitem)⟩
  · rintro ⟨hfirst, hrest⟩
    refine ⟨hrest.stored, ?_⟩
    intro item hitem
    rcases List.mem_cons.mp hitem with rfl | hlater
    · exact hfirst
    · exact hrest.clear item hlater

theorem Places.spares (h : Places space batch name store next) (hnew : ¬ store.Holds name)
    (hspares : Spares store ((batch, name) :: rest) key agent) :
    key ≠ instanceKey name ∧ Spares next rest key agent := by
  obtain ⟨hfirst, hrest⟩ := spares_cons_iff.mp hspares
  have hkey : key ≠ instanceKey name := by
    rintro rfl
    exact hnew ⟨agent, hrest.stored, (hfirst rfl).symm⟩
  refine ⟨hkey, ?_, hrest.clear⟩
  rw [h.agent, if_neg hkey]
  exact hrest.stored

theorem Enrols.find?_of_spares {items : List (AgentBatch × String)} {before after : Store}
    {created : Nat} (h : Enrols space items before created after)
    (hspares : Spares before items key agent) :
    after.agents.find? key = some agent := by
  induction h with
  | done => exact hspares.stored
  | skipped hholds hrest ih => exact ih (spares_cons_iff.mp hspares).2
  | placed hnew hplaces hrest ih => exact ih (hplaces.spares hnew hspares).2

end Sparing

theorem found_access (charter : GuildCharter) (store : Store) :
    found (Store.access space) charter store =
      (.founded, (Store.putGuild charter.id charter.toGuild store).2) := rfl

section Placing

variable {store : Store}

theorem places_save (hworking : store.Working) (hnamed : store.Named) (batch : AgentBatch)
    (name : String) (hguilds : (newcomer space store batch name).guilds = []) :
    Places space batch name store (store.save (newcomer space store batch name)) where
  working := hworking.save _
  named := hnamed.save _
  agent := Store.find?_save hworking _
  size := Store.size_save hworking hnamed _
  guild := by
    intro id
    rw [Store.guild?_save, hguilds]
    simp

theorem places_save_save (hworking : store.Working) (hnamed : store.Named) (batch : AgentBatch)
    (name : String) (hguilds : (newcomer space store batch name).guilds = []) (member : Agent)
    (hmember : member.name = name) :
    Places space batch name store
      ((store.save member).save (newcomer space store batch name)) where
  working := (hworking.save _).save _
  named := (hnamed.save _).save _
  agent := by
    intro key
    have hname : instanceKey (newcomer space store batch name).name = instanceKey name := rfl
    rw [Store.find?_save (hworking.save member), Store.find?_save hworking, hmember, hname]
    by_cases hkey : key = instanceKey name <;> simp [hkey]
  size := by
    have hname : instanceKey (newcomer space store batch name).name = instanceKey name := rfl
    rw [Store.size_save (hworking.save member) (hnamed.save member), hname,
      Store.find?_save hworking, hmember, if_pos rfl, Option.isSome_some, if_pos rfl,
      Store.size_save hworking hnamed, hmember]
  guild := by
    intro id
    rw [Store.guild?_save, Store.guild?_save, hguilds]
    simp

theorem places_join (hworking : store.Working) (hnamed : store.Named) (batch : AgentBatch)
    (name : String) {guildId : String} {guild : Guild}
    (hguild : store.guild? guildId = some guild)
    (hguilds : (newcomer space store batch name).guilds = [guildId]) :
    Places space batch name store
      { store.save (newcomer space store batch name) with
        guilds := Keyed.insert guildId (guild.addMember (entityId space (instanceKey name)))
          store.guilds } where
  working := ⟨(hworking.save _).reads, (hworking.save _).writes⟩
  named := ⟨(hnamed.save _).sound, (hnamed.save _).key⟩
  agent := Store.find?_save hworking _
  size := Store.size_save hworking hnamed _
  guild := by
    intro id
    rw [Store.guild?, Keyed.find?_insert, hguilds]
    by_cases hid : id = guildId
    · simp [hid, hguild]
    · simp [hid, Store.guild?]

theorem place_places (space : String) (hworking : store.Working) (hnamed : store.Named)
    (batch : AgentBatch) (name : String) :
    ∃ errors after, place (Store.access space) batch name store =
      (.placed (newcomer space store batch name) errors, after) ∧
        Places space batch name store after := by
  have hid : (Store.access space).agentId (instanceKey name) =
    entityId space (instanceKey name) := rfl
  simp only [place, hid]
  cases hbatch : batch.guildId with
  | none =>
      have hagent : newcomer space store batch name =
          batch.build (entityId space (instanceKey name)) name := by
        simp only [newcomer, hbatch]
        rfl
      have hplaces := places_save hworking hnamed batch name (by rw [hagent]; rfl)
      rw [hagent] at hplaces ⊢
      simp only
      rw [Store.putAgent_of_working space hworking _ name rfl]
      exact ⟨[], _, rfl, hplaces⟩
  | some guildId =>
      simp only
      rw [Store.putAgent_of_working space hworking _ name rfl]
      cases hguild : store.guild? guildId with
      | some guild =>
          have hagent : newcomer space store batch name =
              { batch.build (entityId space (instanceKey name)) name with
                guilds := Names.insert guildId [] } := by
            simp [newcomer, hbatch, hguild, Names.insert]
          have hplaces := places_join hworking hnamed batch name hguild (by rw [hagent]; rfl)
          have hsaved := fun agent => (store.guild?_save agent guildId).trans hguild
          rw [hagent] at hplaces ⊢
          simp only
          rw [Store.updateGuild_of_some space (hsaved _), Store.guilds_save]
          exact ⟨[], _, rfl, hplaces⟩
      | none =>
          have hagent : newcomer space store batch name =
              { batch.build (entityId space (instanceKey name)) name with
                guilds := Names.erase guildId (Names.insert guildId []) } := by
            simp [newcomer, hbatch, hguild, Names.insert, Names.erase]
          have hplaces := places_save_save hworking hnamed batch name
            (by rw [hagent]; simp [Names.insert, Names.erase])
            { batch.build (entityId space (instanceKey name)) name with
              guilds := Names.insert guildId [] } rfl
          have hsaved := fun agent => (store.guild?_save agent guildId).trans hguild
          rw [hagent] at hplaces ⊢
          simp only
          rw [Store.updateGuild_of_none space (hsaved _)]
          simp only
          rw [Store.putAgent_of_working space (hworking.save _) _ name rfl]
          exact ⟨_, _, rfl, hplaces⟩

theorem placeNew_of_holds (space : String) (hworking : store.Working) (hnamed : store.Named)
    (batch : AgentBatch) {name : String} (hholds : store.Holds name) :
    ∃ agent, store.agents.find? (instanceKey name) = some agent ∧ agent.name = name ∧
      placeNew (Store.access space) true batch name store = (.skipped agent, store) := by
  obtain ⟨agent, hagent, hname⟩ := hholds
  refine ⟨agent, hagent, hname, ?_⟩
  have hfiltered : (store.agents.find? (instanceKey name)).filter
      (fun agent => agent.name = name) = some agent := by
    rw [hagent]
    exact Option.filter_some_pos (by simpa using hname)
  simp only [placeNew, if_true, Store.findByName_access hnamed hworking.reads, hfiltered]

theorem placeNew_of_not_holds (space : String) (hworking : store.Working) (hnamed : store.Named)
    (batch : AgentBatch) {name : String} (hnew : ¬ store.Holds name) :
    placeNew (Store.access space) true batch name store =
      place (Store.access space) batch name store := by
  have hfiltered : (store.agents.find? (instanceKey name)).filter
      (fun agent => agent.name = name) = none := by
    rw [Option.filter_eq_none_iff]
    intro agent hagent hname
    exact hnew ⟨agent, hagent, by simpa using hname⟩
  simp only [placeNew, if_true, Store.findByName_access hnamed hworking.reads, hfiltered]

end Placing

end Roster

namespace Environment

open Roster

variable {ω : Type} {env : Environment ω} {space : String} {view : StoreView ω} {total : Nat}
  {world after : ω}

theorem InMemory.seedGuilds_founds (h : env.InMemory space view) {charters : List GuildCharter}
    {done : Nat} {report final : Report} (hworks : view.works world)
    (hseed : seedGuilds env false total done charters report world = (.ok (), final, after)) :
    Founds charters (view.store world) (view.store after) ∧
      final.agentsCreated = report.agentsCreated ∧ view.works after := by
  induction charters generalizing done report world with
  | nil =>
      cases hseed
      exact ⟨.nil _, rfl, hworks⟩
  | cons charter rest ih =>
      obtain ⟨hcheck, hchecked⟩ := h.check world hworks
      rw [seedGuilds] at hseed
      split at hseed
      · cases hseed
      · rename_i checked hanswer
        rw [hanswer] at hcheck hchecked
        obtain ⟨hreport, hreported⟩ := h.report
          (foundingEvent charter (done + 1) total) checked hchecked
        obtain ⟨founding, founded, hcall, hmodel, hfounded⟩ := h.found charter _ hreported
        simp only [Bool.false_eq_true, if_false, hcall] at hseed
        obtain ⟨hfounds, hcreated, hafter⟩ := ih hfounded hseed
        rw [found_access, hreport, hcheck] at hmodel
        obtain ⟨rfl, hstore⟩ := Prod.mk.inj hmodel
        rw [← hstore] at hfounds
        exact ⟨hfounds.cons, hcreated, hafter⟩

theorem InMemory.seedAgents_enrols (h : env.InMemory space view)
    {items : List (AgentBatch × String)} {done : Nat} {report final : Report}
    (hworks : view.works world) (hworking : (view.store world).Working)
    (hnamed : (view.store world).Named)
    (hseed : seedAgents env false true total done items report world = (.ok (), final, after)) :
    ∃ created, final.agentsCreated = report.agentsCreated + created ∧
      Enrols space items (view.store world) created (view.store after) ∧ view.works after := by
  induction items generalizing done report world with
  | nil =>
      cases hseed
      exact ⟨0, rfl, .done, hworks⟩
  | cons item rest ih =>
      obtain ⟨batch, name⟩ := item
      obtain ⟨hcheck, hchecked⟩ := h.check world hworks
      rw [seedAgents] at hseed
      split at hseed
      · cases hseed
      · rename_i checked hanswer
        rw [hanswer] at hcheck hchecked
        obtain ⟨hreport, hreported⟩ :=
          h.report (placingEvent name (done + 1) total) checked hchecked
        obtain ⟨placement, placed, hcall, hmodel, hplaced⟩ :=
          h.placeNew true batch name _ hreported
        simp only [Bool.false_eq_true, if_false, hcall] at hseed
        rw [hreport, hcheck] at hmodel
        by_cases hholds : (view.store world).Holds name
        · obtain ⟨agent, -, -, hskipped⟩ := placeNew_of_holds space hworking hnamed batch hholds
          obtain ⟨rfl, hstore⟩ := Prod.mk.inj (hskipped.symm.trans hmodel)
          rw [hstore] at hworking hnamed hholds ⊢
          obtain ⟨created, hcreated, henrols, hafter⟩ := ih hplaced hworking hnamed hseed
          exact ⟨created, hcreated, .skipped hholds henrols, hafter⟩
        · obtain ⟨errors, next, hplace, hplaces⟩ :=
            place_places space hworking hnamed batch name
          rw [placeNew_of_not_holds space hworking hnamed batch hholds, hplace] at hmodel
          obtain ⟨rfl, rfl⟩ := Prod.mk.inj hmodel
          obtain ⟨created, hcreated, henrols, hafter⟩ :=
            ih hplaced hplaces.working hplaces.named hseed
          refine ⟨created + 1, ?_, .placed hholds hplaces henrols, hafter⟩
          simp only [hcreated, Report.notePlacement]
          omega

/-- A completed run founds the guilds of its plan and then goes through its items. -/
theorem InMemory.seed_enrols (h : env.InMemory space view) {plan : RosterPlan} {report : Report}
    (hworks : view.works world) (hworking : (view.store world).Working)
    (hnamed : (view.store world).Named)
    (hseed : seed env plan false true world = (.ok report, after)) :
    ∃ founded, Founds plan.charters (view.store world) founded ∧
      Enrols space plan.items founded report.agentsCreated (view.store after) ∧
        view.works after := by
  unfold seed at hseed
  simp only at hseed
  split at hseed
  · cases hseed
  · split at hseed
    · cases hseed
    · rename_i guildReport founded hguilds
      obtain ⟨hfounds, hnone, hfounded⟩ := h.seedGuilds_founds hworks hguilds
      split at hseed
      · cases hseed
      · rename_i final agentsDone hagents
        cases hseed
        obtain ⟨created, hcreated, henrols, hafter⟩ := h.seedAgents_enrols hfounded
          (hfounds.working hworking) (hfounds.named hnamed) hagents
        refine ⟨view.store founded, hfounds, ?_, hafter⟩
        rw [hnone, Report.start, Nat.zero_add] at hcreated
        rw [hcreated]
        exact henrols

end Environment

end QuestAcademy
