import QuestAcademy.Proofs.RosterAccounting

namespace QuestAcademy

variable {ω : Type}

def AgentSummary.unaffiliated (summary : AgentSummary) : AgentSummary :=
  { summary with guilds := [] }

namespace RosterPlan

/-- No two agents of the plan have the same key. -/
def Distinct (plan : RosterPlan) : Prop :=
  (plan.items.map fun item => instanceKey item.2).Nodup

/-- The plan founds every guild that its agents join. -/
def Declares (plan : RosterPlan) : Prop :=
  ∀ batch ∈ plan.batches, ∀ guildId ∈ batch.guildId, ∃ charter ∈ plan.charters,
    charter.id = guildId

def troupe : RosterPlan :=
  let batch : AgentBatch :=
    { pattern := "player-{n}", count := 4, level := 6, skills := ["song"], modelSettings := none,
      isNpc := false, guildId := some "stage", firstOrdinal := 3 }
  let charter (id : String) : GuildCharter :=
    { id, name := id, description := "", culture := "", minLevel := 2 }
  { name := "troupe"
    description := ""
    batches := [batch, { batch with
      pattern := "officer {n}", count := 1, isNpc := true, guildId := none }]
    charters := [charter "stage", charter "watch"] }

end RosterPlan

namespace Roster

/-- A loop in which work may always go on and every trial comes to what was expected of its item
comes to its end. What holds of the items that are left and the world may help to foresee the next
trial. -/
theorem Tries.as_expected {α β : Type} {env : Environment ω}
    {announce : α → Nat → ProgressEvent} {act : α → ω → β × ω} {expected : α → β}
    (Inv : List α → ω → Prop)
    (hstep : ∀ item rest number world, Inv (item :: rest) world →
      ∃ checked after, env.check world = (.ok (), checked) ∧
        act item (env.report (announce item number) checked) = (expected item, after) ∧
          Inv rest after)
    {number : Nat} {items : List α} {world last : ω} {log : List (Trial α β ω)}
    {result : Except Halt Unit}
    (h : Tries env announce act number items world log result last) (hinv : Inv items world) :
    result = .ok () ∧ log.map Trial.upshot = items.map expected ∧ Inv [] last := by
  induction h with
  | done => exact ⟨rfl, rfl, hinv⟩
  | @halted number item rest world after halt hcheck =>
      obtain ⟨checked, _, hleave, -⟩ := hstep item rest number world hinv
      cases hcheck.symm.trans hleave
  | @next number item rest world checked after last upshot log result hcheck hact hrest ih =>
      obtain ⟨_, _, hleave, hupshot, hnext⟩ := hstep item rest (number + 1) world hinv
      cases hcheck.symm.trans hleave
      cases hact.symm.trans hupshot
      obtain ⟨hdone, hupshots, hlast⟩ := ih hnext
      exact ⟨hdone, congrArg (List.cons _) hupshots, hlast⟩

/-- The report of a run in which every guild is founded and everybody placed, as these agents. -/
def fullReport (dryRun : Bool) (plan : RosterPlan) (agentOf : AgentBatch × String → Agent) :
    Report :=
  { Report.start .tieredRoster dryRun with
    guildsCreated := plan.charters.length
    agentsCreated := plan.items.length
    npcsSpawned := plan.items.countP fun item => (agentOf item).isNpc
    agents := plan.items.map fun item => (agentOf item).summary }

theorem Log.notedIn_full {plan : RosterPlan} {dryRun : Bool}
    {agentOf : AgentBatch × String → Agent} {log : Log ω}
    (hguilds : log.guilds.map Trial.upshot = plan.charters.map fun _ => .founded)
    (hagents : log.agents.map Trial.upshot =
      plan.items.map fun item => .placed (agentOf item) []) :
    log.notedIn (.start .tieredRoster dryRun) = fullReport dryRun plan agentOf := by
  rw [notedIn, hguilds, hagents, Report.foldl_noteFounding, Report.foldl_notePlacement]
  simp [fullReport, Report.start, List.countP_map, List.flatMap_map, List.filterMap_map,
    Function.comp_def, List.countP_replicate, Founding.isFounded, Founding.messages,
    Placement.isPlaced, Placement.isSkipped, Placement.isNpc, Placement.messages,
    Placement.agent?]

theorem seed_of_expected {env : Environment ω} {plan : RosterPlan} {dryRun idempotent : Bool}
    {agentOf : AgentBatch × String → Agent} {world : ω} (Founded : ω → Prop)
    (hvalid : plan.validate = .ok ())
    (hguilds : ∀ {log result last},
      TriesGuilds env dryRun plan.charters.length 0 plan.charters world log result last →
        result = .ok () ∧ log.map Trial.upshot = plan.charters.map (fun _ => .founded) ∧
          Founded last)
    (hagents : ∀ {founded log result last}, Founded founded →
      TriesAgents env dryRun idempotent plan.agentCount 0 plan.items founded log result last →
        result = .ok () ∧
          log.map Trial.upshot = plan.items.map fun item => .placed (agentOf item) []) :
    (seed env plan dryRun idempotent world).1 = .ok (fullReport dryRun plan agentOf) := by
  obtain ⟨log, result, after, htried, hseed⟩ := tried_seed env plan dryRun idempotent hvalid world
  cases htried with
  | halted htries => cases (hguilds htries).1
  | chartered htries hplaces =>
      obtain ⟨-, hcharters, hfounded⟩ := hguilds htries
      obtain ⟨rfl, hitems⟩ := hagents hfounded hplaces
      rw [hseed, Log.notedIn_full hcharters hitems]

section Placing

variable {space : String} {store : Store} {batch : AgentBatch} {name : String}

theorem place_of_declared (space name : String) (hworking : store.Working)
    (hguild : ∀ guildId ∈ batch.guildId, (store.guild? guildId).isSome = true) :
    (place (Store.access space) batch name store).1 =
      .placed (applicant (Store.access space) batch name) [] := by
  have hname : (applicant (Store.access space) batch name).name = name := by
    rw [applicant_eq]
    rfl
  cases hbatch : batch.guildId with
  | none =>
      rw [place_of_alone hbatch, Store.putAgent_of_working space hworking _ name hname]
  | some guildId =>
      obtain ⟨guild, hfound⟩ := Option.isSome_iff_exists.mp (hguild guildId hbatch)
      rw [place_of_joining hbatch, Store.putAgent_of_working space hworking _ name hname]
      simp only
      rw [Store.updateGuild_of_some space ((store.guild?_save _ guildId).trans hfound)]

theorem guilds_applicant (access : StoreAccess ω) (batch : AgentBatch) (name : String) :
    (applicant access batch name).guilds = batch.guildId.toList := by
  unfold applicant
  cases batch.guildId with
  | none => rfl
  | some guildId =>
      change Names.insert guildId [] = [guildId]
      simp [Names.insert]

/-- The names that are left are free, and the guilds that their agents join are there. -/
structure Open (items : List (AgentBatch × String)) (store : Store) : Prop where
  working : store.Working
  named : store.Named
  distinct : (items.map fun item => instanceKey item.2).Nodup
  free : ∀ item ∈ items, store.agents.find? (instanceKey item.2) = none
  guild : ∀ item ∈ items, ∀ guildId ∈ item.1.guildId, (store.guild? guildId).isSome = true

theorem Open.placeNew {rest : List (AgentBatch × String)}
    (h : Open ((batch, name) :: rest) store) (space : String) (idempotent : Bool) :
    ∃ after, placeNew (Store.access space) idempotent batch name store =
      (.placed (applicant (Store.access space) batch name) [], after) ∧ Open rest after := by
  have hfree := h.free (batch, name) List.mem_cons_self
  have hplace : Roster.placeNew (Store.access space) idempotent batch name store =
      place (Store.access space) batch name store := by
    cases idempotent with
    | false => rfl
    | true =>
        refine placeNew_of_not_holds space h.working h.named batch ?_
        rintro ⟨agent, hagent, -⟩
        cases hfree.symm.trans hagent
  have hplaced := place_of_declared space name h.working
    (h.guild (batch, name) List.mem_cons_self)
  obtain ⟨errors, after, heq, hplaces⟩ := place_places space h.working h.named batch name
  obtain ⟨hnot, hdistinct⟩ := List.nodup_cons.mp h.distinct
  rw [heq] at hplaced
  rw [hplace, heq]
  refine ⟨after, Prod.ext hplaced rfl, hplaces.working, hplaces.named, hdistinct, ?_, ?_⟩
  · intro item hitem
    have hkey : instanceKey item.2 ≠ instanceKey name :=
      fun hsame => hnot (List.mem_map.mpr ⟨item, hitem, hsame⟩)
    rw [hplaces.agent, if_neg hkey]
    exact h.free item (List.mem_cons_of_mem _ hitem)
  · intro item hitem guildId hguildId
    exact hplaces.isSome_guild? (h.guild item (List.mem_cons_of_mem _ hitem) guildId hguildId)

theorem Founds.open_items {plan : RosterPlan} {before after : Store}
    (h : Founds plan.charters before after) (hworking : before.Working)
    (hempty : before.agents = .empty) (hdistinct : plan.Distinct) (hdeclares : plan.Declares) :
    Open plan.items after := by
  have hnamed : before.Named := by
    refine ⟨?_, ?_⟩ <;> rw [hempty]
    · exact AgentTable.sound_empty
    · intro key agent hagent
      cases hagent
  refine ⟨h.working hworking, h.named hnamed, hdistinct, ?_, ?_⟩
  · intro item _
    rw [h.agents, hempty]
    rfl
  · intro item hitem guildId hguildId
    obtain ⟨batch, hbatch, name, -, rfl⟩ := by
      simpa only [RosterPlan.items, List.mem_flatMap, List.mem_map] using hitem
    obtain ⟨charter, hcharter, rfl⟩ := hdeclares batch hbatch guildId hguildId
    obtain ⟨guild, hguild, -⟩ := h.chartered charter hcharter
    rw [hguild]
    rfl

end Placing

/-- The same counts and the same agents in the same order; the forecast tells no guilds of an agent,
the report the guild of its batch. -/
structure Forecasts (plan : RosterPlan) (forecast report : Report) : Prop where
  guildsCreated : forecast.guildsCreated = report.guildsCreated
  agentsCreated : forecast.agentsCreated = report.agentsCreated
  agentsSkipped : forecast.agentsSkipped = report.agentsSkipped
  npcsSpawned : forecast.npcsSpawned = report.npcsSpawned
  flawless : forecast.errors = [] ∧ report.errors = []
  agents : forecast.agents = report.agents.map AgentSummary.unaffiliated
  guilds : report.agents.map AgentSummary.guilds = plan.items.map fun item => item.1.guildId.toList

theorem forecasts_fullReport (plan : RosterPlan) (access : StoreAccess ω) :
    Forecasts plan
      (fullReport true plan fun item => item.1.build (access.agentId (instanceKey item.2)) item.2)
      (fullReport false plan fun item => applicant access item.1 item.2) where
  guildsCreated := rfl
  agentsCreated := rfl
  agentsSkipped := rfl
  npcsSpawned := by
    refine List.countP_congr fun item _ => ?_
    have hnpc : (applicant access item.1 item.2).isNpc = item.1.isNpc := by
      rw [applicant_eq]
      rfl
    simp only [hnpc]
    exact Iff.rfl
  flawless := ⟨rfl, rfl⟩
  agents := by
    rw [fullReport, fullReport, List.map_map]
    refine List.map_congr_left fun item _ => ?_
    rw [Function.comp_apply, applicant_eq]
    rfl
  guilds := by
    rw [fullReport, List.map_map]
    exact List.map_congr_left fun item _ => guilds_applicant access item.1 item.2

end Roster

namespace Environment

open Roster

variable {env : Environment ω} {space : String} {view : StoreView ω} {plan : RosterPlan}
  {world last : ω} {result : Except Halt Unit}

theorem InMemory.triesGuilds_dry (h : env.InMemory space view) (hpermits : env.Permits view.works)
    {total : Nat} {charters : List GuildCharter} {log : List (Trial GuildCharter Founding ω)}
    (hworks : view.works world)
    (htries : TriesGuilds env true total 0 charters world log result last) :
    result = .ok () ∧ log.map Trial.upshot = charters.map (fun _ => .founded) ∧
      view.works last := by
  refine Tries.as_expected (fun _ world => view.works world) ?_ htries hworks
  intro charter rest number world hworks
  obtain ⟨checked, hleave⟩ := hpermits.check hworks
  have hchecked := (h.check world hworks).2
  rw [hleave] at hchecked
  exact ⟨checked, _, hleave, rfl, (h.report _ checked hchecked).2⟩

theorem InMemory.triesAgents_dry (h : env.InMemory space view) (hpermits : env.Permits view.works)
    {total : Nat} {items : List (AgentBatch × String)} {idempotent : Bool}
    {log : List (Trial (AgentBatch × String) Placement ω)} (hworks : view.works world)
    (htries : TriesAgents env true idempotent total 0 items world log result last) :
    result = .ok () ∧ log.map Trial.upshot = items.map fun item =>
      .placed (item.1.build ((Store.access space).agentId (instanceKey item.2)) item.2) [] := by
  have hid : (Store.access space).agentId = env.store.agentId :=
    funext fun key => (h.agentId key).symm
  rw [hid]
  refine (Tries.as_expected (fun _ world => view.works world) ?_ htries hworks).imp_right
    And.left
  intro item rest number world hworks
  obtain ⟨checked, hleave⟩ := hpermits.check hworks
  have hchecked := (h.check world hworks).2
  rw [hleave] at hchecked
  exact ⟨checked, _, hleave, rfl, (h.report _ checked hchecked).2⟩

/-- The charters that are left found what is missing. -/
theorem InMemory.triesGuilds_founds (h : env.InMemory space view)
    (hpermits : env.Permits view.works) {total : Nat} {charters : List GuildCharter}
    {log : List (Trial GuildCharter Founding ω)} (hworks : view.works world)
    (htries : TriesGuilds env false total 0 charters world log result last) :
    result = .ok () ∧ log.map Trial.upshot = charters.map (fun _ => .founded) ∧
      view.works last ∧ Founds charters (view.store world) (view.store last) := by
  refine (Tries.as_expected
    (fun rest now => view.works now ∧ ∀ after, Founds rest (view.store now) after →
      Founds charters (view.store world) after)
    ?_ htries ⟨hworks, fun _ hfounds => hfounds⟩).imp_right fun hlog =>
      ⟨hlog.1, hlog.2.1, hlog.2.2 _ (.nil _)⟩
  rintro charter rest number now ⟨hworks, hfounds⟩
  obtain ⟨checked, hleave⟩ := hpermits.check hworks
  obtain ⟨hcheck, hchecked⟩ := h.check now hworks
  rw [hleave] at hcheck hchecked
  obtain ⟨hreport, hreported⟩ := h.report (foundingEvent charter number total) checked hchecked
  obtain ⟨founding, founded, hcall, hmodel, hfounded⟩ := h.found charter _ hreported
  rw [found_access, hreport, hcheck] at hmodel
  obtain ⟨rfl, hstore⟩ := Prod.mk.inj hmodel
  refine ⟨checked, founded, hleave, hcall, hfounded, ?_⟩
  rw [← hstore]
  exact fun after hrest => hfounds after hrest.cons

theorem InMemory.triesAgents_places (h : env.InMemory space view)
    (hpermits : env.Permits view.works) {total : Nat} {items : List (AgentBatch × String)}
    {idempotent : Bool} {log : List (Trial (AgentBatch × String) Placement ω)}
    (hworks : view.works world) (hopen : Open items (view.store world))
    (htries : TriesAgents env false idempotent total 0 items world log result last) :
    result = .ok () ∧ log.map Trial.upshot = items.map fun item =>
      .placed (applicant (Store.access space) item.1 item.2) [] := by
  refine (Tries.as_expected (fun rest now => view.works now ∧ Open rest (view.store now))
    ?_ htries ⟨hworks, hopen⟩).imp_right And.left
  rintro ⟨batch, name⟩ rest number now ⟨hworks, hopen⟩
  obtain ⟨checked, hleave⟩ := hpermits.check hworks
  obtain ⟨hcheck, hchecked⟩ := h.check now hworks
  rw [hleave] at hcheck hchecked
  obtain ⟨hreport, hreported⟩ := h.report (placingEvent name number total) checked hchecked
  obtain ⟨placement, placed, hcall, hmodel, hplaced⟩ :=
    h.placeNew idempotent batch name _ hreported
  obtain ⟨after, hplace, hnext⟩ := hopen.placeNew space idempotent
  rw [hreport, hcheck, hplace] at hmodel
  obtain ⟨rfl, rfl⟩ := Prod.mk.inj hmodel
  exact ⟨checked, placed, hleave, hcall, hplaced, hnext⟩

/-- Over a store without agents, in which no call fails and work may go on, the dry run of a plan
forecasts its run up to the guilds of the agents. -/
theorem InMemory.seed_forecasts (h : env.InMemory space view) (hpermits : env.Permits view.works)
    (hvalid : plan.validate = .ok ()) (hdistinct : plan.Distinct) (hdeclares : plan.Declares)
    (hworks : view.works world) (hworking : (view.store world).Working)
    (hempty : (view.store world).agents = .empty) (idempotent : Bool) :
    ∃ forecast report, (seed env plan true idempotent world).1 = .ok forecast ∧
      (seed env plan false idempotent world).1 = .ok report ∧
        Forecasts plan forecast report := by
  refine ⟨_, _, seed_of_expected view.works hvalid (h.triesGuilds_dry hpermits hworks)
    (h.triesAgents_dry hpermits), seed_of_expected (fun founded => view.works founded ∧
      Founds plan.charters (view.store world) (view.store founded)) hvalid
    (h.triesGuilds_founds hpermits hworks) ?_, forecasts_fullReport plan (Store.access space)⟩
  rintro founded log result last ⟨hfounded, hfounds⟩ htries
  exact h.triesAgents_places hpermits hfounded
    (hfounds.open_items hworking hempty hdistinct hdeclares) htries

theorem InMemory.seed_forecasts_troupe :
    (RosterPlan.troupe.validate = .ok () ∧ RosterPlan.troupe.Distinct ∧
        RosterPlan.troupe.Declares) ∧
      ∃ forecast report,
        (seed Rehearsal.quiet .troupe true true (Rehearsal.onStore .empty)).1 = .ok forecast ∧
        (seed Rehearsal.quiet .troupe false true (Rehearsal.onStore .empty)).1 = .ok report ∧
          Forecasts .troupe forecast report ∧
          (forecast.guildsCreated, forecast.agentsCreated, forecast.npcsSpawned) = (2, 5, 1) := by
  have hdistinct : RosterPlan.troupe.Distinct := by
    unfold RosterPlan.Distinct
    decide +kernel
  have hdeclares : RosterPlan.troupe.Declares := by
    unfold RosterPlan.Declares
    decide +kernel
  have hcounts : (seed Rehearsal.quiet .troupe true true
      (Rehearsal.onStore .empty)).1.toOption.map (fun forecast =>
        (forecast.guildsCreated, forecast.agentsCreated, forecast.npcsSpawned)) =
          some (2, 5, 1) := by decide +kernel
  obtain ⟨_, _, hseed, -⟩ := exists_ok_of_map hcounts
  have hvalid := validate_of_seed hseed
  obtain ⟨forecast, report, hforecast, hreport, hforecasts⟩ :=
    Rehearsal.inMemory_lasting.seed_forecasts Rehearsal.permits_quiet hvalid hdistinct hdeclares
      (Rehearsal.works_lasting_onStore .empty) Store.working_empty rfl true
  rw [hforecast] at hcounts
  exact ⟨⟨hvalid, hdistinct, hdeclares⟩, forecast, report, hforecast, hreport, hforecasts,
    Option.some.inj hcounts⟩

/-- The forecast of a bard who is to join a choir shows no guild, and so it does not list the same
summary as the run. -/
theorem seed_solo_unforeseen :
    let plan := RosterPlan.solo "bard-{n}" (some "choir")
    let world := Rehearsal.onStore .empty
    (plan.validate.isOk = true ∧ plan.Distinct ∧ plan.Declares) ∧
      ((seed Rehearsal.quiet plan true true world).1.toOption.map fun report =>
        report.agents.map AgentSummary.guilds) = some [[]] ∧
      ((seed Rehearsal.quiet plan false true world).1.toOption.map fun report =>
        report.agents.map AgentSummary.guilds) = some [["choir"]] ∧
      (seed Rehearsal.quiet plan true true world).1.toOption.map Report.agents ≠
        (seed Rehearsal.quiet plan false true world).1.toOption.map Report.agents := by
  unfold RosterPlan.Distinct RosterPlan.Declares
  decide +kernel

end Environment

end QuestAcademy
