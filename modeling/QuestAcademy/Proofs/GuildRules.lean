import QuestAcademy.Proofs.GuildMembership
import QuestAcademy.Proofs.InsertionOrder
import QuestAcademy.Proofs.RosterCourse

namespace QuestAcademy

theorem Level.clamp_of_isValid {level : Nat} (h : isValid level = true) : clamp level = level := by
  simp only [isValid, Bool.and_eq_true, decide_eq_true_eq] at h
  rw [clamp, Nat.min_eq_left h.2, Nat.max_eq_right h.1]

theorem AgentBatch.level_of_validate {batch : AgentBatch} (h : batch.validate = .ok ()) :
    Level.isValid batch.level = true := by
  unfold validate at h
  by_contra hlevel
  rw [Bool.not_eq_true] at hlevel
  simp only [hlevel, Bool.not_false, if_true] at h
  split at h
  · cases h
  · split at h
    · cases h
    · split at h <;> cases h

theorem GuildCharter.minLevel_of_validate {charter : GuildCharter} (h : charter.validate = .ok ()) :
    Level.isValid charter.minLevel = true := by
  unfold validate at h
  by_contra hlevel
  rw [Bool.not_eq_true] at hlevel
  simp only [hlevel, Bool.not_false, if_true] at h
  split at h <;> cases h

namespace RosterPlan

theorem validateAll_ok {α : Type} {check : α → Except PlanFault Unit} {items : List α}
    (h : validateAll check items = .ok ()) : ∀ item ∈ items, check item = .ok () := by
  induction items with
  | nil => simp
  | cons first rest ih =>
      rw [validateAll] at h
      split at h
      · cases h
      · rename_i hfirst
        exact List.forall_mem_cons.mpr ⟨hfirst, ih h⟩

theorem levels_of_validate {plan : RosterPlan} (h : plan.validate = .ok ()) :
    (∀ item ∈ plan.items, Level.isValid item.1.level = true) ∧
      ∀ charter ∈ plan.charters, Level.isValid charter.minLevel = true := by
  unfold validate at h
  split at h
  · cases h
  · split at h
    · cases h
    · rename_i hbatches
      constructor
      · intro item hitem
        obtain ⟨batch, hbatch, hname⟩ := List.mem_flatMap.mp hitem
        obtain ⟨name, -, rfl⟩ := List.mem_map.mp hname
        exact AgentBatch.level_of_validate (validateAll_ok hbatches batch hbatch)
      · intro charter hcharter
        exact GuildCharter.minLevel_of_validate (validateAll_ok h charter hcharter)

end RosterPlan

theorem Guild.addMember_of_eraseDups (guild : Guild) {ids : List String}
    (h : guild.members = ids.eraseDups) (id : String) :
    guild.addMember id = { guild with members := (ids ++ [id]).eraseDups } := by
  simp only [addMember, hasMember, Names.eraseDups_concat, List.contains_iff_mem, h,
    List.mem_eraseDups]
  split
  · rw [← h]
  · rfl

/-- Something that a run wrote. -/
inductive ChronicleEntry
  | founded (charter : GuildCharter)
  | placed (batch : AgentBatch) (name : String)

/-- All that was ever written, the last first. -/
abbrev Chronicle := List ChronicleEntry

namespace Chronicle

/-- The charter that founded the guild last. -/
def charter? (guildId : String) : Chronicle → Option GuildCharter
  | [] => none
  | .founded charter :: earlier =>
    if guildId = charter.id then some charter else charter? guildId earlier
  | .placed _ _ :: earlier => charter? guildId earlier

/-- The ids of the agents that were placed in the guild since it was founded last, in this order and
as often as they were. -/
def joiners (space guildId : String) : Chronicle → List String
  | [] => []
  | .founded charter :: earlier => if guildId = charter.id then [] else joiners space guildId earlier
  | .placed batch name :: earlier =>
    if batch.guildId = some guildId then
      joiners space guildId earlier ++ [entityId space (instanceKey name)]
    else joiners space guildId earlier

/-- The batch that the agent under the key was placed from last. -/
def batch? (key : String) : Chronicle → Option AgentBatch
  | [] => none
  | .founded _ :: earlier => batch? key earlier
  | .placed batch name :: earlier =>
    if key = instanceKey name then some batch else batch? key earlier

section Noting

variable {ω : Type}

def noteFounding (dryRun : Bool) (chronicle : Chronicle) (trial : Trial GuildCharter Founding ω) :
    Chronicle :=
  match dryRun, trial.upshot with
  | false, .founded => .founded trial.item :: chronicle
  | _, _ => chronicle

def notePlacement (dryRun : Bool) (chronicle : Chronicle)
    (trial : Trial (AgentBatch × String) Placement ω) : Chronicle :=
  match dryRun, trial.upshot with
  | false, .placed _ _ => .placed trial.item.1 trial.item.2 :: chronicle
  | _, _ => chronicle

def note (dryRun : Bool) (chronicle : Chronicle) (log : Roster.Log ω) : Chronicle :=
  log.agents.foldl (notePlacement dryRun) (log.guilds.foldl (noteFounding dryRun) chronicle)

end Noting

/-- A store that holds what was written and nothing else. -/
structure Tells (space : String) (chronicle : Chronicle) (store : Store) : Prop where
  working : store.Working
  wellKeyed : store.WellKeyed space
  agent : ∀ key agent, store.agents.find? key = some agent →
    ∃ batch, chronicle.batch? key = some batch ∧ agent.level = batch.level
  guild : ∀ id, store.guild? id = (chronicle.charter? id).map fun charter =>
    { charter.toGuild with
      minLevel := charter.minLevel
      members := (chronicle.joiners space id).eraseDups }

variable {space : String} {chronicle : Chronicle} {store next : Store}

theorem tells_nil (space : String) : Tells space [] .empty where
  working := Store.working_empty
  wellKeyed := Store.wellKeyed_empty space
  agent := by
    intro key agent hagent
    cases hagent
  guild := fun _ => rfl

theorem Tells.found (h : chronicle.Tells space store) {charter : GuildCharter}
    (hlevel : Level.isValid charter.minLevel = true) :
    Tells space (.founded charter :: chronicle)
      (Store.putGuild charter.id charter.toGuild store).2 where
  working := ⟨h.working.reads, h.working.writes⟩
  wellKeyed := ⟨⟨h.wellKeyed.sound, h.wellKeyed.key⟩, h.wellKeyed.id⟩
  agent := h.agent
  guild := by
    intro id
    have hput : (Store.putGuild charter.id charter.toGuild store).2.guild? id =
        if id = charter.id then some charter.toGuild else store.guild? id :=
      Keyed.find?_insert charter.id id charter.toGuild store.guilds
    rw [hput, charter?, joiners]
    split
    · simp only [Option.map_some, GuildCharter.toGuild, Guild.found, List.eraseDups_nil,
        Level.clamp_of_isValid hlevel]
    · exact h.guild id

theorem Tells.place (h : chronicle.Tells space store) {batch : AgentBatch} {name : String}
    (hlevel : Level.isValid batch.level = true) (hplaces : Roster.Places space batch name store next) :
    Tells space (.placed batch name :: chronicle) next where
  working := hplaces.working
  wellKeyed := hplaces.wellKeyed h.wellKeyed
  agent := by
    intro key agent hagent
    rw [hplaces.agent] at hagent
    rw [batch?]
    split at hagent
    · rename_i hkey
      cases hagent
      exact ⟨batch, if_pos hkey, Level.clamp_of_isValid hlevel⟩
    · rename_i hkey
      rw [if_neg hkey]
      exact h.agent key agent hagent
  guild := by
    intro id
    rw [hplaces.guild, h.guild, charter?, joiners]
    cases hcharter : charter? id chronicle with
    | none => rfl
    | some charter =>
        have hguild := h.guild id
        rw [hcharter] at hguild
        -- A newcomer joins the guild of its batch only if that is stored, and this one is.
        have hjoins : id ∈ (Roster.newcomer space store batch name).guilds ↔
            batch.guildId = some id := by
          simp only [Roster.newcomer, Option.mem_toList, Option.filter_eq_some_iff, hguild]
          exact and_iff_left rfl
        simp only [Option.map_some, hjoins]
        split
        · rw [Guild.addMember_of_eraseDups _ rfl]
        · rfl

end Chronicle

namespace Roster

variable {ω : Type}

/-- What each trial keeps of a world, and of what is noted of the trials, a loop keeps. -/
theorem Tries.keeps {α β σ : Type} {env : Environment ω} {announce : α → Nat → ProgressEvent}
    {act : α → ω → β × ω} {number : Nat} {items : List α} {world last : ω}
    {log : List (Trial α β ω)} {result : Except Halt Unit} {note : σ → Trial α β ω → σ}
    {holds : σ → ω → Prop} {state : σ}
    (h : Tries env announce act number items world log result last)
    (hcheck : ∀ state world, holds state world → holds state (env.check world).2)
    (hreport : ∀ state event world, holds state world → holds state (env.report event world))
    (hact : ∀ item ∈ items, ∀ state before upshot after, holds state before →
      act item before = (upshot, after) → holds (note state ⟨item, before, upshot, after⟩) after)
    (hstart : holds state world) : holds (log.foldl note state) last := by
  induction h generalizing state with
  | done => exact hstart
  | @halted number item rest world after halt hasked =>
      have hafter := hcheck state world hstart
      rw [hasked] at hafter
      exact hafter
  | @next number item rest world checked after last upshot log result hasked hacted hrest ih =>
      have hchecked := hcheck state world hstart
      rw [hasked] at hchecked
      have hdone := hact item List.mem_cons_self state _ upshot after
        (hreport state (announce item (number + 1)) checked hchecked) hacted
      exact ih (fun other hother => hact other (List.mem_cons_of_mem _ hother)) hdone

theorem placeNew_cases (space : String) {store : Store} (hworking : store.Working)
    (hnamed : store.Named) (idempotent : Bool) (batch : AgentBatch) (name : String) :
    (∃ agent, placeNew (Store.access space) idempotent batch name store =
        (.skipped agent, store)) ∨
      ∃ errors next, placeNew (Store.access space) idempotent batch name store =
          (.placed (newcomer space store batch name) errors, next) ∧
        Places space batch name store next := by
  obtain ⟨errors, next, hplace, hplaces⟩ := place_places space hworking hnamed batch name
  cases idempotent with
  | false => exact .inr ⟨errors, next, hplace, hplaces⟩
  | true =>
      by_cases hholds : store.Holds name
      · obtain ⟨agent, -, -, hskipped⟩ := placeNew_of_holds space hworking hnamed batch hholds
        exact .inl ⟨agent, hskipped⟩
      · refine .inr ⟨errors, next, ?_, hplaces⟩
        rw [placeNew_of_not_holds space hworking hnamed batch hholds, hplace]

end Roster

namespace Environment

open Roster

variable {ω : Type} {env : Environment ω} {space : String} {view : StoreView ω}
  {chronicle : Chronicle} {world before after : ω}

/-- The chronicle tells the store of a world that works. -/
def Told (space : String) (view : StoreView ω) (chronicle : Chronicle) (world : ω) : Prop :=
  view.works world ∧ chronicle.Tells space (view.store world)

theorem InMemory.told_found (h : env.InMemory space view) (dryRun : Bool) {charter : GuildCharter}
    (hlevel : Level.isValid charter.minLevel = true) {upshot : Founding}
    (htold : Told space view chronicle before)
    (hfound : foundUnless env dryRun charter before = (upshot, after)) :
    Told space view (chronicle.noteFounding dryRun ⟨charter, before, upshot, after⟩) after := by
  obtain ⟨hworks, htells⟩ := htold
  cases dryRun with
  | true =>
      cases hfound
      exact ⟨hworks, htells⟩
  | false =>
      obtain ⟨founding, founded, hcall, hmodel, hfounded⟩ := h.found charter before hworks
      rw [found_access] at hmodel
      obtain ⟨rfl, hstore⟩ := Prod.mk.inj hmodel
      obtain ⟨rfl, rfl⟩ := Prod.mk.inj (hcall.symm.trans hfound)
      refine ⟨hfounded, ?_⟩
      rw [← hstore]
      exact htells.found hlevel

theorem InMemory.told_place (h : env.InMemory space view) (dryRun idempotent : Bool)
    {item : AgentBatch × String} (hlevel : Level.isValid item.1.level = true)
    {upshot : Placement} (htold : Told space view chronicle before)
    (hplace : placeUnless env dryRun idempotent item before = (upshot, after)) :
    Told space view (chronicle.notePlacement dryRun ⟨item, before, upshot, after⟩) after := by
  obtain ⟨hworks, htells⟩ := htold
  cases dryRun with
  | true =>
      cases hplace
      exact ⟨hworks, htells⟩
  | false =>
      obtain ⟨placement, placed, hcall, hmodel, hplaced⟩ :=
        h.placeNew idempotent item.1 item.2 before hworks
      obtain ⟨rfl, rfl⟩ := Prod.mk.inj (hcall.symm.trans hplace)
      refine ⟨hplaced, ?_⟩
      rcases placeNew_cases space htells.working htells.wellKeyed.toNamed idempotent item.1
        item.2 with ⟨agent, hskipped⟩ | ⟨errors, next, hnew, hplaces⟩
      · obtain ⟨rfl, hstore⟩ := Prod.mk.inj (hskipped.symm.trans hmodel)
        rw [← hstore]
        exact htells
      · obtain ⟨rfl, rfl⟩ := Prod.mk.inj (hnew.symm.trans hmodel)
        exact htells.place hlevel hplaces

/-- A run of a valid plan leaves a store that is told by what it wrote besides what was written
before, however far it came. -/
theorem InMemory.told_tried (h : env.InMemory space view) {plan : RosterPlan}
    (hvalid : plan.validate = .ok ()) {dryRun idempotent : Bool} {log : Log ω}
    {result : Except Halt Unit} (htried : Tried env plan dryRun idempotent world log result after)
    (htold : Told space view chronicle world) :
    Told space view (chronicle.note dryRun log) after := by
  obtain ⟨hitems, hcharters⟩ := RosterPlan.levels_of_validate hvalid
  have hcheck : ∀ chronicle world, Told space view chronicle world →
      Told space view chronicle (env.check world).2 := by
    rintro chronicle world ⟨hworks, htells⟩
    obtain ⟨hstore, hchecked⟩ := h.check world hworks
    exact ⟨hchecked, hstore ▸ htells⟩
  have hreport : ∀ chronicle event world, Told space view chronicle world →
      Told space view chronicle (env.report event world) := by
    rintro chronicle event world ⟨hworks, htells⟩
    obtain ⟨hstore, hreported⟩ := h.report event world hworks
    exact ⟨hreported, hstore ▸ htells⟩
  have hguilds : ∀ {guilds result founded}, TriesGuilds env dryRun plan.charters.length 0
      plan.charters world guilds result founded →
      Told space view (guilds.foldl (Chronicle.noteFounding dryRun) chronicle) founded :=
    fun hguilds => hguilds.keeps hcheck hreport
      (fun charter hcharter _ _ _ _ htold hfound =>
        h.told_found dryRun (hcharters charter hcharter) htold hfound) htold
  cases htried with
  | halted hhalted => exact hguilds hhalted
  | chartered hchartered hagents =>
      exact hagents.keeps hcheck hreport
        (fun item hitem _ _ _ _ htold hplace =>
          h.told_place dryRun idempotent (hitems item hitem) htold hplace) (hguilds hchartered)

end Environment

namespace Roster

/-- Stores that runs of valid plans make of an empty one, with all that the runs wrote. -/
inductive Grown (space : String) : Chronicle → Store → Prop
  | start : Grown space [] .empty
  | run {ω : Type} {env : Environment ω} {view : StoreView ω} {chronicle : Chronicle}
      {plan : RosterPlan} {dryRun idempotent : Bool} {world after : ω} {log : Log ω}
      {result : Except Halt Unit} (henv : env.InMemory space view) (hworks : view.works world)
      (hearlier : Grown space chronicle (view.store world)) (hvalid : plan.validate = .ok ())
      (hseed : (seed env plan dryRun idempotent world).2 = after)
      (htried : Tried env plan dryRun idempotent world log result after) :
      Grown space (chronicle.note dryRun log) (view.store after)

variable {space : String} {chronicle : Chronicle} {store : Store}

theorem grown_seed {ω : Type} {env : Environment ω} {view : StoreView ω} {plan : RosterPlan}
    {world : ω} (henv : env.InMemory space view) (hworks : view.works world)
    (hearlier : Grown space chronicle (view.store world)) (hvalid : plan.validate = .ok ())
    (dryRun idempotent : Bool) :
    ∃ later, Grown space later (view.store (seed env plan dryRun idempotent world).2) := by
  obtain ⟨log, result, after, htried, hseed⟩ :=
    tried_seed env plan dryRun idempotent hvalid world
  refine ⟨chronicle.note dryRun log, ?_⟩
  rw [hseed]
  exact .run henv hworks hearlier hvalid (congrArg Prod.snd hseed) htried

theorem Grown.tells (h : Grown space chronicle store) : chronicle.Tells space store := by
  induction h with
  | start => exact Chronicle.tells_nil space
  | run henv hworks hearlier hvalid hseed htried ih =>
      exact (henv.told_tried hvalid htried ⟨hworks, ih⟩).2

/-- However many runs there were, the members of a guild are the agents that were placed in it since it
was founded, each of them once. They are no more than it may have exactly if no more were placed, and
one of them has the level that the guild needs exactly if its batch has. -/
theorem Grown.rules (h : Grown space chronicle store) {guildId : String} {guild : Guild}
    (hguild : store.guild? guildId = some guild) :
    guild.members = (chronicle.joiners space guildId).eraseDups ∧ guild.members.Nodup ∧
      (guild.members.length ≤ guild.maxMembers ↔
        (chronicle.joiners space guildId).eraseDups.length ≤ Guild.defaultCapacity) ∧
      ∀ key agent, store.agents.find? key = some agent → agent.id ∈ guild.members →
        ∃ charter batch, chronicle.charter? guildId = some charter ∧
          chronicle.batch? key = some batch ∧
          (guild.minLevel ≤ agent.level ↔ charter.minLevel ≤ batch.level) := by
  have htells := h.tells
  rw [htells.guild, Option.map_eq_some_iff] at hguild
  obtain ⟨charter, hcharter, rfl⟩ := hguild
  refine ⟨rfl, Names.nodup_eraseDups _, Iff.rfl, ?_⟩
  intro key agent hagent _
  obtain ⟨batch, hbatch, hlevel⟩ := htells.agent key agent hagent
  refine ⟨charter, batch, hcharter, hbatch, ?_⟩
  rw [hlevel]

def recruitPattern : String := "recruit-{n}"

def recruitment (count : Nat) : RosterPlan :=
  { name := "recruitment"
    description := ""
    batches := [{
      pattern := recruitPattern
      count
      level := Level.lowest
      skills := []
      modelSettings := none
      isNpc := false
      guildId := some "elite"
      firstOrdinal := 1 }]
    charters := [{ id := "elite", name := "Elite", description := "", culture := "", minLevel := 5 }] }

def recruited (count : Nat) : Store :=
  (seed Rehearsal.quiet (recruitment count) false true (Rehearsal.onStore .empty)).2.store

theorem grown_recruited (count : Nat) (hcount : count ≠ 0) :
    ∃ chronicle, Grown Store.defaultSpace chronicle (recruited count) := by
  have htexts : Text.isBlank recruitPattern = false ∧ Text.isBlank "elite" = false ∧
      AgentBatch.countMarks recruitPattern.toList = 1 := by
    decide +kernel
  obtain ⟨hpattern, hid, hmarks⟩ := htexts
  have hlevels : Level.isValid Level.lowest = true ∧ Level.isValid 5 = true := by decide
  have hvalid : (recruitment count).validate = .ok () := by
    simp [recruitment, RosterPlan.validate, RosterPlan.validateAll, AgentBatch.validate,
      GuildCharter.validate, hpattern, hid, hmarks, hlevels, hcount]
  exact grown_seed Rehearsal.inMemory_quiet (Rehearsal.works_onStore .empty) .start hvalid false true

theorem rules_recruited :
    ∃ chronicle guild, Grown Store.defaultSpace chronicle (recruited 2) ∧
      (recruited 2).guild? "elite" = some guild ∧
      guild.members = ["guildhall.agent.recruit-1", "guildhall.agent.recruit-2"] ∧
      guild.members.Nodup ∧
      (chronicle.joiners Store.defaultSpace "elite").eraseDups.length ≤ Guild.defaultCapacity := by
  obtain ⟨chronicle, hgrown⟩ := grown_recruited 2 (by decide)
  have hmembers : ((recruited 2).guild? "elite").map
      (fun guild => (guild.members, guild.maxMembers)) =
        some (["guildhall.agent.recruit-1", "guildhall.agent.recruit-2"], 20) := by decide +kernel
  obtain ⟨guild, hguild, hboth⟩ := Option.map_eq_some_iff.mp hmembers
  obtain ⟨hids, hroom⟩ := Prod.mk.inj hboth
  obtain ⟨-, hdistinct, hcapacity, -⟩ := hgrown.rules hguild
  refine ⟨chronicle, guild, hgrown, hguild, hids, hdistinct, hcapacity.mp ?_⟩
  rw [hids, hroom]
  decide

/-- One more recruit than the guild has room for joins it, and none of them has the level for it. -/
theorem rules_broken :
    ∃ chronicle guild agent, Grown Store.defaultSpace chronicle (recruited 21) ∧
      (recruited 21).guild? "elite" = some guild ∧ guild.maxMembers < guild.members.length ∧
      (recruited 21).agents.find? "recruit-1" = some agent ∧ agent.id ∈ guild.members ∧
      agent.level < guild.minLevel := by
  obtain ⟨chronicle, hgrown⟩ := grown_recruited 21 (by decide)
  have hbroken : ((recruited 21).guild? "elite").any (fun guild =>
      decide (guild.maxMembers < guild.members.length) &&
        ((recruited 21).agents.find? "recruit-1").any fun agent =>
          guild.hasMember agent.id && decide (agent.level < guild.minLevel)) = true := by
    decide +kernel
  simp only [Option.any_eq_true, Bool.and_eq_true, decide_eq_true_eq, Guild.hasMember,
    List.contains_iff_mem] at hbroken
  obtain ⟨guild, hguild, hcrowded, agent, hagent, hmember, hlow⟩ := hbroken
  exact ⟨chronicle, guild, agent, hgrown, hguild, hcrowded, hagent, hmember, hlow⟩

end Roster

end QuestAcademy
