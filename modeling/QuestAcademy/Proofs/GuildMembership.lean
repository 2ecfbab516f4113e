import QuestAcademy.Proofs.RosterPlacement

/-!
Guilds and their members over any number of idempotent runs. A run founds its guilds anew and skips
the agents it finds, so that an agent is missing from its guild from the first run on that founds
the guild once more, until the agent is placed again.
-/

namespace QuestAcademy

def Store.HasMember (space : String) (store : Store) (guildId key : String) : Prop :=
  ∃ guild, store.guild? guildId = some guild ∧ entityId space key ∈ guild.members

theorem Guild.mem_addMember (guild : Guild) (agentId other : String) :
    other ∈ (guild.addMember agentId).members ↔ other = agentId ∨ other ∈ guild.members := by
  simp only [addMember, hasMember, List.contains_iff_mem]
  split
  · rename_i hmember
    constructor
    · exact .inr
    · rintro (rfl | hother)
      · exact hmember
      · exact hother
  · simp [or_comm]

namespace Roster

variable {space : String} {items : List (AgentBatch × String)} {before after : Store}
  {created : Nat} {batch : AgentBatch} {name key guildId : String} {agent : Agent}

theorem Founds.hasMember_iff {charters : List GuildCharter} (h : Founds charters before after)
    (guildId key : String) :
    after.HasMember space guildId key ↔
      (∀ charter ∈ charters, charter.id ≠ guildId) ∧ before.HasMember space guildId key := by
  unfold Store.HasMember
  by_cases hcharter : ∃ charter ∈ charters, charter.id = guildId
  · obtain ⟨charter, hcharter, rfl⟩ := hcharter
    obtain ⟨guild, hguild, hempty⟩ := h.chartered charter hcharter
    constructor
    · rintro ⟨found, hfound, hmember⟩
      rw [hguild] at hfound
      cases hfound
      rw [hempty] at hmember
      cases hmember
    · rintro ⟨hnone, -⟩
      exact absurd rfl (hnone charter hcharter)
  · have hnone : ∀ charter ∈ charters, charter.id ≠ guildId :=
      fun charter hmem hid => hcharter ⟨charter, hmem, hid⟩
    rw [h.others guildId hnone]
    exact (and_iff_right hnone).symm

theorem Founds.isSome_guild? {charters : List GuildCharter} (h : Founds charters before after)
    (hguild : (before.guild? guildId).isSome = true) : (after.guild? guildId).isSome = true := by
  by_cases hcharter : ∃ charter ∈ charters, charter.id = guildId
  · obtain ⟨charter, hcharter, rfl⟩ := hcharter
    obtain ⟨guild, hfound, -⟩ := h.chartered charter hcharter
    rw [hfound]
    rfl
  · rw [h.others guildId fun charter hmem hid => hcharter ⟨charter, hmem, hid⟩]
    exact hguild

theorem Places.isSome_guild? (h : Places space batch name before after)
    (hguild : (before.guild? guildId).isSome = true) : (after.guild? guildId).isSome = true := by
  rw [h.guild, Option.isSome_map]
  exact hguild

theorem Places.hasMember_iff (h : Places space batch name before after) (guildId : String)
    (hkey : key ≠ instanceKey name) :
    after.HasMember space guildId key ↔ before.HasMember space guildId key := by
  unfold Store.HasMember
  rw [h.guild]
  cases before.guild? guildId with
  | none => simp
  | some guild =>
      have hid : entityId space key ≠ entityId space (instanceKey name) :=
        fun hsame => hkey ((entityId_inj space).mp hsame)
      simp only [Option.map_some, Option.some.injEq, exists_eq_left']
      split
      · rw [Guild.mem_addMember, or_iff_right hid]
      · exact Iff.rfl

theorem Places.hasMember_newcomer (h : Places space batch name before after)
    (hlisted : guildId ∈ (newcomer space before batch name).guilds) :
    after.HasMember space guildId (instanceKey name) := by
  have hexists : (before.guild? guildId).isSome = true := by
    simp only [newcomer, Option.mem_toList] at hlisted
    exact (Option.filter_eq_some_iff.mp hlisted).2
  obtain ⟨guild, hguild⟩ := Option.isSome_iff_exists.mp hexists
  refine ⟨guild.addMember (entityId space (instanceKey name)), ?_, ?_⟩
  · rw [h.guild, hguild, Option.map_some, if_pos hlisted]
  · exact (guild.mem_addMember _ _).mpr (.inl rfl)

theorem Places.wellKeyed (h : Places space batch name before after)
    (hkeyed : before.WellKeyed space) : after.WellKeyed space := by
  refine ⟨h.named, ?_⟩
  intro key agent hagent
  rw [h.agent] at hagent
  split at hagent
  · rename_i hkey
    cases hagent
    rw [hkey]
    rfl
  · exact hkeyed.id key agent hagent

theorem Enrols.working (h : Enrols space items before created after) (hworking : before.Working) :
    after.Working := by
  induction h with
  | done => exact hworking
  | skipped hholds hrest ih => exact ih hworking
  | placed hnew hplaces hrest ih => exact ih hplaces.working

theorem Enrols.wellKeyed (h : Enrols space items before created after)
    (hkeyed : before.WellKeyed space) : after.WellKeyed space := by
  induction h with
  | done => exact hkeyed
  | skipped hholds hrest ih => exact ih hkeyed
  | placed hnew hplaces hrest ih => exact ih (hplaces.wellKeyed hkeyed)

theorem Enrols.isSome_guild? (h : Enrols space items before created after)
    (hguild : (before.guild? guildId).isSome = true) : (after.guild? guildId).isSome = true := by
  induction h with
  | done => exact hguild
  | skipped hholds hrest ih => exact ih hguild
  | placed hnew hplaces hrest ih => exact ih (hplaces.isSome_guild? hguild)

theorem Enrols.hasMember_iff_of_spares (h : Enrols space items before created after)
    (hspares : Spares before items key agent) (guildId : String) :
    after.HasMember space guildId key ↔ before.HasMember space guildId key := by
  induction h with
  | done => exact Iff.rfl
  | skipped hholds hrest ih => exact ih (spares_cons_iff.mp hspares).2
  | placed hnew hplaces hrest ih =>
      obtain ⟨hkey, hnext⟩ := hplaces.spares hnew hspares
      exact (ih hnext).trans (hplaces.hasMember_iff guildId hkey)

theorem Enrols.hasMember_of_not_spares (h : Enrols space items before created after)
    (hagent : after.agents.find? key = some agent) (hnot : ∀ old, ¬ Spares before items key old)
    (hlisted : guildId ∈ agent.guilds) : after.HasMember space guildId key := by
  induction h with
  | @done store => exact absurd ⟨hagent, by simp⟩ (hnot agent)
  | @skipped batch name rest store after created hholds hrest ih =>
      refine ih hagent ?_
      intro old hspares
      refine hnot old (spares_cons_iff.mpr ⟨?_, hspares⟩)
      rintro rfl
      obtain ⟨holder, hholder, hname⟩ := hholds
      rw [hspares.stored] at hholder
      cases hholder
      exact hname.symm
  | @placed batch name rest store next after created hnew hplaces hrest ih =>
      by_cases hspared : ∃ old, Spares next rest key old
      · obtain ⟨old, hspares⟩ := hspared
        have hsame := hrest.find?_of_spares hspares
        rw [hagent] at hsame
        cases hsame
        have hstored := hspares.stored
        rw [hplaces.agent] at hstored
        rw [hrest.hasMember_iff_of_spares hspares]
        by_cases hkey : key = instanceKey name
        · rw [if_pos hkey] at hstored
          cases hstored
          rw [hkey]
          exact hplaces.hasMember_newcomer hlisted
        · rw [if_neg hkey] at hstored
          exact absurd (spares_cons_iff.mpr ⟨fun hname => absurd hname.symm hkey,
            hstored, hspares.clear⟩) (hnot agent)
      · exact ih hagent fun old hspares => hspared ⟨old, hspares⟩

end Roster

/-- A run of a roster with the store that it found. -/
structure RosterRun where
  before : Store
  plan : RosterPlan

namespace RosterRun

/-- The agent under the key was there before the run and is still there. -/
def Spares (run : RosterRun) (key : String) : Prop :=
  ∃ agent, Roster.Spares run.before run.plan.items key agent

def Charters (run : RosterRun) (guildId : String) : Prop :=
  ∃ charter ∈ run.plan.charters, charter.id = guildId

/-- Some run after the one that placed the agent under the key has founded the guild. The runs are
listed from the last one on. -/
def Refounded (guildId key : String) : List RosterRun → Prop
  | [] => False
  | run :: earlier =>
      run.Spares key ∧ (run.Charters guildId ∨ Refounded guildId key earlier)

end RosterRun

namespace Roster

open RosterRun

/-- Completed idempotent runs on a store that was empty at first, listed from the last one on. -/
inductive Course (space : String) : List RosterRun → Store → Prop
  | start : Course space [] .empty
  | run {ω : Type} {env : Environment ω} {view : StoreView ω} {runs : List RosterRun}
      {plan : RosterPlan} {world after : ω} {report : Report} (henv : env.InMemory space view)
      (hworks : view.works world) (hearlier : Course space runs (view.store world))
      (hseed : seed env plan false true world = (.ok report, after)) :
      Course space ({ before := view.store world, plan } :: runs) (view.store after)

variable {space : String} {runs : List RosterRun} {store : Store}

theorem Course.working_and_wellKeyed (h : Course space runs store) :
    store.Working ∧ store.WellKeyed space := by
  induction h with
  | start => exact ⟨Store.working_empty, Store.wellKeyed_empty space⟩
  | run henv hworks hearlier hseed ih =>
      obtain ⟨hworking, hkeyed⟩ := ih
      obtain ⟨founded, hfounds, henrols, -⟩ :=
        henv.seed_enrols hworks hworking hkeyed.toNamed hseed
      exact ⟨henrols.working (hfounds.working hworking),
        henrols.wellKeyed (hfounds.wellKeyed hkeyed)⟩

theorem Course.guild_and_member (h : Course space runs store) {key guildId : String} {agent : Agent}
    (hagent : store.agents.find? key = some agent) (hlisted : guildId ∈ agent.guilds) :
    (store.guild? guildId).isSome = true ∧
      (store.HasMember space guildId key ↔ ¬ Refounded guildId key runs) := by
  induction h generalizing agent with
  | start => cases hagent
  | @run ω env view runs plan world after report henv hworks hearlier hseed ih =>
      obtain ⟨hworking, hkeyed⟩ := hearlier.working_and_wellKeyed
      obtain ⟨founded, hfounds, henrols, -⟩ :=
        henv.seed_enrols hworks hworking hkeyed.toNamed hseed
      by_cases hspared : RosterRun.Spares { before := view.store world, plan } key
      · obtain ⟨old, hspares⟩ := id hspared
        have hfoundedSpares : Spares founded plan.items key old :=
          ⟨hfounds.agents ▸ hspares.stored, hspares.clear⟩
        have hsame := henrols.find?_of_spares hfoundedSpares
        rw [hagent] at hsame
        cases hsame
        obtain ⟨hguild, hmember⟩ := ih hspares.stored hlisted
        refine ⟨henrols.isSome_guild? (hfounds.isSome_guild? hguild), ?_⟩
        rw [henrols.hasMember_iff_of_spares hfoundedSpares, hfounds.hasMember_iff, hmember,
          Refounded, and_iff_right hspared, not_or, Charters]
        simp only [not_exists, not_and, ne_eq]
      · have hnot : ∀ old, ¬ Spares founded plan.items key old := by
          intro old hspares
          exact hspared ⟨old, hfounds.agents ▸ hspares.stored, hspares.clear⟩
        have hmember := henrols.hasMember_of_not_spares hagent hnot hlisted
        obtain ⟨guild, hguild, -⟩ := id hmember
        refine ⟨by rw [hguild]; rfl, iff_of_true hmember ?_⟩
        rintro ⟨hspares, -⟩
        exact hspared hspares

/-- Whatever runs were made, a guild that a stored agent lists is there, and the agent is a member
of it exactly if the guild was not founded again since the agent was placed. -/
theorem Course.mem_members_iff (h : Course space runs store) {key guildId : String} {agent : Agent}
    (hagent : store.agents.find? key = some agent) (hlisted : guildId ∈ agent.guilds) :
    ∃ guild, store.guild? guildId = some guild ∧
      (agent.id ∈ guild.members ↔ ¬ Refounded guildId key runs) := by
  obtain ⟨hsome, hmember⟩ := h.guild_and_member hagent hlisted
  obtain ⟨guild, hguild⟩ := Option.isSome_iff_exists.mp hsome
  refine ⟨guild, hguild, ?_⟩
  rw [h.working_and_wellKeyed.2.id key agent hagent, ← hmember, Store.HasMember, hguild]
  simp

def rehearsed : Nat → Rehearsal
  | 0 => .onStore .empty
  | n + 1 => (seed Rehearsal.quiet (.solo "bard-{n}" (some "bards")) false true (rehearsed n)).2

def rehearsedRuns : Nat → List RosterRun
  | 0 => []
  | n + 1 =>
      { before := (rehearsed n).store, plan := .solo "bard-{n}" (some "bards") } :: rehearsedRuns n

theorem course_rehearsed_succ {n : Nat}
    (hearlier : Course Store.defaultSpace (rehearsedRuns n) (rehearsed n).store)
    (hworks : (rehearsed n).storeCalls.faults = [])
    (hok : (seed Rehearsal.quiet (.solo "bard-{n}" (some "bards")) false true
      (rehearsed n)).1.isOk = true) :
    Course Store.defaultSpace (rehearsedRuns (n + 1)) (rehearsed (n + 1)).store := by
  cases hseed : seed Rehearsal.quiet (.solo "bard-{n}" (some "bards")) false true (rehearsed n) with
  | mk answer after =>
      rw [hseed] at hok
      cases answer with
      | error failure => cases hok
      | ok report =>
          have hrun := Course.run Rehearsal.inMemory_quiet hworks hearlier hseed
          rw [rehearsed, hseed]
          exact hrun

theorem course_rehearsed_two :
    Course Store.defaultSpace (rehearsedRuns 2) (rehearsed 2).store := by
  have hfirst : Course Store.defaultSpace (rehearsedRuns 1) (rehearsed 1).store :=
    course_rehearsed_succ .start rfl (by decide +kernel)
  exact course_rehearsed_succ hfirst (by decide +kernel) (by decide +kernel)

theorem mem_bards_iff :
    ∃ agent guild, (rehearsed 2).store.agents.find? "bard-1" = some agent ∧
      (rehearsed 2).store.guild? "bards" = some guild ∧
        (agent.id ∈ guild.members ↔ ¬ Refounded "bards" "bard-1" (rehearsedRuns 2)) := by
  have hlists : ((rehearsed 2).store.agents.find? "bard-1").map Agent.guilds = some ["bards"] := by
    decide +kernel
  obtain ⟨agent, hagent, hguilds⟩ := Option.map_eq_some_iff.mp hlists
  obtain ⟨guild, hguild, hmember⟩ := course_rehearsed_two.mem_members_iff hagent
    (by rw [hguilds]; exact List.mem_singleton_self "bards")
  exact ⟨agent, guild, hagent, hguild, hmember⟩

/-- A second run of the same plan empties the guild that the agent still lists. -/
theorem bards_empty_after_second_run :
    Course Store.defaultSpace (rehearsedRuns 2) (rehearsed 2).store ∧
      ((rehearsed 2).store.agents.find? "bard-1").map Agent.guilds = some ["bards"] ∧
      ((rehearsed 2).store.guild? "bards").map Guild.members = some [] :=
  ⟨course_rehearsed_two, by decide +kernel, by decide +kernel⟩

end Roster

end QuestAcademy
