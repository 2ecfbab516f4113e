import QuestAcademy.Proofs.GuildJoining
import QuestAcademy.Proofs.MentorChoice

namespace QuestAcademy

variable {ω : Type}

namespace Mentors

variable {count first : Nat} {taken : List String}

def rosterNames (count first : Nat) : List String :=
  (roster count first).items.map Prod.snd

/-- The names are distinct, and none has the key of a name that is taken. -/
structure Fresh (taken names : List String) : Prop where
  distinct : names.Nodup
  apart : ∀ name ∈ names, ∀ other ∈ taken, instanceKey other ≠ instanceKey name

theorem rosterNames_eq (count first : Nat) :
    rosterNames count first =
      (List.range count).map fun place => mentorName (min ordinalLimit (first + place)) := by
  have hitems : rosterNames count first =
      (roster count first).batches.flatMap AgentBatch.names := by
    simp [rosterNames, RosterPlan.items, List.map_flatMap, Function.comp_def]
  rw [hitems, roster, List.flatMap_singleton]
  apply List.map_congr_left
  intro place _
  exact nameAt_roster count first place _ List.mem_cons_self

theorem map_instanceKey_rosterNames (count first : Nat) :
    (rosterNames count first).map instanceKey = rosterNames count first := by
  rw [rosterNames_eq, List.map_map]
  apply List.map_congr_left
  intro place _
  exact instanceKey_mentorName _

theorem nodup_rosterNames_iff (hfirst : first ≤ ordinalLimit) (hcount : 0 < count) :
    (rosterNames count first).Nodup ↔ first + count ≤ ordinalLimit + 1 := by
  rw [rosterNames_eq]
  constructor
  · intro hnodup
    by_contra hbeyond
    -- The last two numbers are both the largest one.
    have hlast : count - 1 ∈ List.range count := List.mem_range.mpr (by omega)
    have hbefore : count - 2 ∈ List.range count := List.mem_range.mpr (by omega)
    have hsame : min ordinalLimit (first + (count - 1)) =
        min ordinalLimit (first + (count - 2)) := by omega
    have hplaces := List.inj_on_of_nodup_map hnodup hlast hbefore (congrArg mentorName hsame)
    omega
  · intro hroom
    apply List.Nodup.map_on _ List.nodup_range
    intro place hplace other hother hname
    have hnumbers := mentorName_injective hname
    rw [List.mem_range] at hplace hother
    omega

theorem nextOrdinal_eq_ordinalLimit {name : String} (hname : name ∈ taken)
    (hkey : instanceKey name = mentorName ordinalLimit) : nextOrdinal taken = ordinalLimit := by
  have hordinal : ordinal? name = some ordinalLimit := by
    rw [← ordinal?_mentorName (Nat.le_refl ordinalLimit)]
    apply ordinal?_of_key
    rw [hkey, instanceKey_mentorName]
  have htop := le_topOrdinal hname hordinal
  rw [nextOrdinal_eq_min]
  omega

/-- New mentors are fresh exactly if there are numbers enough and nobody has the largest one. -/
theorem fresh_rosterNames_iff (hcount : 0 < count) (taken : List String) :
    Fresh taken (rosterNames count (nextOrdinal taken)) ↔
      nextOrdinal taken + count ≤ ordinalLimit + 1 ∧
        ∀ name ∈ taken, instanceKey name ≠ mentorName ordinalLimit := by
  have hnext := nextOrdinal_eq_min taken
  have hfirst : nextOrdinal taken ≤ ordinalLimit := by omega
  have hnodup := nodup_rosterNames_iff hfirst hcount
  constructor
  · rintro ⟨hdistinct, hapart⟩
    refine ⟨hnodup.mp hdistinct, ?_⟩
    intro name hname hkey
    have hfirst : mentorName ordinalLimit ∈ rosterNames count (nextOrdinal taken) := by
      rw [rosterNames_eq, nextOrdinal_eq_ordinalLimit hname hkey]
      exact List.mem_map.mpr ⟨0, List.mem_range.mpr hcount, by simp⟩
    apply hapart _ hfirst name hname
    rw [hkey, instanceKey_mentorName]
  · rintro ⟨hroom, hlast⟩
    refine ⟨hnodup.mpr hroom, ?_⟩
    rw [rosterNames_eq]
    intro name hname other hother hkey
    obtain ⟨place, hplace, rfl⟩ := List.mem_map.mp hname
    rw [List.mem_range] at hplace
    -- A name with this key has the number, so that the number is not above all that are known.
    have hordinal := ordinal?_mentorName (Nat.min_le_left ordinalLimit (nextOrdinal taken + place))
    rw [← ordinal?_of_key hkey] at hordinal
    have htop := le_topOrdinal hother hordinal
    have hlimit : min ordinalLimit (nextOrdinal taken + place) = ordinalLimit := by omega
    apply hlast other hother
    rw [hkey, hlimit, instanceKey_mentorName]

theorem free_nextOrdinal_iff (taken : List String) :
    (∀ name ∈ taken, instanceKey name ≠ instanceKey (mentorName (nextOrdinal taken))) ↔
      ∀ name ∈ taken, instanceKey name ≠ mentorName ordinalLimit := by
  have hnext := nextOrdinal_eq_min taken
  have hone : rosterNames 1 (nextOrdinal taken) = [mentorName (nextOrdinal taken)] := by
    have hmin : min ordinalLimit (nextOrdinal taken) = nextOrdinal taken := by omega
    simp [rosterNames_eq, hmin]
  have hfresh := fresh_rosterNames_iff Nat.one_pos taken
  rw [hone] at hfresh
  constructor
  · intro hfree
    refine (hfresh.mp ⟨List.nodup_singleton _, ?_⟩).2
    intro name hname
    rw [List.mem_singleton.mp hname]
    exact hfree
  · intro hlast
    exact (hfresh.mpr ⟨by omega, hlast⟩).apart _ List.mem_cons_self

end Mentors

/-- A run of a roster takes no agent for one of its own, and leaves every agent as it is. -/
structure Environment.Spares (env : Environment ω) (view : HallView ω) (plan : RosterPlan)
    (dryRun : Bool) (world : ω) : Prop where
  skipped : (Arena.reportOf (Roster.seed env plan dryRun true world).1).agentsSkipped = 0
  kept : ∀ key agent, (view.hall world).store.agents.find? key = some agent →
    (view.hall (Roster.seed env plan dryRun true world).2).store.agents.find? key = some agent

/-- Whatever lies under the key now, all other agents are as they were, and all lie where they
belong. -/
structure Hall.Beside (key : String) (before after : Hall) : Prop where
  named : after.store.Named
  others : ∀ other ≠ key, after.store.agents.find? other = before.store.agents.find? other

namespace Roster

variable {env : Environment ω} {view : HallView ω} {world after : ω}

section Placing

variable {batch : AgentBatch} {name : String} {placement : Placement} (hosts : env.Hosts view)
  (hnamed : (view.hall world).store.Named) (hguild : batch.guildId = none)
  (hnone : (view.hall world).store.agents.find? (instanceKey name) = none)
include hosts hnamed hguild hnone

theorem Exit.beside (h : Exit env.store true batch name world placement after) :
    placement.isSkipped = false ∧
      (view.hall world).Beside (instanceKey name) (view.hall after) := by
  have hsame : (view.hall world).Beside (instanceKey name) (view.hall world) :=
    ⟨hnamed, fun _ _ => rfl⟩
  have hlooked := hosts.hall_findByName name world
  cases h with
  | skipped _ hfind =>
      obtain ⟨key, hkey⟩ := hosts.stored_of_findByName hfind
      rw [← StoreAccess.name_of_findByName hfind, hnamed.key key _ hkey, hkey] at hnone
      cases hnone
  | lookupFailed _ hfind =>
      rw [hfind] at hlooked
      rw [show view.hall after = view.hall world from hlooked]
      exact ⟨rfl, hsame⟩
  | refused habsent hput =>
      cases habsent with
      | asked hfind =>
          rw [hfind] at hlooked
          rw [hosts.putAgent_failed hput, show view.hall _ = view.hall world from hlooked]
          exact ⟨rfl, hsame⟩
  | alone habsent _ hput =>
      cases habsent with
      | asked hfind =>
          rw [hfind] at hlooked
          have hputs := hosts.puts hput
          have hsaved := (hosts.putAgent _ _).hall_of_ok hput
          have hname : instanceKey (applicant env.store batch name).name = instanceKey name := by
            rw [applicant_eq]
            rfl
          rw [show view.hall _ = view.hall world from hlooked] at hputs hsaved
          refine ⟨rfl, ?_, ?_⟩
          · rw [hsaved, Store.after_putAgent hname]
            exact hnamed.save _
          · intro other hother
            rw [hputs.agent, if_neg hother]
  | joined _ hguilded | unjoined _ hguilded | undropped _ hguilded =>
      rw [hguild] at hguilded
      cases hguilded

theorem placeUnless_beside (dryRun : Bool)
    (hplace : placeUnless env dryRun true (batch, name) world = (placement, after)) :
    placement.isSkipped = false ∧
      (view.hall world).Beside (instanceKey name) (view.hall after) := by
  unfold placeUnless at hplace
  split at hplace
  · cases hplace
    exact ⟨rfl, hnamed, fun _ _ => rfl⟩
  · have hexit := exit_placeNew env.store true batch name world
    rw [show placeNew env.store true batch name world = (placement, after) from hplace] at hexit
    exact hexit.beside hosts hnamed hguild hnone

end Placing

variable (hosts : env.Hosts view)
include hosts

theorem TriesAgents.spares {dryRun : Bool} {total number : Nat}
    {items : List (AgentBatch × String)} {log : List (Trial (AgentBatch × String) Placement ω)}
    {result : Except Halt Unit}
    (h : TriesAgents env dryRun true total number items world log result after)
    (hnamed : (view.hall world).store.Named) (hguild : ∀ item ∈ items, item.1.guildId = none)
    (hkeys : (items.map fun item => instanceKey item.2).Nodup)
    (hnone : ∀ item ∈ items,
      (view.hall world).store.agents.find? (instanceKey item.2) = none) :
    (∀ trial ∈ log, trial.upshot.isSkipped = false) ∧
      ∀ key agent, (view.hall world).store.agents.find? key = some agent →
        (view.hall after).store.agents.find? key = some agent := by
  unfold TriesAgents at h
  induction h with
  | done => exact ⟨List.forall_mem_nil _, fun _ _ hagent => hagent⟩
  | @halted _ _ _ world after _ hcheck =>
      have hchecked := hosts.hall_check world
      rw [hcheck] at hchecked
      rw [show view.hall after = view.hall world from hchecked]
      exact ⟨List.forall_mem_nil _, fun _ _ hagent => hagent⟩
  | @next number item rest world checked placed after _ _ _ hcheck hplace _ ih =>
      rw [List.forall_mem_cons] at hguild hnone
      rw [List.map_cons, List.nodup_cons] at hkeys
      have hready : view.hall (env.report (placingEvent item.2 (number + 1) total) checked) =
          view.hall world := by
        have hchecked := hosts.hall_check world
        rw [hcheck] at hchecked
        exact (hosts.hall_report _ checked).trans hchecked
      have hown := hnone.1
      rw [← hready] at hnamed hown
      obtain ⟨hskipped, hbeside⟩ := placeUnless_beside hosts hnamed hguild.1 hown dryRun hplace
      rw [hready] at hbeside hown
      -- The keys of the later items are still free, since they differ from that of this one.
      obtain ⟨hlater, hkept⟩ := ih hbeside.named hguild.2 hkeys.2 (by
        intro other hother
        rw [hbeside.others]
        · exact hnone.2 other hother
        · intro hkey
          exact hkeys.1 (List.mem_map.mpr ⟨other, hother, hkey⟩))
      refine ⟨List.forall_mem_cons.mpr ⟨hskipped, hlater⟩, ?_⟩
      intro key agent hagent
      apply hkept
      rw [hbeside.others]
      · exact hagent
      · rintro rfl
        rw [hown] at hagent
        cases hagent

theorem spares_seed {plan : RosterPlan} (hvalid : plan.validate = .ok ())
    (hcharters : plan.charters = []) (hguild : ∀ item ∈ plan.items, item.1.guildId = none)
    (hkeys : (plan.items.map fun item => instanceKey item.2).Nodup) (dryRun : Bool)
    (hnamed : (view.hall world).store.Named)
    (hnone : ∀ item ∈ plan.items,
      (view.hall world).store.agents.find? (instanceKey item.2) = none) :
    env.Spares view plan dryRun world := by
  obtain ⟨log, result, after, htried, hseed⟩ := tried_seed env plan dryRun true hvalid world
  have hreport : (Arena.reportOf (seed env plan dryRun true world).1).agentsSkipped =
      (log.notedIn (.start .tieredRoster dryRun)).agentsSkipped := by
    rw [hseed]
    cases result <;> rfl
  rw [Log.notedIn_start] at hreport
  have htries : (∀ trial ∈ log.agents, trial.upshot.isSkipped = false) ∧
      ∀ key agent, (view.hall world).store.agents.find? key = some agent →
        (view.hall after).store.agents.find? key = some agent := by
    cases htried with
    | halted hguilds =>
        rw [hcharters] at hguilds
        cases hguilds
    | chartered hguilds hagents =>
        rw [hcharters] at hguilds
        cases hguilds
        exact TriesAgents.spares hosts hagents hnamed hguild hkeys hnone
  refine ⟨?_, ?_⟩
  · rw [hreport, List.countP_eq_zero]
    intro trial htrial
    rw [htries.1 trial htrial]
    exact Bool.false_ne_true
  · rw [hseed]
    exact htries.2

end Roster

namespace Mentors

/-- What becomes of so many new mentors when some names are taken. -/
structure Bootstrap (taken : List String) (count : Nat) : Prop where
  free_iff : (∀ name ∈ taken, instanceKey name ≠ instanceKey (mentorName (nextOrdinal taken))) ↔
    ∀ name ∈ taken, instanceKey name ≠ mentorName ordinalLimit
  fresh_iff : Fresh taken (rosterNames count (nextOrdinal taken)) ↔
    nextOrdinal taken + count ≤ ordinalLimit + 1 ∧
      ∀ name ∈ taken, instanceKey name ≠ mentorName ordinalLimit
  spares : Fresh taken (rosterNames count (nextOrdinal taken)) →
    ∀ {ω : Type} {env : Environment ω} {view : HallView ω}, env.Hosts view →
      ∀ (dryRun : Bool) (world : ω), (view.hall world).store.Named →
        (∀ agent ∈ (view.hall world).store.agents.toList, agent.name ∈ taken) →
          env.Spares view (roster count (nextOrdinal taken)) dryRun world

theorem spares_roster {env : Environment ω} {view : HallView ω} (hosts : env.Hosts view)
    {taken : List String} {count first : Nat} (hcount : 0 < count)
    (hfresh : Fresh taken (rosterNames count first)) (dryRun : Bool) {world : ω}
    (hnamed : (view.hall world).store.Named)
    (htaken : ∀ agent ∈ (view.hall world).store.agents.toList, agent.name ∈ taken) :
    env.Spares view (roster count first) dryRun world := by
  obtain ⟨hdistinct, hapart⟩ := hfresh
  have hitem : ∀ item ∈ (roster count first).items, item.2 ∈ rosterNames count first :=
    fun item => List.mem_map_of_mem
  refine Roster.spares_seed hosts (validate_roster (by omega) first) rfl ?_ ?_ dryRun hnamed ?_
  · exact guildId_of_mem_items
  · rw [← map_instanceKey_rosterNames, rosterNames, List.map_map] at hdistinct
    exact hdistinct
  · intro item hmem
    rw [Option.eq_none_iff_forall_ne_some]
    intro agent hagent
    have hlisted := (AgentTable.mem_toList_iff hnamed.sound agent).mpr ⟨_, hagent⟩
    exact hapart _ (hitem item hmem) _ (htaken agent hlisted) (hnamed.key _ agent hagent)

/-- The first number is free exactly if nobody has the largest one, and all new names are fresh
exactly if the numbers last, besides. New mentors with fresh names replace nobody. -/
theorem bootstrap_apart (taken : List String) {count : Nat} (hcount : 0 < count) :
    Bootstrap taken count where
  free_iff := free_nextOrdinal_iff taken
  fresh_iff := fresh_rosterNames_iff hcount taken
  spares := fun hfresh _ _ _ hosts dryRun _ hnamed htaken =>
    spares_roster hosts hcount hfresh dryRun hnamed htaken

theorem bootstrap_apart_hermit :
    let plan := roster 2 (nextOrdinal ["mentor-3"])
    let after :=
      (Roster.seed Rehearsal.quiet plan false true (Rehearsal.onStore Environment.hermit)).2
    0 < 2 ∧ Bootstrap ["mentor-3"] 2 ∧
      after.store.agents.order.map Prod.snd = ["mentor-3", "mentor-4", "mentor-5"] :=
  ⟨by decide, bootstrap_apart _ (by decide), by decide +kernel⟩

def lastMentor : Store :=
  Store.empty.save (Agent.create "guildhall.agent.mentor-4294967295" "Mentor 4294967295" 1)

/-- No number comes after the largest one: it is given once more, and the mentor who had it is gone
from the store. -/
theorem bootstrap_replaces_lastMentor :
    let plan := { ArenaPlan.default with
      profiles := [{ name := "scout", skills := [], modelSettings := none }]
      questsPerTrainee := 1
      mentored := true
      bootstrapMentors := 1 }
    let after := (Arena.run Rehearsal.quiet plan false true (Rehearsal.onStore lastMentor)).2.store
    nextOrdinal ["Mentor 4294967295"] = 4294967295 ∧
      instanceKey "Mentor 4294967295" = instanceKey (mentorName 4294967295) ∧
      ¬ (rosterNames 2 4294967295).Nodup ∧
      (lastMentor.agents.find? "mentor-4294967295").map Agent.name = some "Mentor 4294967295" ∧
      (after.agents.find? "mentor-4294967295").map Agent.name = some "mentor-4294967295" := by
  decide +kernel

end Mentors

end QuestAcademy
