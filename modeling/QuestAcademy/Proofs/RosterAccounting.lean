import Mathlib.Algebra.GroupWithZero.Nat
import QuestAcademy.Proofs.HallReads
import QuestAcademy.Proofs.RosterCourse
import QuestAcademy.Proofs.RosterReseeding

namespace QuestAcademy

variable {ω : Type}

namespace Founding

def isFounded : Founding → Bool
  | .founded => true
  | .refused _ _ => false

def messages : Founding → List String
  | .founded => []
  | .refused id error => ["guild " ++ id ++ ": " ++ (SeedError.creation id error).message]

end Founding

def MembershipError.isJoin : MembershipError → Bool
  | .join _ _ _ => true
  | .drop _ _ => false

namespace Placement

def agent? : Placement → Option Agent
  | .skipped agent | .placed agent _ => some agent
  | .lookupFailed _ _ | .refused _ _ => none

def isSkipped : Placement → Bool
  | .skipped _ => true
  | .lookupFailed _ _ | .refused _ _ | .placed _ _ => false

def isPlaced : Placement → Bool
  | .placed _ _ => true
  | .skipped _ | .lookupFailed _ _ | .refused _ _ => false

def isLookupFailed : Placement → Bool
  | .lookupFailed _ _ => true
  | .skipped _ | .refused _ _ | .placed _ _ => false

def isRefused : Placement → Bool
  | .refused _ _ => true
  | .skipped _ | .lookupFailed _ _ | .placed _ _ => false

def isNpc : Placement → Bool
  | .placed agent _ => agent.isNpc
  | .skipped _ | .lookupFailed _ _ | .refused _ _ => false

def isFailed (placement : Placement) : Bool :=
  placement.isLookupFailed || placement.isRefused

def isJoinFailed : Placement → Bool
  | .placed _ errors => errors.any MembershipError.isJoin
  | .skipped _ | .lookupFailed _ _ | .refused _ _ => false

def isDropFailed : Placement → Bool
  | .placed _ errors => errors.any fun error => !error.isJoin
  | .skipped _ | .lookupFailed _ _ | .refused _ _ => false

/-- What the report says of a name that failed, and of a membership that failed. -/
def messages : Placement → List String
  | .skipped _ => []
  | .lookupFailed name error => ["agent " ++ name ++ ": lookup failed: " ++ error.message]
  | .refused name error => [(SeedError.creation name error).message]
  | .placed _ errors => errors.map MembershipError.message

end Placement

namespace Report

theorem foldl_noteFounding (foundings : List Founding) (report : Report) :
    foundings.foldl noteFounding report =
      { report with
        guildsCreated := report.guildsCreated + foundings.countP Founding.isFounded
        errors := report.errors ++ foundings.flatMap Founding.messages } := by
  induction foundings generalizing report with
  | nil => simp
  | cons founding rest ih =>
      rw [List.foldl_cons, ih]
      cases founding with
      | founded =>
          simp [noteFounding, Founding.isFounded, Founding.messages, List.countP_cons]
          omega
      | refused id error =>
          simp [noteFounding, noteError, Founding.isFounded, Founding.messages]

theorem foldl_notePlacement (placements : List Placement) (report : Report) :
    placements.foldl notePlacement report =
      { report with
        agentsCreated := report.agentsCreated + placements.countP Placement.isPlaced
        agentsSkipped := report.agentsSkipped + placements.countP Placement.isSkipped
        npcsSpawned := report.npcsSpawned + placements.countP Placement.isNpc
        errors := report.errors ++ placements.flatMap Placement.messages
        agents := report.agents ++
          placements.filterMap fun placement => placement.agent?.map Agent.summary } := by
  induction placements generalizing report with
  | nil => simp
  | cons placement rest ih =>
      rw [List.foldl_cons, ih]
      cases placement with
      | skipped agent =>
          simp [notePlacement, Placement.isPlaced, Placement.isSkipped, Placement.isNpc,
            Placement.messages, Placement.agent?, List.countP_cons]
          omega
      | lookupFailed name error =>
          simp [notePlacement, noteError, Placement.isPlaced, Placement.isSkipped,
            Placement.isNpc, Placement.messages, Placement.agent?]
      | refused name error =>
          simp [notePlacement, noteError, Placement.isPlaced, Placement.isSkipped,
            Placement.isNpc, Placement.messages, Placement.agent?]
      | placed agent errors =>
          cases hnpc : agent.isNpc <;>
            simp [notePlacement, Placement.isPlaced, Placement.isSkipped, Placement.isNpc,
              Placement.messages, Placement.agent?, List.countP_cons, hnpc] <;>
            omega

end Report

theorem RosterPlan.length_items (plan : RosterPlan) :
    plan.items.length = (plan.batches.map AgentBatch.count).sum := by
  simp [items, List.length_flatMap, AgentBatch.names]

theorem RosterPlan.agentCount_eq (plan : RosterPlan) :
    plan.agentCount = min ordinalLimit plan.items.length := by
  have hcapped : ∀ (batches : List AgentBatch) (total : Nat), total ≤ ordinalLimit →
      batches.foldl (fun total batch => min ordinalLimit (total + batch.count)) total =
        min ordinalLimit (total + (batches.map AgentBatch.count).sum) := by
    intro batches
    induction batches with
    | nil =>
        intro total htotal
        simp [htotal]
    | cons batch rest ih =>
        intro total htotal
        rw [List.foldl_cons, ih _ (Nat.min_le_left _ _), List.map_cons, List.sum_cons]
        omega
  rw [length_items, agentCount, hcapped _ 0 (Nat.zero_le _), Nat.zero_add]

namespace Roster

/-- What the store answers when a guild is founded. -/
inductive Chartered (store : StoreAccess ω) (charter : GuildCharter) (world : ω) :
    Founding → ω → Prop
  | founded {after : ω}
      (hput : store.putGuild charter.id charter.toGuild world = (.ok (), after)) :
      Chartered store charter world .founded after
  | refused {after : ω} {e : StoreError}
      (hput : store.putGuild charter.id charter.toGuild world = (.error e, after)) :
      Chartered store charter world (.refused charter.id e) after

theorem chartered_found (store : StoreAccess ω) (charter : GuildCharter) (world : ω) :
    Chartered store charter world (found store charter world).1
      (found store charter world).2 := by
  unfold found
  split <;> rename_i heq
  · exact .founded heq
  · exact .refused heq

/-- The agent as it is stored first: in the guild of its batch, if there is one. -/
def applicant (store : StoreAccess ω) (batch : AgentBatch) (name : String) : Agent :=
  let agent := batch.build (store.agentId (instanceKey name)) name
  match batch.guildId with
  | none => agent
  | some guildId => { agent with guilds := Names.insert guildId agent.guilds }

/-- An agent that could not join is out of the guild again. -/
def outsider (store : StoreAccess ω) (batch : AgentBatch) (name guildId : String) : Agent :=
  let agent := applicant store batch name
  { agent with guilds := Names.erase guildId agent.guilds }

/-- Names are looked up only if agents that are there shall be left alone; this one is not there. -/
inductive Absent (store : StoreAccess ω) (name : String) (world : ω) : Bool → ω → Prop
  | unasked : Absent store name world false world
  | asked {after : ω} (hfind : store.findByName name world = (.ok none, after)) :
      Absent store name world true after

/-- The seven ways in which an item of a roster ends, by the answers of the store. -/
inductive Exit (store : StoreAccess ω) (idempotent : Bool) (batch : AgentBatch) (name : String)
    (world : ω) : Placement → ω → Prop
  | skipped {agent : Agent} {after : ω} (hasked : idempotent = true)
      (hfind : store.findByName name world = (.ok (some agent), after)) :
      Exit store idempotent batch name world (.skipped agent) after
  | lookupFailed {e : StoreError} {after : ω} (hasked : idempotent = true)
      (hfind : store.findByName name world = (.error e, after)) :
      Exit store idempotent batch name world (.lookupFailed name e) after
  | refused {e : StoreError} {ready after : ω} (habsent : Absent store name world idempotent ready)
      (hput : store.putAgent (instanceKey name) (applicant store batch name) ready =
        (.error e, after)) :
      Exit store idempotent batch name world (.refused name e) after
  | alone {ready after : ω} (habsent : Absent store name world idempotent ready)
      (hguild : batch.guildId = none)
      (hput : store.putAgent (instanceKey name) (applicant store batch name) ready =
        (.ok (), after)) :
      Exit store idempotent batch name world (.placed (applicant store batch name) []) after
  | joined {guildId : String} {ready stored after : ω}
      (habsent : Absent store name world idempotent ready) (hguild : batch.guildId = some guildId)
      (hput : store.putAgent (instanceKey name) (applicant store batch name) ready =
        (.ok (), stored))
      (hjoin : store.updateGuild guildId
        (fun guild => guild.addMember (store.agentId (instanceKey name))) stored =
          (.ok (), after)) :
      Exit store idempotent batch name world (.placed (applicant store batch name) []) after
  | unjoined {guildId : String} {joinError : StoreError} {ready stored joined after : ω}
      (habsent : Absent store name world idempotent ready) (hguild : batch.guildId = some guildId)
      (hput : store.putAgent (instanceKey name) (applicant store batch name) ready =
        (.ok (), stored))
      (hjoin : store.updateGuild guildId
        (fun guild => guild.addMember (store.agentId (instanceKey name))) stored =
          (.error joinError, joined))
      (hdrop : store.putAgent (instanceKey name) (outsider store batch name guildId) joined =
        (.ok (), after)) :
      Exit store idempotent batch name world
        (.placed (outsider store batch name guildId) [.join name guildId joinError]) after
  | undropped {guildId : String} {joinError dropError : StoreError} {ready stored joined after : ω}
      (habsent : Absent store name world idempotent ready) (hguild : batch.guildId = some guildId)
      (hput : store.putAgent (instanceKey name) (applicant store batch name) ready =
        (.ok (), stored))
      (hjoin : store.updateGuild guildId
        (fun guild => guild.addMember (store.agentId (instanceKey name))) stored =
          (.error joinError, joined))
      (hdrop : store.putAgent (instanceKey name) (outsider store batch name guildId) joined =
        (.error dropError, after)) :
      Exit store idempotent batch name world
        (.placed (outsider store batch name guildId)
          [.join name guildId joinError, .drop name dropError]) after

section Exits

variable {store : StoreAccess ω} {idempotent : Bool} {batch : AgentBatch} {name : String}
  {world ready : ω}

theorem place_of_alone (hguild : batch.guildId = none) :
    place store batch name ready =
      match store.putAgent (instanceKey name) (applicant store batch name) ready with
      | (.error e, world) => (.refused name e, world)
      | (.ok (), world) => (.placed (applicant store batch name) [], world) := by
  unfold place applicant
  generalize batch.guildId = guild at hguild ⊢
  subst hguild
  rfl

theorem place_of_joining {guildId : String} (hguild : batch.guildId = some guildId) :
    place store batch name ready =
      match store.putAgent (instanceKey name) (applicant store batch name) ready with
      | (.error e, world) => (.refused name e, world)
      | (.ok (), world) =>
        match store.updateGuild guildId
            (fun guild => guild.addMember (store.agentId (instanceKey name))) world with
        | (.ok (), world) => (.placed (applicant store batch name) [], world)
        | (.error joinError, world) =>
          match store.putAgent (instanceKey name) (outsider store batch name guildId) world with
          | (.ok (), world) =>
            (.placed (outsider store batch name guildId) [.join name guildId joinError], world)
          | (.error dropError, world) =>
            (.placed (outsider store batch name guildId)
              [.join name guildId joinError, .drop name dropError], world) := by
  unfold place outsider applicant
  generalize batch.guildId = guild at hguild ⊢
  subst hguild
  rfl

theorem exit_place (habsent : Absent store name world idempotent ready) :
    Exit store idempotent batch name world (place store batch name ready).1
      (place store batch name ready).2 := by
  cases hguild : batch.guildId with
  | none =>
      rw [place_of_alone hguild]
      split <;> rename_i hput
      · exact .refused habsent hput
      · exact .alone habsent hguild hput
  | some guildId =>
      rw [place_of_joining hguild]
      split <;> rename_i hput
      · exact .refused habsent hput
      · split <;> rename_i hjoin
        · exact .joined habsent hguild hput hjoin
        · split <;> rename_i hdrop
          · exact .unjoined habsent hguild hput hjoin hdrop
          · exact .undropped habsent hguild hput hjoin hdrop

theorem exit_placeNew (store : StoreAccess ω) (idempotent : Bool) (batch : AgentBatch)
    (name : String) (world : ω) :
    Exit store idempotent batch name world (placeNew store idempotent batch name world).1
      (placeNew store idempotent batch name world).2 := by
  unfold placeNew
  cases idempotent with
  | false => exact exit_place .unasked
  | true =>
      simp only [if_true]
      split <;> rename_i hfind
      · exact .lookupFailed rfl hfind
      · exact .skipped rfl hfind
      · exact exit_place (.asked hfind)

theorem applicant_eq (store : StoreAccess ω) (batch : AgentBatch) (name : String) :
    applicant store batch name =
      { batch.build (store.agentId (instanceKey name)) name with
        guilds := (applicant store batch name).guilds } := by
  unfold applicant
  split <;> rfl

theorem Exit.name_eq {placement : Placement} {after : ω}
    (h : Exit store idempotent batch name world placement after) :
    ∀ agent ∈ placement.agent?, agent.name = name := by
  have happlicant : (applicant store batch name).name = name := by
    rw [applicant_eq]
    rfl
  rintro agent hagent
  cases h with
  | skipped _ hfind =>
      cases hagent
      exact StoreAccess.name_of_findByName hfind
  | lookupFailed | refused => cases hagent
  | alone | joined | unjoined | undropped =>
      cases hagent
      exact happlicant

theorem Exit.isNpc_eq {placement : Placement} {after : ω}
    (h : Exit store idempotent batch name world placement after) :
    placement.isNpc = (placement.isPlaced && batch.isNpc) := by
  have happlicant : (applicant store batch name).isNpc = batch.isNpc := by
    rw [applicant_eq]
    rfl
  cases h with
  | skipped | lookupFailed | refused => rfl
  | alone | joined | unjoined | undropped => exact happlicant

theorem Exit.length_messages {placement : Placement} {after : ω}
    (h : Exit store idempotent batch name world placement after) :
    placement.messages.length = placement.isLookupFailed.toNat + placement.isRefused.toNat +
      placement.isJoinFailed.toNat + placement.isDropFailed.toNat := by
  cases h <;> rfl

end Exits

/-- The report of a run counts everything that the run tried once, and as what it came to. -/
structure Accounts (env : Environment ω) (plan : RosterPlan) (idempotent : Bool) (log : Log ω)
    (report : Report) : Prop where
  success : report.success = true
  charters : log.guilds.map Trial.item = plan.charters
  items : log.agents.map Trial.item = plan.items
  chartered : ∀ trial ∈ log.guilds,
    Chartered env.store trial.item trial.before trial.upshot trial.after
  exits : ∀ trial ∈ log.agents, Exit env.store idempotent trial.item.1 trial.item.2 trial.before
    trial.upshot trial.after
  guildsCreated : report.guildsCreated = log.guilds.countP fun trial => trial.upshot.isFounded
  guilds : report.guildsCreated + (log.guilds.countP fun trial => !trial.upshot.isFounded) =
    plan.charters.length
  agentsCreated : report.agentsCreated = log.agents.countP fun trial => trial.upshot.isPlaced
  agentsSkipped : report.agentsSkipped = log.agents.countP fun trial => trial.upshot.isSkipped
  agents : report.agentsCreated + report.agentsSkipped +
    (log.agents.countP fun trial => trial.upshot.isFailed) = plan.items.length
  counted : plan.items.length = (plan.batches.map AgentBatch.count).sum
  announced : plan.agentCount = min ordinalLimit plan.items.length
  summaries : report.agents =
    log.agents.filterMap fun trial => trial.upshot.agent?.map Agent.summary
  names : report.agents.map AgentSummary.name =
    (log.agents.filter fun trial => !trial.upshot.isFailed).map fun trial => trial.item.2
  listed : report.agents.length = report.agentsCreated + report.agentsSkipped
  npcs : report.npcsSpawned =
    log.agents.countP fun trial => trial.upshot.isPlaced && trial.item.1.isNpc
  errors : report.errors = (log.guilds.flatMap fun trial => trial.upshot.messages) ++
    log.agents.flatMap fun trial => trial.upshot.messages
  failures : report.errors.length = (log.guilds.countP fun trial => !trial.upshot.isFounded) +
    ((log.agents.countP fun trial => trial.upshot.isLookupFailed) +
      (log.agents.countP fun trial => trial.upshot.isRefused) +
      (log.agents.countP fun trial => trial.upshot.isJoinFailed) +
      log.agents.countP fun trial => trial.upshot.isDropFailed)

theorem countP_founding (trials : List (Trial GuildCharter Founding ω)) :
    (trials.countP fun trial => trial.upshot.isFounded) +
      (trials.countP fun trial => !trial.upshot.isFounded) = trials.length := by
  have hsplit := List.length_eq_countP_add_countP (l := trials) fun trial =>
    trial.upshot.isFounded
  simpa using hsplit.symm

theorem length_founding_messages (trials : List (Trial GuildCharter Founding ω)) :
    (trials.flatMap fun trial => trial.upshot.messages).length =
      trials.countP fun trial => !trial.upshot.isFounded := by
  induction trials with
  | nil => rfl
  | cons trial rest ih =>
      have hfirst : trial.upshot.messages.length =
          if (!trial.upshot.isFounded) = true then 1 else 0 := by
        cases trial.upshot <;> rfl
      rw [List.flatMap_cons, List.length_append, List.countP_cons, ih, hfirst, Nat.add_comm]

section Tallies

variable {store : StoreAccess ω} {idempotent : Bool}
  (trials : List (Trial (AgentBatch × String) Placement ω))

theorem countP_placement :
    (trials.countP fun trial => trial.upshot.isPlaced) +
      (trials.countP fun trial => trial.upshot.isSkipped) +
      (trials.countP fun trial => trial.upshot.isFailed) = trials.length := by
  induction trials with
  | nil => rfl
  | cons trial rest ih =>
      have hone : (if trial.upshot.isPlaced = true then 1 else 0) +
          (if trial.upshot.isSkipped = true then 1 else 0) +
          (if trial.upshot.isFailed = true then 1 else 0) = 1 := by
        cases trial.upshot <;> rfl
      simp only [List.countP_cons, List.length_cons]
      omega

theorem length_summaries :
    (trials.filterMap fun trial => trial.upshot.agent?.map Agent.summary).length =
      (trials.countP fun trial => trial.upshot.isPlaced) +
        trials.countP fun trial => trial.upshot.isSkipped := by
  rw [List.length_filterMap_eq_countP]
  induction trials with
  | nil => rfl
  | cons trial rest ih =>
      have hone : (if (trial.upshot.agent?.map Agent.summary).isSome = true then 1 else 0) =
          (if trial.upshot.isPlaced = true then 1 else 0) +
            (if trial.upshot.isSkipped = true then 1 else 0) := by
        cases trial.upshot <;> rfl
      simp only [List.countP_cons, ih, hone]
      omega

variable {trials}
  (hexits : ∀ trial ∈ trials, Exit store idempotent trial.item.1 trial.item.2 trial.before
    trial.upshot trial.after)
include hexits

theorem names_summaries :
    (trials.filterMap fun trial => trial.upshot.agent?.map Agent.summary).map
        AgentSummary.name =
      (trials.filter fun trial => !trial.upshot.isFailed).map fun trial => trial.item.2 := by
  induction trials with
  | nil => rfl
  | cons trial rest ih =>
      have hname := (hexits trial List.mem_cons_self).name_eq
      have hrest := ih fun later hlater => hexits later (List.mem_cons_of_mem _ hlater)
      rw [List.filterMap_cons, List.filter_cons]
      cases hupshot : trial.upshot with
      | skipped agent | placed agent errors =>
          rw [hupshot] at hname
          have hkept : (!(trial.upshot.isFailed)) = true := by
            rw [hupshot]
            rfl
          rw [hupshot] at hkept
          rw [if_pos hkept, List.map_cons, ← hrest, ← hname agent rfl]
          rfl
      | lookupFailed name error | refused name error => exact hrest

theorem length_messages :
    (trials.flatMap fun trial => trial.upshot.messages).length =
      (trials.countP fun trial => trial.upshot.isLookupFailed) +
        (trials.countP fun trial => trial.upshot.isRefused) +
        (trials.countP fun trial => trial.upshot.isJoinFailed) +
        trials.countP fun trial => trial.upshot.isDropFailed := by
  induction trials with
  | nil => rfl
  | cons trial rest ih =>
      have hfirst := (hexits trial List.mem_cons_self).length_messages
      have hrest := ih fun later hlater => hexits later (List.mem_cons_of_mem _ hlater)
      have hone : ∀ counted : Bool, counted.toNat = if counted = true then 1 else 0 := by
        intro counted
        cases counted <;> rfl
      simp only [List.flatMap_cons, List.length_append, List.countP_cons, hfirst, hrest, hone]
      omega

end Tallies

theorem Log.notedIn_start (log : Log ω) (dryRun : Bool) :
    log.notedIn (.start .tieredRoster dryRun) =
      { Report.start .tieredRoster dryRun with
        guildsCreated := log.guilds.countP fun trial => trial.upshot.isFounded
        agentsCreated := log.agents.countP fun trial => trial.upshot.isPlaced
        agentsSkipped := log.agents.countP fun trial => trial.upshot.isSkipped
        npcsSpawned := log.agents.countP fun trial => trial.upshot.isNpc
        errors := (log.guilds.flatMap fun trial => trial.upshot.messages) ++
          log.agents.flatMap fun trial => trial.upshot.messages
        agents := log.agents.filterMap fun trial => trial.upshot.agent?.map Agent.summary } := by
  rw [notedIn, Report.foldl_noteFounding, Report.foldl_notePlacement]
  simp [Report.start, List.countP_map, List.flatMap_map, List.filterMap_map, Function.comp_def]

theorem Tried.accounts {env : Environment ω} {plan : RosterPlan} {idempotent : Bool}
    {world after : ω} {log : Log ω}
    (h : Tried env plan false idempotent world log (.ok ()) after) :
    Accounts env plan idempotent log (log.notedIn (.start .tieredRoster false)) := by
  cases h with
  | @chartered guilds agents _ _ _ hguilds hagents =>
      have hchartered : ∀ trial ∈ guilds,
          Chartered env.store trial.item trial.before trial.upshot trial.after := by
        intro trial htrial
        have hway := chartered_found env.store trial.item trial.before
        rw [show found env.store trial.item trial.before = (trial.upshot, trial.after) from
          hguilds.act_eq trial htrial] at hway
        exact hway
      have hexits : ∀ trial ∈ agents, Exit env.store idempotent trial.item.1 trial.item.2
          trial.before trial.upshot trial.after := by
        intro trial htrial
        have hway := exit_placeNew env.store idempotent trial.item.1 trial.item.2 trial.before
        rw [show placeNew env.store idempotent trial.item.1 trial.item.2 trial.before =
          (trial.upshot, trial.after) from hagents.act_eq trial htrial] at hway
        exact hway
      have hcharters := hguilds.items_of_ok rfl
      have hitems := hagents.items_of_ok rfl
      rw [Log.notedIn_start]
      refine {
        success := rfl
        charters := hcharters
        items := hitems
        chartered := hchartered
        exits := hexits
        guildsCreated := rfl
        guilds := ?_
        agentsCreated := rfl
        agentsSkipped := rfl
        agents := ?_
        counted := plan.length_items
        announced := plan.agentCount_eq
        summaries := rfl
        names := names_summaries hexits
        listed := length_summaries agents
        npcs := ?_
        errors := rfl
        failures := ?_ }
      · rw [← hcharters, List.length_map]
        exact countP_founding guilds
      · rw [← hitems, List.length_map]
        exact countP_placement agents
      · refine List.countP_congr fun trial htrial => ?_
        rw [(hexits trial htrial).isNpc_eq]
      · rw [List.length_append, length_founding_messages, length_messages hexits]

/-- No check that a run makes is answered with a halt. -/
def Uncancelled (env : Environment ω) (plan : RosterPlan) (dryRun idempotent : Bool) (world : ω) :
    Prop :=
  ∀ log halt after, ¬ Tried env plan dryRun idempotent world log (.error halt) after

theorem Tries.ok_of_check {α β : Type} {env : Environment ω} {announce : α → Nat → ProgressEvent}
    {act : α → ω → β × ω} {number : Nat} {items : List α} {world last : ω}
    {log : List (Trial α β ω)} {result : Except Halt Unit}
    (hpermit : ∀ world, (env.check world).1 = .ok ())
    (h : Tries env announce act number items world log result last) : result = .ok () := by
  induction h with
  | done => rfl
  | @halted _ _ _ world _ _ hcheck =>
      have hleave := hpermit world
      rw [hcheck] at hleave
      cases hleave
  | next hcheck hact hrest ih => exact ih

theorem uncancelled_of_check {env : Environment ω} (hpermit : ∀ world, (env.check world).1 = .ok ())
    (plan : RosterPlan) (dryRun idempotent : Bool) (world : ω) :
    Uncancelled env plan dryRun idempotent world := by
  rintro log halt after h
  cases h with
  | halted hguilds => cases hguilds.ok_of_check hpermit
  | chartered hguilds hagents => cases hagents.ok_of_check hpermit

/-- A run of a valid plan that is not halted returns a report in which every charter and every item
is accounted for, whatever the store answers. -/
theorem seed_accounts (env : Environment ω) (plan : RosterPlan) (idempotent : Bool) (world : ω)
    (hvalid : plan.validate = .ok ()) (huncancelled : Uncancelled env plan false idempotent world) :
    ∃ report log after, seed env plan false idempotent world = (.ok report, after) ∧
      Tried env plan false idempotent world log (.ok ()) after ∧
        Accounts env plan idempotent log report := by
  obtain ⟨log, result, after, htried, hseed⟩ := tried_seed env plan false idempotent hvalid world
  cases result with
  | error halt => exact absurd htried (huncancelled log halt after)
  | ok done => exact ⟨_, log, after, hseed, htried, htried.accounts⟩

/-- The first of two scouts is there already. The charter of their guild fails, and so the second
one cannot join; nor can it be stored again without the guild. -/
theorem seed_accounts_scouts :
    let env := { Rehearsal.quiet with check := fun world => (.ok (), world) }
    let batch : AgentBatch :=
      { pattern := "scout-{n}", count := 2, level := 3, skills := [], modelSettings := none,
        isNpc := true, guildId := some "guides", firstOrdinal := 1 }
    let plan := { RosterPlan.solo "scout-{n}" (some "guides") with batches := [batch] }
    let world := { Rehearsal.onStore
        (Store.empty.save (Agent.create "guildhall.agent.scout-1" "scout-1" 5)) with
      storeCalls := .create [("put_guild", [1]), ("put_agent", [2])] }
    (plan.validate = .ok () ∧ Uncancelled env plan false true world) ∧
      ∃ report log after, seed env plan false true world = (.ok report, after) ∧
        Tried env plan false true world log (.ok ()) after ∧ Accounts env plan true log report ∧
          (report.guildsCreated, report.agentsCreated, report.agentsSkipped, report.npcsSpawned,
            report.errors.length) = (0, 1, 1, 1, 3) := by
  intro env batch plan world
  have hcounts : ((seed env plan false true world).1.toOption.map fun report =>
      (report.guildsCreated, report.agentsCreated, report.agentsSkipped, report.npcsSpawned,
        report.errors.length)) = some (0, 1, 1, 1, 3) := by decide +kernel
  obtain ⟨done, left, hdone, -⟩ := exists_ok_of_map hcounts
  have hvalid := validate_of_seed hdone
  have huncancelled : Uncancelled env plan false true world :=
    uncancelled_of_check (fun _ => rfl) plan false true world
  obtain ⟨report, log, after, hseed, htried, haccounts⟩ :=
    seed_accounts env plan true world hvalid huncancelled
  rw [hseed] at hcounts
  exact ⟨⟨hvalid, huncancelled⟩, report, log, after, hseed, htried, haccounts,
    Option.some.inj hcounts⟩

end Roster

end QuestAcademy
