import QuestAcademy.Proofs.GuildMembership
import QuestAcademy.Proofs.RosterAccounting

namespace QuestAcademy

variable {ω : Type}

theorem Names.not_mem_erase (name : String) (names : List String) : name ∉ erase name names := by
  simp [erase]

namespace Store

def Lists (store : Store) (key guildId : String) : Prop :=
  ∃ agent, store.agents.find? key = some agent ∧ guildId ∈ agent.guilds

variable {store : Store}

theorem lists_iff_of_find? {key : String} {agent : Agent}
    (h : store.agents.find? key = some agent) (guildId : String) :
    store.Lists key guildId ↔ guildId ∈ agent.guilds := by
  simp only [Lists, h, Option.some.injEq, exists_eq_left']

theorem after_putAgent_of_error {key : String} {agent : Agent} {e : StoreError}
    (h : (store.putAgent key agent).1 = .error e) : (store.putAgent key agent).2 = store := by
  unfold putAgent at h ⊢
  split
  · rfl
  · rename_i hwrites
    rw [if_neg hwrites] at h
    cases h

theorem after_putAgent_of_ok {key : String} {agent : Agent}
    (h : (store.putAgent key agent).1 = .ok ()) :
    (store.putAgent key agent).2 = { store with agents := store.agents.put key agent } := by
  unfold putAgent at h ⊢
  split
  · rename_i hwrites
    rw [if_pos hwrites] at h
    cases h
  · rfl

theorem after_updateGuild_of_error {id : String} {change : Guild → Guild} {e : StoreError}
    (h : (store.updateGuild id change).1 = .error e) :
    (store.updateGuild id change).2 = store := by
  unfold updateGuild at h ⊢
  split at h
  · cases h
  · rfl

theorem after_updateGuild_of_ok {id : String} {change : Guild → Guild}
    (h : (store.updateGuild id change).1 = .ok ()) :
    ∃ guild, store.guild? id = some guild ∧ (store.updateGuild id change).2 =
      { store with guilds := Keyed.insert id (change guild) store.guilds } := by
  unfold updateGuild at h ⊢
  unfold guild?
  split at h
  · rename_i guild hguild
    exact ⟨guild, hguild, rfl⟩
  · cases h

end Store

namespace HallView

variable {view : HallView ω} {world after : ω} {α : Type} {call : ω → Except StoreError α × ω}
  {op : Store → Except StoreError α × Store}

theorem OnStore.hall_of_error (h : view.OnStore call op) {e : StoreError}
    (hop : ∀ store, (op store).1 = .error e → (op store).2 = store)
    (hcall : call world = (.error e, after)) : view.hall after = view.hall world := by
  obtain ⟨-, ⟨-, -, hkept⟩ | ⟨hanswer, hafter⟩⟩ := h world
  · rw [hcall] at hkept
    exact hkept
  · rw [hcall] at hanswer hafter
    rw [hop _ hanswer.symm] at hafter
    exact hafter

theorem OnStore.hall_of_ok (h : view.OnStore call op) {answer : α}
    (hcall : call world = (.ok answer, after)) :
    view.hall after = { view.hall world with store := (op (view.hall world).store).2 } := by
  obtain ⟨-, ⟨-, ⟨e, he⟩, -⟩ | ⟨-, hafter⟩⟩ := h world
  · rw [hcall] at he
    cases he
  · rw [hcall] at hafter
    exact hafter

end HallView

namespace Hall

/-- The agent is put under the key, and all else stays. -/
structure Puts (key : String) (agent : Agent) (before after : Hall) : Prop where
  board : after.board = before.board
  agent : ∀ other, after.store.agents.find? other =
    if other = key then some agent else before.store.agents.find? other
  guild : ∀ id, after.store.guild? id = before.store.guild? id

/-- The guild, which is there, gets the member if it does not have it yet, and all else stays. -/
structure Enlists (guildId agentId : String) (before after : Hall) : Prop where
  board : after.board = before.board
  agents : after.store.agents = before.store.agents
  exists_guild : (before.store.guild? guildId).isSome = true
  guild : ∀ id, after.store.guild? id = (before.store.guild? id).map fun guild =>
    if id = guildId then guild.addMember agentId else guild

/-- Nothing changes but the agent under the key, the guild, and the place of the one in the other.
-/
structure Touches (space key guildId : String) (before after : Hall) : Prop where
  board : after.board = before.board
  agent : ∀ other, other ≠ key →
    after.store.agents.find? other = before.store.agents.find? other
  guild : ∀ id, id ≠ guildId → after.store.guild? id = before.store.guild? id
  member : ∀ other, other ≠ key →
    (after.store.HasMember space guildId other ↔ before.store.HasMember space guildId other)

variable {space key guildId : String} {agent : Agent} {before between after : Hall}

theorem Touches.refl (hall : Hall) : hall.Touches space key guildId hall :=
  ⟨rfl, fun _ _ => rfl, fun _ _ => rfl, fun _ _ => Iff.rfl⟩

theorem Touches.trans (hfirst : before.Touches space key guildId between)
    (hsecond : between.Touches space key guildId after) :
    before.Touches space key guildId after where
  board := hsecond.board.trans hfirst.board
  agent := fun other hother => (hsecond.agent other hother).trans (hfirst.agent other hother)
  guild := fun id hid => (hsecond.guild id hid).trans (hfirst.guild id hid)
  member := fun other hother => (hsecond.member other hother).trans (hfirst.member other hother)

theorem Puts.find? (h : before.Puts key agent after) :
    after.store.agents.find? key = some agent := by
  rw [h.agent, if_pos rfl]

theorem Puts.hasMember_iff (h : before.Puts key agent after) (other : String) :
    after.store.HasMember space guildId other ↔ before.store.HasMember space guildId other := by
  unfold Store.HasMember
  rw [h.guild]

theorem Puts.touches (h : before.Puts key agent after) :
    before.Touches space key guildId after where
  board := h.board
  agent := by
    intro other hother
    rw [h.agent, if_neg hother]
  guild := fun id _ => h.guild id
  member := fun other _ => h.hasMember_iff other

theorem Enlists.hasMember_iff (h : before.Enlists guildId (entityId space key) after)
    (other : String) :
    after.store.HasMember space guildId other ↔
      other = key ∨ before.store.HasMember space guildId other := by
  obtain ⟨guild, hguild⟩ := Option.isSome_iff_exists.mp h.exists_guild
  have hafter : after.store.guild? guildId = some (guild.addMember (entityId space key)) := by
    rw [h.guild, hguild, Option.map_some, if_pos rfl]
  simp only [Store.HasMember, hguild, hafter, Option.some.injEq, exists_eq_left',
    Guild.mem_addMember, entityId_inj]

theorem Enlists.touches (h : before.Enlists guildId (entityId space key) after) :
    before.Touches space key guildId after where
  board := h.board
  agent := by
    intro other _
    rw [h.agents]
  guild := by
    intro id hid
    simp only [h.guild, if_neg hid, Option.map_id']
  member := by
    intro other hother
    rw [h.hasMember_iff, or_iff_right hother]

end Hall

namespace Environment

variable {env : Environment ω} {view : HallView ω} {world after : ω} {e : StoreError}
  (hosts : env.Hosts view)
include hosts

theorem Hosts.puts {key : String} {agent : Agent}
    (hcall : env.store.putAgent key agent world = (.ok (), after)) :
    (view.hall world).Puts key agent (view.hall after) := by
  have hput := Store.after_putAgent_of_ok ((hosts.putAgent key agent).op_of_ok hcall)
  rw [(hosts.putAgent key agent).hall_of_ok hcall, hput]
  refine ⟨rfl, ?_, fun _ => rfl⟩
  intro other
  exact AgentTable.find?_put (view.hall world).store.agents key other agent

theorem Hosts.putAgent_failed {key : String} {agent : Agent}
    (hcall : env.store.putAgent key agent world = (.error e, after)) :
    view.hall after = view.hall world :=
  (hosts.putAgent key agent).hall_of_error (fun _ => Store.after_putAgent_of_error) hcall

theorem Hosts.enlists {guildId agentId : String}
    (hcall : env.store.updateGuild guildId (fun guild => guild.addMember agentId) world =
      (.ok (), after)) :
    (view.hall world).Enlists guildId agentId (view.hall after) := by
  have hupdate := hosts.updateGuild guildId fun guild => guild.addMember agentId
  obtain ⟨guild, hguild, hafter⟩ := Store.after_updateGuild_of_ok (hupdate.op_of_ok hcall)
  rw [hupdate.hall_of_ok hcall, hafter]
  refine ⟨rfl, rfl, by rw [hguild]; rfl, ?_⟩
  intro id
  show Keyed.find? id _ = _
  rw [Keyed.find?_insert]
  split
  · rename_i hid
    rw [hid, hguild, Option.map_some]
  · rw [Option.map_id']
    rfl

theorem Hosts.updateGuild_failed {guildId : String} {change : Guild → Guild}
    (hcall : env.store.updateGuild guildId change world = (.error e, after)) :
    view.hall after = view.hall world :=
  (hosts.updateGuild guildId change).hall_of_error
    (fun _ => Store.after_updateGuild_of_error) hcall

end Environment

namespace Roster

/-- What the store answers when an agent is stored, when it joins its guild, and when it is stored
without the guild, each call made in the world that the one before it leaves. -/
structure JoinAnswers where
  stored : Except StoreError Unit
  joined : Except StoreError Unit
  dropped : Except StoreError Unit

def joinAnswers (store : StoreAccess ω) (batch : AgentBatch) (name guildId : String) (world : ω) :
    JoinAnswers :=
  let stored := store.putAgent (instanceKey name) (applicant store batch name) world
  let joined := store.updateGuild guildId
    (fun guild => guild.addMember (store.agentId (instanceKey name))) stored.2
  let dropped :=
    store.putAgent (instanceKey name) (outsider store batch name guildId) joined.2
  { stored := stored.1, joined := joined.1, dropped := dropped.1 }

/-- The four ways of an agent to its guild. Of the answers only those are looked at that are needed.
-/
inductive Joining (store : StoreAccess ω) (batch : AgentBatch) (name guildId : String)
    (before : Hall) : JoinAnswers → Placement → Hall → Prop
  | refused {e : StoreError} {joined dropped : Except StoreError Unit} :
      Joining store batch name guildId before ⟨.error e, joined, dropped⟩ (.refused name e) before
  | joined {dropped : Except StoreError Unit} {between after : Hall}
      (hputs : before.Puts (instanceKey name) (applicant store batch name) between)
      (henlists : between.Enlists guildId (entityId store.space (instanceKey name)) after) :
      Joining store batch name guildId before ⟨.ok (), .ok (), dropped⟩
        (.placed (applicant store batch name) []) after
  | dropped {e : StoreError} {between after : Hall}
      (hputs : before.Puts (instanceKey name) (applicant store batch name) between)
      (hdrops : between.Puts (instanceKey name) (outsider store batch name guildId) after) :
      Joining store batch name guildId before ⟨.ok (), .error e, .ok ()⟩
        (.placed (outsider store batch name guildId) [.join name guildId e]) after
  | undropped {e d : StoreError} {after : Hall}
      (hputs : before.Puts (instanceKey name) (applicant store batch name) after) :
      Joining store batch name guildId before ⟨.ok (), .error e, .error d⟩
        (.placed (outsider store batch name guildId) [.join name guildId e, .drop name d]) after

/-- Whatever calls fail, the record of the agent and that of its guild agree in the end, or the
report tells of the call that failed. -/
structure AgreesOrTells (store : StoreAccess ω) (name guildId : String) (before : Hall)
    (answers : JoinAnswers) (placement : Placement) (after : Hall) : Prop where
  refused : ∀ e, placement = .refused name e ↔ answers.stored = .error e
  unchanged : ∀ e, placement = .refused name e → after = before
  placed : answers.stored = .ok () ↔ ∃ agent errors, placement = .placed agent errors
  newly : ¬ before.store.HasMember store.space guildId (instanceKey name) →
    after.store.HasMember store.space guildId (instanceKey name) →
      after.store.Lists (instanceKey name) guildId
  joined : answers.stored = .ok () → answers.joined = .ok () →
    after.store.Lists (instanceKey name) guildId ∧
      after.store.HasMember store.space guildId (instanceKey name) ∧
      ∀ report : Report, (report.notePlacement placement).errors = report.errors
  unjoined : ∀ e, answers.joined = .error e → ∀ id, after.store.guild? id = before.store.guild? id
  dropped : ∀ e, answers.stored = .ok () → answers.joined = .error e → answers.dropped = .ok () →
    ¬ after.store.Lists (instanceKey name) guildId ∧
      ∀ report : Report, (report.notePlacement placement).errors =
        report.errors ++ [(MembershipError.join name guildId e).message]
  undropped : ∀ e d, answers.stored = .ok () → answers.joined = .error e →
    answers.dropped = .error d →
      after.store.Lists (instanceKey name) guildId ∧
        ∀ report : Report, (report.notePlacement placement).errors = report.errors ++
          [(MembershipError.join name guildId e).message, (MembershipError.drop name d).message]
  returned : ∀ agent errors, placement = .placed agent errors →
    (guildId ∈ agent.guilds ↔ answers.joined = .ok ())
  kept : ∀ agent errors, placement = .placed agent errors →
    answers.joined = .ok () ∨ answers.dropped = .ok () →
      after.store.agents.find? (instanceKey name) = some agent
  borne : ∀ agent errors, placement = .placed agent errors →
    agent.name = name ∧ agent.id = entityId store.space (instanceKey name)
  touched : before.Touches store.space (instanceKey name) guildId after

section Ways

variable {store : StoreAccess ω} {batch : AgentBatch} {name guildId : String} {before after : Hall}
  {answers : JoinAnswers} {placement : Placement}

theorem mem_guilds_applicant (hguild : batch.guildId = some guildId) :
    guildId ∈ (applicant store batch name).guilds := by
  simp only [applicant, hguild]
  exact (Names.mem_insert guildId guildId _).mpr (.inl rfl)

theorem not_mem_guilds_outsider : guildId ∉ (outsider store batch name guildId).guilds :=
  Names.not_mem_erase guildId _

theorem Joining.touches (h : Joining store batch name guildId before answers placement after) :
    before.Touches store.space (instanceKey name) guildId after := by
  cases h with
  | refused => exact .refl before
  | joined hputs henlists => exact hputs.touches.trans henlists.touches
  | dropped hputs hdrops => exact hputs.touches.trans hdrops.touches
  | undropped hputs => exact hputs.touches

theorem Joining.guild_eq (h : Joining store batch name guildId before answers placement after)
    {e : StoreError} (hjoined : answers.joined = .error e) (id : String) :
    after.store.guild? id = before.store.guild? id := by
  cases h with
  | refused => rfl
  | joined => cases hjoined
  | dropped hputs hdrops => exact (hdrops.guild id).trans (hputs.guild id)
  | undropped hputs => exact hputs.guild id

theorem Joining.mem_guilds_iff (h : Joining store batch name guildId before answers placement after)
    (hguild : batch.guildId = some guildId) {agent : Agent} {errors : List MembershipError}
    (hplaced : placement = .placed agent errors) :
    guildId ∈ agent.guilds ↔ answers.joined = .ok () := by
  cases h with
  | refused => cases hplaced
  | joined =>
      cases hplaced
      exact iff_of_true (mem_guilds_applicant hguild) rfl
  | dropped | undropped =>
      cases hplaced
      exact iff_of_false not_mem_guilds_outsider (by simp)

theorem Joining.name_and_id (h : Joining store batch name guildId before answers placement after)
    {agent : Agent} {errors : List MembershipError} (hplaced : placement = .placed agent errors) :
    agent.name = name ∧ agent.id = entityId store.space (instanceKey name) := by
  have happlicant : (applicant store batch name).name = name ∧
      (applicant store batch name).id = entityId store.space (instanceKey name) := by
    rw [applicant_eq]
    exact ⟨rfl, rfl⟩
  cases h with
  | refused => cases hplaced
  | joined | dropped | undropped =>
      cases hplaced
      exact happlicant

theorem Joining.find? (h : Joining store batch name guildId before answers placement after)
    {agent : Agent} {errors : List MembershipError} (hplaced : placement = .placed agent errors)
    (hlast : answers.joined = .ok () ∨ answers.dropped = .ok ()) :
    after.store.agents.find? (instanceKey name) = some agent := by
  cases h with
  | refused => cases hplaced
  | joined hputs henlists =>
      cases hplaced
      rw [henlists.agents]
      exact hputs.find?
  | dropped hputs hdrops =>
      cases hplaced
      exact hdrops.find?
  | undropped => rcases hlast with hjoined | hdropped <;> contradiction

theorem Joining.both (h : Joining store batch name guildId before answers placement after)
    (hguild : batch.guildId = some guildId) (hstored : answers.stored = .ok ())
    (hjoined : answers.joined = .ok ()) :
    after.store.Lists (instanceKey name) guildId ∧
      after.store.HasMember store.space guildId (instanceKey name) := by
  cases h with
  | refused => cases hstored
  | joined hputs henlists =>
      refine ⟨?_, (henlists.hasMember_iff _).mpr (.inl rfl)⟩
      unfold Store.Lists
      rw [henlists.agents]
      exact ⟨_, hputs.find?, mem_guilds_applicant hguild⟩
  | dropped | undropped => cases hjoined

theorem Joining.lists_of_newly
    (h : Joining store batch name guildId before answers placement after)
    (hguild : batch.guildId = some guildId)
    (hbefore : ¬ before.store.HasMember store.space guildId (instanceKey name))
    (hafter : after.store.HasMember store.space guildId (instanceKey name)) :
    after.store.Lists (instanceKey name) guildId := by
  have hunjoined : ∀ e, answers.joined ≠ .error e := by
    rintro e hjoined
    apply hbefore
    unfold Store.HasMember at hafter ⊢
    rw [← h.guild_eq hjoined]
    exact hafter
  have hboth := h.both hguild
  cases h with
  | refused => exact absurd hafter hbefore
  | joined => exact (hboth rfl rfl).1
  | dropped | undropped => exact absurd rfl (hunjoined _)

theorem Joining.agreesOrTells (h : Joining store batch name guildId before answers placement after)
    (hguild : batch.guildId = some guildId) :
    AgreesOrTells store name guildId before answers placement after where
  refused := by
    intro e
    cases h <;> simp
  unchanged := by
    intro e hrefused
    cases h with
    | refused => rfl
    | joined | dropped | undropped => cases hrefused
  placed := by
    cases h <;> simp
  newly := h.lists_of_newly hguild
  joined := by
    intro hstored hjoined
    obtain ⟨hlists, hmember⟩ := h.both hguild hstored hjoined
    refine ⟨hlists, hmember, ?_⟩
    intro report
    cases h with
    | refused => cases hstored
    | joined => exact List.append_nil report.errors
    | dropped | undropped => cases hjoined
  unjoined := fun e => h.guild_eq
  dropped := by
    intro e hstored hjoined hdropped
    cases h with
    | refused => cases hstored
    | joined => cases hjoined
    | undropped => cases hdropped
    | dropped hputs hdrops =>
        cases hjoined
        rw [Store.lists_iff_of_find? hdrops.find?]
        exact ⟨not_mem_guilds_outsider, fun _ => rfl⟩
  undropped := by
    intro e d hstored hjoined hdropped
    cases h with
    | refused => cases hstored
    | joined => cases hjoined
    | dropped => cases hdropped
    | undropped hputs =>
        cases hjoined
        cases hdropped
        exact ⟨⟨_, hputs.find?, mem_guilds_applicant hguild⟩, fun _ => rfl⟩
  returned := fun agent errors => h.mem_guilds_iff hguild
  kept := fun agent errors => h.find?
  borne := fun agent errors => h.name_and_id
  touched := h.touches

end Ways

section Placing

variable {env : Environment ω} {view : HallView ω} {batch : AgentBatch} {guildId : String}

theorem joining_place (hosts : env.Hosts view) (hguild : batch.guildId = some guildId)
    (name : String) (world : ω) :
    Joining env.store batch name guildId (view.hall world)
      (joinAnswers env.store batch name guildId world) (place env.store batch name world).1
      (view.hall (place env.store batch name world).2) := by
  rw [place_of_joining hguild, joinAnswers]
  split <;> rename_i hput <;> simp only [hput]
  · rw [hosts.putAgent_failed hput]
    exact .refused
  · split <;> rename_i hjoin <;> simp only [hjoin]
    · exact .joined (hosts.puts hput) (hosts.enlists hjoin)
    · -- The call that failed left the record that the agent is stored over.
      have hjoined := hosts.updateGuild_failed hjoin
      split <;> rename_i hdrop <;> simp only [hdrop]
      · refine .dropped (hosts.puts hput) ?_
        rw [← hjoined]
        exact hosts.puts hdrop
      · rw [hosts.putAgent_failed hdrop, hjoined]
        exact .undropped (hosts.puts hput)

/-- Placing an agent in a guild is all or recorded, whatever the store holds and whichever of the
calls fail. -/
theorem place_agreesOrTells (hosts : env.Hosts view) (hguild : batch.guildId = some guildId)
    (name : String) (world : ω) :
    AgreesOrTells env.store name guildId (view.hall world)
      (joinAnswers env.store batch name guildId world) (place env.store batch name world).1
      (view.hall (place env.store batch name world).2) :=
  (joining_place hosts hguild name world).agreesOrTells hguild

/-- The scout cannot join the guides, and its record cannot be mended: it goes on to list them. -/
theorem place_agreesOrTells_scout :
    let batch : AgentBatch :=
      { pattern := "scout-{n}", count := 1, level := 3, skills := ["tracking"]
        modelSettings := none, isNpc := false, guildId := some "guides", firstOrdinal := 1 }
    let guides := Guild.found "guides" "Guides" "" "" 1
    let world := { Rehearsal.onStore (Store.empty.putGuild "guides" guides).2 with
      storeCalls := .create [("update_guild", [1]), ("put_agent", [2])] }
    let answers := joinAnswers Rehearsal.quiet.store batch "scout-1" "guides" world
    let placing := place Rehearsal.quiet.store batch "scout-1" world
    (Rehearsal.quiet.Hosts Rehearsal.hallView ∧ batch.guildId = some "guides") ∧
      AgreesOrTells Rehearsal.quiet.store "scout-1" "guides" (Rehearsal.hallView.hall world)
        answers placing.1 (Rehearsal.hallView.hall placing.2) ∧
      answers.stored = .ok () ∧ answers.joined = .error (.injected "update_guild" 1) ∧
      answers.dropped = .error (.injected "put_agent" 2) ∧
      (placing.2.store.agents.find? "scout-1").map Agent.guilds = some ["guides"] ∧
      (placing.2.store.guild? "guides").map Guild.members = some [] := by
  intro batch guides world answers placing
  refine ⟨⟨Rehearsal.hosts_quiet, rfl⟩,
    place_agreesOrTells Rehearsal.hosts_quiet rfl "scout-1" world, ?_⟩
  decide +kernel

end Placing

end Roster

end QuestAcademy
