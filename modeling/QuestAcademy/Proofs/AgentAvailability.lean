import Mathlib.Data.List.Induction
import QuestAcademy.Proofs.VerdictLedger

namespace QuestAcademy

/-- The agent has claimed the quest and is still at work on it. -/
def Board.Engages (board : Board) (agentId questId : String) : Prop :=
  ∃ quest, board.quest? questId = some quest ∧ quest.claimedBy = some agentId ∧
    quest.status.isActive = true

instance (board : Board) (agentId questId : String) : Decidable (board.Engages agentId questId) :=
  decidable_of_iff (∃ quest ∈ board.quest? questId, quest.claimedBy = some agentId ∧
    quest.status.isActive = true) (by simp [Board.Engages])

namespace Hall

/-- Agents are idle or busy, and those who are busy are on a quest. -/
structure BusyOnQuests (hall : Hall) : Prop where
  idle_or_busy : ∀ key agent, hall.store.agents.find? key = some agent →
    agent.status = .idle ∨ agent.status = .busy
  engaged : ∀ key agent, hall.store.agents.find? key = some agent → agent.status = .busy →
    ∃ questId, hall.board.Engages agent.id questId

/-- Besides, agents on a quest are busy, and no agent is on two quests. -/
structure BusyExactlyOnQuests (hall : Hall) : Prop extends hall.BusyOnQuests where
  busy : ∀ key agent, hall.store.agents.find? key = some agent →
    ∀ questId, hall.board.Engages agent.id questId → agent.status = .busy
  single : ∀ agentId questId other, hall.board.Engages agentId questId →
    hall.board.Engages agentId other → questId = other

/-- The call gives a second quest to an agent who is on one, or gives a finished quest up whose
claimant is on another one. -/
def Disturbs (hall : Hall) : BoardCall → Prop
  | .claim questId agentId =>
      hall.Allows (.claim questId agentId) ∧ ∃ other, hall.board.Engages agentId other
  | .abandon questId =>
      ∃ quest agentId other, hall.board.quest? questId = some quest ∧
        quest.status.isActive = false ∧ quest.claimedBy = some agentId ∧
          hall.board.Engages agentId other
  | .post _ | .start _ | .submit _ _ _ => False

end Hall

namespace Board

variable {board : Board} {questId : String} {quest : Quest}

theorem engages_add (board : Board) (draft : Draft) (agentId other : String) :
    (board.add (board.fresh draft)).Engages agentId other ↔ board.Engages agentId other := by
  unfold Engages
  rw [quest?_add]
  cases hfound : board.quest? other with
  | some found => rw [Option.some_or]
  | none =>
      rw [Option.none_or]
      constructor
      · rintro ⟨new, hnew, hclaimant, -⟩
        split at hnew
        · cases hnew
          cases hclaimant
        · cases hnew
      · rintro ⟨new, hnew, -⟩
        cases hnew

theorem engages_change {f : Quest → Quest} (hid : ∀ q, (f q).id = q.id)
    (hquest : board.quest? questId = some quest) (agentId other : String) :
    (board.change questId f).Engages agentId other ↔
      if other = questId then
        (f quest).claimedBy = some agentId ∧ (f quest).status.isActive = true
      else board.Engages agentId other := by
  unfold Engages
  rw [quest?_change board questId other hid]
  by_cases hsame : other = questId
  · rw [hsame, hquest]
    simp
  · cases hfound : board.quest? other with
    | none => simp [hsame]
    | some found => simp [hsame]

theorem engages_self_iff (hquest : board.quest? questId = some quest) (agentId : String) :
    board.Engages agentId questId ↔
      quest.claimedBy = some agentId ∧ quest.status.isActive = true := by
  simp [Engages, hquest]

theorem engages_assign (hquest : board.quest? questId = some quest)
    (hposted : quest.status = .posted) (claimant agentId other : String) :
    (board.assign questId claimant).Engages agentId other ↔
      agentId = claimant ∧ other = questId ∨ board.Engages agentId other := by
  have hchange := engages_change (f := fun quest =>
    { quest with status := .claimed, claimedBy := some claimant }) (fun _ => rfl) hquest agentId
    other
  have hopen : ¬ board.Engages agentId questId := by
    rw [engages_self_iff hquest, hposted]
    rintro ⟨-, hactive⟩
    cases hactive
  rw [assign, hchange]
  by_cases hsame : other = questId
  · simp [hsame, hopen, QuestStatus.isActive, eq_comm]
  · simp [hsame]

theorem engages_start (hquest : board.quest? questId = some quest)
    (hclaimed : quest.status = .claimed) (agentId other : String) :
    (board.setStatus questId .inProgress).Engages agentId other ↔
      board.Engages agentId other := by
  have hchange := engages_change (f := fun quest => { quest with status := .inProgress })
    (fun _ => rfl) hquest agentId other
  rw [setStatus, hchange]
  by_cases hsame : other = questId
  · simp [hsame, engages_self_iff hquest, hclaimed, QuestStatus.isActive]
  · simp [hsame]

theorem engages_finish {status : QuestStatus} (hquest : board.quest? questId = some quest)
    (hover : status.isActive = false) (agentId other : String) :
    (board.setStatus questId status).Engages agentId other ↔
      other ≠ questId ∧ board.Engages agentId other := by
  have hchange := engages_change (f := fun quest => { quest with status }) (fun _ => rfl) hquest
    agentId other
  rw [setStatus, hchange]
  by_cases hsame : other = questId <;> simp [hsame, hover]

theorem engages_withdraw (hquest : board.quest? questId = some quest) (agentId other : String) :
    (board.withdraw questId quest).Engages agentId other ↔
      other ≠ questId ∧ board.Engages agentId other := by
  unfold withdraw
  split
  · exact engages_finish hquest rfl agentId other
  · rename_i hover
    refine (and_iff_right_of_imp ?_).symm
    rintro hengages rfl
    exact hover ((engages_self_iff hquest agentId).mp hengages).2

theorem isActive_finalStatus (verdict : Verdict) : verdict.finalStatus.isActive = false := by
  unfold Verdict.finalStatus
  split <;> rfl

end Board

namespace Hall

variable {space : String} {hall after : Hall} {call : BoardCall}
  {answer : Except BoardError BoardAnswer}

/-- What a call does to who is at work and who is busy: nothing, or one agent takes a quest up, or
lays one down, or a quest is left that did not keep its claimant busy. -/
inductive Turn (hall after : Hall) : BoardCall → Prop
  | same {call : BoardCall} (hagents : after.store.agents = hall.store.agents)
      (hengages : ∀ agentId questId,
        after.board.Engages agentId questId ↔ hall.board.Engages agentId questId) :
      Turn hall after call
  | takesUp {questId claimant : String} {old agent : Agent}
      (hallows : hall.Allows (.claim questId claimant))
      (hold : hall.store.load? claimant = some old) (hstore : after.store = hall.store.save agent)
      (hname : agent.name = old.name) (hid : agent.id = old.id) (hbusy : agent.status = .busy)
      (hengages : ∀ agentId other, after.board.Engages agentId other ↔
        agentId = claimant ∧ other = questId ∨ hall.board.Engages agentId other) :
      Turn hall after (.claim questId claimant)
  | laysDown {call : BoardCall} {questId claimant : String} {old agent : Agent}
      (hold : hall.store.load? claimant = some old) (hstore : after.store = hall.store.save agent)
      (hname : agent.name = old.name) (hid : agent.id = old.id) (hidle : agent.status = .idle)
      (hmine : hall.board.Engages claimant questId ∨ ∃ quest, call = .abandon questId ∧
        hall.board.quest? questId = some quest ∧ quest.status.isActive = false ∧
          quest.claimedBy = some claimant)
      (hengages : ∀ agentId other, after.board.Engages agentId other ↔
        other ≠ questId ∧ hall.board.Engages agentId other)
      (honly : ∀ agentId, hall.board.Engages agentId questId → agentId = claimant) :
      Turn hall after call
  | leaves {call : BoardCall} {questId : String} (hagents : after.store = hall.store)
      (hengages : ∀ agentId other, after.board.Engages agentId other ↔
        other ≠ questId ∧ hall.board.Engages agentId other)
      (hfree : ∀ agentId, hall.board.Engages agentId questId →
        ∃ agent, hall.store.load? agentId = some agent ∧ agent.status ≠ .busy) :
      Turn hall after call

theorem Consistent.turn (h : hall.Consistent space) (hstep : hall.Step call answer after) :
    hall.Turn after call := by
  cases hanswer : answer with
  | error e =>
      rw [hanswer] at hstep
      rw [h.eq_of_error hstep]
      exact .same rfl fun _ _ => Iff.rfl
  | ok result =>
      rw [hanswer] at hstep
      cases hstep with
      | posted => exact .same rfl (Board.engages_add hall.board _)
      | claimed hallows hquest hstatus hagent =>
          exact .takesUp hallows hagent rfl rfl rfl rfl (Board.engages_assign hquest hstatus _)
      | started _ hquest hstatus => exact .same rfl (Board.engages_start hquest hstatus)
      | @settled questId _ verdict quest claimant agent _ hquest hstatus hclaimant hagent =>
          have hself := Board.engages_self_iff hquest
          refine .laysDown hagent rfl (Board.name_applyVerdict _ _ agent)
            (Board.id_applyVerdict _ _ agent) rfl (.inl ?_)
            (Board.engages_finish hquest (Board.isActive_finalStatus verdict)) ?_
          · rw [hself, hstatus]
            exact ⟨hclaimant, rfl⟩
          · intro agentId hengages
            have hagentId := ((hself agentId).mp hengages).1
            exact Option.some.inj (hagentId.symm.trans hclaimant)
      | @withdrawn questId quest _ hquest hfree =>
          refine .leaves rfl (Board.engages_withdraw hquest) ?_
          intro agentId hengages
          exact hfree agentId ((Board.engages_self_iff hquest agentId).mp hengages).1
      | @released questId quest claimant agent _ hquest hclaimant hagent =>
          have hself := Board.engages_self_iff hquest
          refine .laysDown hagent rfl rfl rfl rfl ?_ (Board.engages_withdraw hquest) ?_
          · cases hactive : quest.status.isActive with
            | true => exact .inl ((hself claimant).mpr ⟨hclaimant, hactive⟩)
            | false => exact .inr ⟨quest, rfl, hquest, hactive, hclaimant⟩
          · intro agentId hengages
            have hagentId := ((hself agentId).mp hengages).1
            exact Option.some.inj (hagentId.symm.trans hclaimant)

theorem Consistent.stored_save (h : hall.Consistent space) {id key : String}
    {old agent found : Agent} (hold : hall.store.load? id = some old)
    (hname : agent.name = old.name) (hid : agent.id = old.id)
    (hfound : (hall.store.save agent).agents.find? key = some found) :
    found = agent ∧ agent.id = id ∨ found.id ≠ id ∧ hall.store.agents.find? key = some found := by
  obtain ⟨own, hown, hownId, hsaved⟩ := h.find?_save hold agent hname
  rw [hsaved] at hfound
  by_cases hkey : key = own
  · rw [if_pos hkey] at hfound
    exact .inl ⟨(Option.some.inj hfound).symm, by rw [hid, h.keyed.id own old hown, hownId]⟩
  · rw [if_neg hkey] at hfound
    refine .inr ⟨?_, hfound⟩
    rw [h.keyed.id key found hfound, hownId]
    exact fun hsame => hkey ((entityId_inj space).mp hsame)

theorem Consistent.load?_id (h : hall.Consistent space) {key : String} {agent : Agent}
    (hagent : hall.store.agents.find? key = some agent) :
    hall.store.load? agent.id = some agent :=
  (h.keyed.load?_eq_some_iff h.working.reads).mpr ⟨key, hagent, h.keyed.id key agent hagent⟩

theorem Consistent.idle_or_busy (h : hall.Consistent space) (hbusy : hall.BusyOnQuests)
    (hturn : hall.Turn after call) :
    ∀ key agent, after.store.agents.find? key = some agent →
      agent.status = .idle ∨ agent.status = .busy := by
  intro key agent hagent
  cases hturn with
  | same hagents =>
      rw [hagents] at hagent
      exact hbusy.idle_or_busy key agent hagent
  | takesUp _ hold hstore hname hid hnow =>
      rw [hstore] at hagent
      rcases h.stored_save hold hname hid hagent with ⟨rfl, -⟩ | ⟨-, hthere⟩
      · exact .inr hnow
      · exact hbusy.idle_or_busy key agent hthere
  | laysDown hold hstore hname hid hidle =>
      rw [hstore] at hagent
      rcases h.stored_save hold hname hid hagent with ⟨rfl, -⟩ | ⟨-, hthere⟩
      · exact .inl hidle
      · exact hbusy.idle_or_busy key agent hthere
  | leaves hagents =>
      rw [hagents] at hagent
      exact hbusy.idle_or_busy key agent hagent

theorem Consistent.engaged (h : hall.Consistent space) (hbusy : hall.BusyOnQuests)
    (hturn : hall.Turn after call) :
    ∀ key agent, after.store.agents.find? key = some agent → agent.status = .busy →
      ∃ questId, after.board.Engages agent.id questId := by
  intro key agent hagent hstatus
  cases hturn with
  | same hagents hengages =>
      rw [hagents] at hagent
      obtain ⟨questId, hquest⟩ := hbusy.engaged key agent hagent hstatus
      exact ⟨questId, (hengages agent.id questId).mpr hquest⟩
  | @takesUp questId _ _ _ _ hold hstore hname hid _ hengages =>
      rw [hstore] at hagent
      rcases h.stored_save hold hname hid hagent with ⟨rfl, hown⟩ | ⟨-, hthere⟩
      · exact ⟨questId, (hengages _ _).mpr (.inl ⟨hown, rfl⟩)⟩
      · obtain ⟨other, hother⟩ := hbusy.engaged key agent hthere hstatus
        exact ⟨other, (hengages _ _).mpr (.inr hother)⟩
  | laysDown hold hstore hname hid hidle _ hengages honly =>
      rw [hstore] at hagent
      rcases h.stored_save hold hname hid hagent with ⟨rfl, -⟩ | ⟨hother, hthere⟩
      · rw [hidle] at hstatus
        cases hstatus
      · obtain ⟨other, hquest⟩ := hbusy.engaged key agent hthere hstatus
        refine ⟨other, (hengages _ _).mpr ⟨?_, hquest⟩⟩
        rintro rfl
        exact hother (honly _ hquest)
  | leaves hagents hengages hfree =>
      rw [hagents] at hagent
      obtain ⟨other, hquest⟩ := hbusy.engaged key agent hagent hstatus
      refine ⟨other, (hengages _ _).mpr ⟨?_, hquest⟩⟩
      rintro rfl
      obtain ⟨found, hfound, hnot⟩ := hfree agent.id hquest
      rw [h.load?_id hagent] at hfound
      cases hfound
      exact hnot hstatus

theorem Consistent.busyOnQuests (h : hall.Consistent space) (hbusy : hall.BusyOnQuests)
    (hturn : hall.Turn after call) : after.BusyOnQuests :=
  ⟨h.idle_or_busy hbusy hturn, h.engaged hbusy hturn⟩

theorem Consistent.busy (h : hall.Consistent space) (hexact : hall.BusyExactlyOnQuests)
    (hturn : hall.Turn after call) (hundisturbed : ¬ hall.Disturbs call) :
    ∀ key agent, after.store.agents.find? key = some agent →
      ∀ questId, after.board.Engages agent.id questId → agent.status = .busy := by
  intro key agent hagent questId hquest
  cases hturn with
  | same hagents hengages =>
      rw [hagents] at hagent
      exact hexact.busy key agent hagent questId ((hengages _ _).mp hquest)
  | takesUp _ hold hstore hname hid hnow hengages =>
      rw [hstore] at hagent
      rcases h.stored_save hold hname hid hagent with ⟨rfl, -⟩ | ⟨hother, hthere⟩
      · exact hnow
      · rcases (hengages _ _).mp hquest with ⟨hclaimant, -⟩ | hbefore
        · exact absurd hclaimant hother
        · exact hexact.busy key agent hthere questId hbefore
  | @laysDown _ finished claimant _ _ hold hstore hname hid _ hmine hengages =>
      rw [hstore] at hagent
      obtain ⟨hne, hbefore⟩ := (hengages _ _).mp hquest
      rcases h.stored_save hold hname hid hagent with ⟨rfl, hown⟩ | ⟨-, hthere⟩
      · rw [hown] at hbefore
        rcases hmine with hengaged | ⟨quest, rfl, hfound, hover, hclaimant⟩
        · exact absurd (hexact.single claimant questId finished hbefore hengaged) hne
        · exact absurd ⟨quest, claimant, questId, hfound, hover, hclaimant, hbefore⟩ hundisturbed
      · exact hexact.busy key agent hthere questId hbefore
  | leaves hagents hengages =>
      rw [hagents] at hagent
      exact hexact.busy key agent hagent questId ((hengages _ _).mp hquest).2

theorem BusyExactlyOnQuests.single_after (hexact : hall.BusyExactlyOnQuests)
    (hturn : hall.Turn after call) (hundisturbed : ¬ hall.Disturbs call) :
    ∀ agentId questId other, after.board.Engages agentId questId →
      after.board.Engages agentId other → questId = other := by
  intro agentId questId other hquest hother
  cases hturn with
  | same _ hengages =>
      exact hexact.single agentId questId other ((hengages _ _).mp hquest)
        ((hengages _ _).mp hother)
  | takesUp hallows _ _ _ _ _ hengages =>
      rcases (hengages _ _).mp hquest with ⟨rfl, rfl⟩ | hbefore
      · rcases (hengages _ _).mp hother with ⟨-, rfl⟩ | hmore
        · rfl
        · exact absurd ⟨hallows, other, hmore⟩ hundisturbed
      · rcases (hengages _ _).mp hother with ⟨rfl, rfl⟩ | hmore
        · exact absurd ⟨hallows, questId, hbefore⟩ hundisturbed
        · exact hexact.single agentId questId other hbefore hmore
  | laysDown _ _ _ _ _ _ hengages =>
      exact hexact.single agentId questId other ((hengages _ _).mp hquest).2
        ((hengages _ _).mp hother).2
  | leaves _ hengages =>
      exact hexact.single agentId questId other ((hengages _ _).mp hquest).2
        ((hengages _ _).mp hother).2

theorem Consistent.busyExactlyOnQuests (h : hall.Consistent space)
    (hexact : hall.BusyExactlyOnQuests) (hturn : hall.Turn after call)
    (hundisturbed : ¬ hall.Disturbs call) : after.BusyExactlyOnQuests :=
  ⟨h.busyOnQuests hexact.toBusyOnQuests hturn, h.busy hexact hturn hundisturbed,
    hexact.single_after hturn hundisturbed⟩

theorem Consistent.not_exactly_of_claim (h : hall.Consistent space)
    {questId agentId other : String}
    (hstep : hall.Step (.claim questId agentId) answer after)
    (hallows : hall.Allows (.claim questId agentId)) (hother : hall.board.Engages agentId other) :
    ¬ after.BusyExactlyOnQuests := by
  intro hafter
  cases hstep with
  | refused _ hnot => exact hnot hallows
  | claimUnsaved _ _ _ _ hdisabled => simp [h.working.writes] at hdisabled
  | claimed _ hquest hposted =>
      have hengages := Board.engages_assign hquest hposted agentId
      have hsame := hafter.single agentId questId other
        ((hengages _ _).mpr (.inl ⟨rfl, rfl⟩)) ((hengages _ _).mpr (.inr hother))
      rw [← hsame, Board.engages_self_iff hquest, hposted] at hother
      cases hother.2

theorem Consistent.not_exactly_of_abandon (h : hall.Consistent space)
    (hexact : hall.BusyExactlyOnQuests) {quest : Quest} {questId agentId other : String}
    (hstep : hall.Step (.abandon questId) answer after)
    (hquest : hall.board.quest? questId = some quest) (hover : quest.status.isActive = false)
    (hclaimant : quest.claimedBy = some agentId) (hother : hall.board.Engages agentId other) :
    ¬ after.BusyExactlyOnQuests := by
  intro hafter
  have hboard : hall.board.withdraw questId quest = hall.board := by
    simp [Board.withdraw, hover]
  obtain ⟨agent, hagent⟩ := h.load?_of_knows
    (h.orderly.claimant quest (Board.mem_of_quest? hquest) agentId hclaimant)
  obtain ⟨key, hkey, hid⟩ := (h.keyed.load?_eq_some_iff h.working.reads).mp hagent
  have hown : agent.id = agentId := (h.keyed.id key agent hkey).trans hid.symm
  rw [← hown] at hother
  have hbusy := hexact.busy key agent hkey other hother
  cases hstep with
  | refused _ hnot => exact hnot ⟨quest, hquest⟩
  | withdrawn _ hfound hfree =>
      rw [hquest] at hfound
      cases hfound
      obtain ⟨found, hfound, hnot⟩ := hfree agentId hclaimant
      rw [hagent] at hfound
      cases hfound
      exact hnot hbusy
  | unreleased _ _ hfound hmine hfails =>
      rw [hquest] at hfound
      cases hfound
      rw [hclaimant] at hmine
      cases hmine
      rw [hagent] at hfails
      rcases hfails with hnone | ⟨_, -, -, hdisabled⟩
      · cases hnone
      · simp [h.working.writes] at hdisabled
  | @released _ _ _ loaded _ hfound hmine hloaded =>
      rw [hquest] at hfound
      cases hfound
      rw [hclaimant] at hmine
      cases hmine
      obtain ⟨place, hplace, hplaceId, hsaved⟩ := h.find?_save hloaded
        { loaded with status := .idle } rfl
      have hstored := hsaved place
      rw [if_pos rfl] at hstored
      rw [hagent] at hloaded
      cases hloaded
      rw [← hboard] at hother
      cases hafter.busy place _ hstored other hother

/-- A call that disturbs leaves an agent on two quests, or an idle agent on a quest. -/
theorem Consistent.not_busyExactlyOnQuests (h : hall.Consistent space)
    (hexact : hall.BusyExactlyOnQuests) (hstep : hall.Step call answer after)
    (hdisturbs : hall.Disturbs call) : ¬ after.BusyExactlyOnQuests := by
  cases call with
  | post _ | start _ | submit _ _ _ => exact hdisturbs.elim
  | claim questId agentId =>
      obtain ⟨hallows, other, hother⟩ := hdisturbs
      exact h.not_exactly_of_claim hstep hallows hother
  | abandon questId =>
      obtain ⟨quest, agentId, other, hquest, hover, hclaimant, hother⟩ := hdisturbs
      exact h.not_exactly_of_abandon hexact hstep hquest hover hclaimant hother

theorem after_concat (space : String) (hall : Hall) (events : List BoardEvent)
    (event : BoardEvent) :
    hall.after space (events ++ [event]) = (hall.after space events).next space event :=
  List.foldl_concat _ _ _ _

theorem Consistent.busyOnQuests_next (h : hall.Consistent space) (hbusy : hall.BusyOnQuests)
    (event : BoardEvent) : (hall.next space event).BusyOnQuests := by
  cases event with
  | call call => exact h.busyOnQuests hbusy (h.turn (hall.step_perform space call))
  | disable _ | bar _ | enableAll => exact ⟨hbusy.idle_or_busy, hbusy.engaged⟩

theorem Consistent.busyExactlyOnQuests_next_iff (h : hall.Consistent space)
    (hexact : hall.BusyExactlyOnQuests) (event : BoardEvent) :
    (hall.next space event).BusyExactlyOnQuests ↔
      ∀ call, event = .call call → ¬ hall.Disturbs call := by
  cases event with
  | call call =>
      have hstep := hall.step_perform space call
      constructor
      · rintro hafter _ ⟨⟩ hdisturbs
        exact h.not_busyExactlyOnQuests hexact hstep hdisturbs hafter
      · intro hundisturbed
        exact h.busyExactlyOnQuests hexact (h.turn hstep) (hundisturbed call rfl)
  | disable _ | bar _ | enableAll =>
      refine iff_of_true ?_ (by simp)
      exact ⟨⟨hexact.idle_or_busy, hexact.engaged⟩, hexact.busy, hexact.single⟩

theorem Consistent.busyOnQuests_after (h : hall.Consistent space) (hbusy : hall.BusyOnQuests)
    (events : List BoardEvent) : (hall.after space events).BusyOnQuests := by
  induction events generalizing hall with
  | nil => exact hbusy
  | cons event rest ih => exact ih (h.next event) (h.busyOnQuests_next hbusy event)

/-- Agents are busy exactly while they are on a quest, up to the first call that disturbs. -/
theorem Consistent.busyExactlyOnQuests_throughout_iff (h : hall.Consistent space)
    (hexact : hall.BusyExactlyOnQuests) (events : List BoardEvent) :
    (∀ done, done <+: events → (hall.after space done).BusyExactlyOnQuests) ↔
      ∀ done call, done ++ [.call call] <+: events →
        ¬ (hall.after space done).Disturbs call := by
  have hpart : ∀ {done : List BoardEvent} {event : BoardEvent}, done ++ [event] <+: events →
      done <+: events := fun hmore => (List.prefix_append _ _).trans hmore
  constructor
  · intro hlaw done call hmore
    have hnext := hlaw (done ++ [.call call]) hmore
    rw [after_concat] at hnext
    exact ((h.after done).busyExactlyOnQuests_next_iff (hlaw done (hpart hmore)) _).mp hnext call
      rfl
  · intro hundisturbed done
    induction done using List.reverseRecOn with
    | nil => exact fun _ => hexact
    | append_singleton done event ih =>
        intro hmore
        rw [after_concat]
        refine ((h.after done).busyExactlyOnQuests_next_iff (ih (hpart hmore)) event).mpr ?_
        rintro call rfl
        exact hundisturbed done call hmore

theorem busyExactlyOnQuests_ofStore {store : Store}
    (hidle : ∀ key agent, store.agents.find? key = some agent → agent.status = .idle) :
    (ofStore store).BusyExactlyOnQuests := by
  have hnobody : ∀ agentId questId, ¬ (ofStore store).board.Engages agentId questId := by
    rintro agentId questId ⟨quest, hquest, -⟩
    cases hquest
  refine ⟨⟨fun key agent hagent => .inl (hidle key agent hagent), ?_⟩, ?_, ?_⟩
  · intro key agent hagent hbusy
    rw [hidle key agent hagent] at hbusy
    cases hbusy
  · intro key agent _ questId hengages
    exact absurd hengages (hnobody _ _)
  · intro agentId questId other hengages
    exact absurd hengages (hnobody _ _)

/-- Over an empty board and idle agents, whoever is not idle is busy and on a quest, whatever
happens. Agents are busy exactly while they are on a quest, and on one at most, as long as no call
disturbs, and no longer. -/
theorem busyOnQuests_after_and_exactly_iff (space : String) (store : Store)
    (hkeyed : store.WellKeyed space) (hworking : store.Working)
    (hidle : ∀ key agent, store.agents.find? key = some agent → agent.status = .idle)
    (events : List BoardEvent) :
    ((ofStore store).after space events).BusyOnQuests ∧
      ((∀ done, done <+: events → ((ofStore store).after space done).BusyExactlyOnQuests) ↔
        ∀ done call, done ++ [.call call] <+: events →
          ¬ ((ofStore store).after space done).Disturbs call) := by
  have hstart : Consistent space (ofStore store) :=
    ⟨hkeyed, hworking, Board.orderly_empty⟩
  have hexact := busyExactlyOnQuests_ofStore hidle
  exact ⟨hstart.busyOnQuests_after hexact.toBusyOnQuests events,
    hstart.busyExactlyOnQuests_throughout_iff hexact events⟩

theorem not_disturbs_claim {hall : Hall} {questId agentId : String}
    (hquests : ∀ quest ∈ hall.board.quests,
      ¬ (quest.claimedBy = some agentId ∧ quest.status.isActive = true)) :
    ¬ hall.Disturbs (.claim questId agentId) := by
  rintro ⟨-, other, quest, hquest, hmine⟩
  exact hquests quest (Board.mem_of_quest? hquest) hmine

theorem idle_scouted :
    ∀ key agent, Store.scouted.agents.find? key = some agent → agent.status = .idle := by
  intro key agent hagent
  simp only [Store.scouted, Store.find?_save Store.working_empty] at hagent
  split at hagent
  · cases hagent
    rfl
  · cases hagent

def completedErrand : List BoardEvent :=
  let verdict : Verdict :=
    { passed := true, quality := 1, award := 25, penalty := 0, feedback := "" }
  [.call (.post .errand), .call (.post .errand), .call (.claim "q1" "guildhall.agent.scout"),
    .call (.start "q1"), .call (.submit "q1" .null verdict)]

/-- The scout takes the second quest up after it has completed the first one. -/
theorem busyOnQuests_after_and_exactly_iff_completedErrand :
    let errands := completedErrand ++ [.call (.claim "q2" "guildhall.agent.scout")]
    ((ofStore .scouted).after "guildhall" errands).BusyOnQuests ∧
      ∀ done, done <+: errands →
        ((ofStore .scouted).after "guildhall" done).BusyExactlyOnQuests := by
  intro errands
  obtain ⟨hbusy, hexactly⟩ := busyOnQuests_after_and_exactly_iff "guildhall" .scouted
    Store.wellKeyed_scouted Store.working_scouted idle_scouted errands
  refine ⟨hbusy, hexactly.mpr ?_⟩
  intro done call hmore
  -- the two claims are the only calls that might disturb
  rcases done with _ | ⟨_, _ | ⟨_, _ | ⟨_, _ | ⟨_, _ | ⟨_, _ | ⟨_, done⟩⟩⟩⟩⟩⟩ <;>
    simp only [errands, completedErrand, List.cons_append, List.nil_append, List.cons_prefix_cons,
      BoardEvent.call.injEq, List.nil_prefix, List.prefix_nil, and_true] at hmore
  · subst hmore
    exact id
  · obtain ⟨rfl, rfl⟩ := hmore
    exact id
  · obtain ⟨rfl, rfl, rfl⟩ := hmore
    exact not_disturbs_claim (by decide +kernel)
  · obtain ⟨rfl, rfl, rfl, rfl⟩ := hmore
    exact id
  · obtain ⟨rfl, rfl, rfl, rfl, rfl⟩ := hmore
    exact id
  · obtain ⟨rfl, rfl, rfl, rfl, rfl, rfl⟩ := hmore
    exact not_disturbs_claim (by decide +kernel)
  · exact absurd hmore.2.2.2.2.2.2 (by simp)

/-- A scout who has completed a quest and is on the next one is idle once it gives the first one
up. Nor does being on a quest keep it from claiming another one, and it is idle once it has
completed either. -/
theorem idle_on_quest :
    let verdict : Verdict :=
      { passed := true, quality := 1, award := 25, penalty := 0, feedback := "" }
    let claims : List BoardEvent := [.call (.post .errand), .call (.post .errand),
      .call (.claim "q1" "guildhall.agent.scout"), .call (.claim "q2" "guildhall.agent.scout")]
    let completes : List BoardEvent := [.call (.start "q1"), .call (.submit "q1" .null verdict)]
    let abandoned := (ofStore .scouted).after "guildhall" (completedErrand ++
      [.call (.claim "q2" "guildhall.agent.scout"), .call (.abandon "q1")])
    let doubled := (ofStore .scouted).after "guildhall" claims
    let completed := doubled.after "guildhall" completes
    ((abandoned.store.load? "guildhall.agent.scout").map Agent.status = some .idle ∧
        abandoned.board.Engages "guildhall.agent.scout" "q2") ∧
      (doubled.board.Engages "guildhall.agent.scout" "q1" ∧
        doubled.board.Engages "guildhall.agent.scout" "q2") ∧
      (completed.store.load? "guildhall.agent.scout").map Agent.status = some .idle ∧
        completed.board.Engages "guildhall.agent.scout" "q2" := by
  decide +kernel

end Hall

end QuestAcademy
