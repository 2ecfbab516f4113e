import Mathlib.Data.List.Nodup
import QuestAcademy.Proofs.AgentProgress
import QuestAcademy.Proofs.BoardAtomicity

namespace QuestAcademy

namespace QuestStatus

/-- The moves from a status to the next. -/
inductive Next : QuestStatus → QuestStatus → Prop
  | claim : Next posted claimed
  | start : Next claimed inProgress
  | complete : Next inProgress completed
  | fail : Next inProgress failed
  | giveUp : Next claimed failed

def isFinished : QuestStatus → Bool
  | completed | failed => true
  | posted | claimed | inProgress => false

theorem isFinished_finalStatus (verdict : Verdict) : verdict.finalStatus.isFinished = true := by
  unfold Verdict.finalStatus
  split <;> rfl

theorem next_finalStatus (verdict : Verdict) : Next inProgress verdict.finalStatus := by
  unfold Verdict.finalStatus
  split
  · exact .complete
  · exact .fail

theorem finalStatus_ne_posted (verdict : Verdict) : verdict.finalStatus ≠ posted := by
  unfold Verdict.finalStatus
  split <;> exact QuestStatus.noConfusion

theorem next_failed {status : QuestStatus} (h : status.isActive = true) : status.Next failed := by
  cases status with
  | claimed => exact .giveUp
  | inProgress => exact .fail
  | posted | completed | failed => cases h

end QuestStatus

namespace Quest

/-- What one call may make of a quest: at most one move of its status, and a claimant only where
there was none. -/
structure Follows (before after : Quest) : Prop where
  draft : after.draft = before.draft
  status : after.status = before.status ∨ before.status.Next after.status
  claimant : before.claimedBy ≠ none → after.claimedBy = before.claimedBy

/-- What any calls may make of a quest. -/
structure Continues (before after : Quest) : Prop where
  draft : after.draft = before.draft
  status : before.status.isFinished = true → after.status = before.status
  claimant : before.claimedBy ≠ none → after.claimedBy = before.claimedBy

theorem Follows.refl (quest : Quest) : quest.Follows quest := ⟨rfl, .inl rfl, fun _ => rfl⟩

theorem Continues.refl (quest : Quest) : quest.Continues quest := ⟨rfl, fun _ => rfl, fun _ => rfl⟩

theorem Follows.continues {before after : Quest} (h : before.Follows after) :
    before.Continues after := by
  refine ⟨h.draft, ?_, h.claimant⟩
  intro hfinished
  rcases h.status with hsame | hnext
  · exact hsame
  · cases hbefore : before.status <;> rw [hbefore] at hfinished hnext <;> cases hfinished <;>
      cases hnext

theorem Continues.trans {before between after : Quest} (h₁ : before.Continues between)
    (h₂ : between.Continues after) : before.Continues after := by
  refine ⟨h₂.draft.trans h₁.draft, ?_, ?_⟩
  · intro hfinished
    have hsame := h₁.status hfinished
    exact (h₂.status (hsame ▸ hfinished)).trans hsame
  · intro hclaimed
    have hsame := h₁.claimant hclaimed
    exact (h₂.claimant (hsame ▸ hclaimed)).trans hsame

end Quest

def Store.Knows (space : String) (store : Store) (id : String) : Prop :=
  ∃ key agent, store.agents.find? key = some agent ∧ id = entityId space key

theorem Store.Knows.save {space : String} {store : Store} {id : String} (agent : Agent)
    (h : store.Knows space id) (hworking : store.Working) :
    (store.save agent).Knows space id := by
  obtain ⟨key, old, hold, hid⟩ := h
  by_cases hkey : key = instanceKey agent.name
  · exact ⟨key, agent, by rw [Store.find?_save hworking, if_pos hkey], hid⟩
  · exact ⟨key, old, by rw [Store.find?_save hworking, if_neg hkey, hold], hid⟩

def questIdAt (place : Nat) : String := "q" ++ Decimal.text (place + 1)

theorem questIdAt_inj {place other : Nat} : questIdAt place = questIdAt other ↔ place = other := by
  constructor
  · intro h
    have htext : Decimal.text (place + 1) = Decimal.text (other + 1) :=
      (String.append_right_inj "q").mp h
    have hdigits := congrArg (fun text => Decimal.value? (String.toList text)) htext
    simpa [Decimal.text, Decimal.value?_digits] using hdigits
  · intro h
    rw [h]

namespace Board

/-- Quests have their numbers for ids. -/
def Numbered (board : Board) : Prop :=
  board.quests.map Quest.id = (List.range board.quests.length).map questIdAt

section Numbered

variable {board : Board}

theorem Numbered.freshId_not_mem (h : board.Numbered) :
    board.freshId ∉ board.quests.map Quest.id := by
  intro hmem
  rw [h] at hmem
  obtain ⟨place, hplace, hid⟩ := List.mem_map.mp hmem
  have hlast : place = board.quests.length := questIdAt_inj.mp hid
  exact absurd (List.mem_range.mp hplace) (by omega)

theorem Numbered.add (h : board.Numbered) (draft : Draft) :
    (board.add (board.fresh draft)).Numbered := by
  unfold Numbered at h ⊢
  simp only [Board.add, List.map_append, List.length_append, List.length_singleton,
    List.range_succ, h]
  rfl

theorem Numbered.change (h : board.Numbered) (id : String) {f : Quest → Quest}
    (hid : ∀ quest, (f quest).id = quest.id) : (board.change id f).Numbered := by
  have hids : (board.change id f).quests.map Quest.id = board.quests.map Quest.id := by
    simp only [Board.change, List.map_map]
    apply List.map_congr_left
    intro quest _
    by_cases hquest : quest.id = id <;> simp [hquest, hid]
  unfold Numbered at h ⊢
  rw [hids, h]
  simp [Board.change]

theorem Numbered.withdraw (h : board.Numbered) (id : String) (quest : Quest) :
    (board.withdraw id quest).Numbered := by
  unfold Board.withdraw
  split
  · exact h.change id fun _ => rfl
  · exact h

end Numbered

/-- Quests have their numbers for ids, a quest has a claimant from its first claim on, and claimants
are stored agents. -/
structure Orderly (space : String) (store : Store) (board : Board) : Prop where
  numbered : board.quests.map Quest.id = (List.range board.quests.length).map questIdAt
  unclaimed_iff : ∀ quest ∈ board.quests, quest.claimedBy = none ↔ quest.status = .posted
  claimant : ∀ quest ∈ board.quests, ∀ id, quest.claimedBy = some id → store.Knows space id

section Orderly

variable {space : String} {store : Store} {board : Board}

theorem orderly_empty : empty.Orderly space store := by
  refine ⟨rfl, ?_, ?_⟩ <;> simp [empty]

theorem Orderly.nodup (h : board.Orderly space store) : (board.quests.map Quest.id).Nodup := by
  rw [h.numbered]
  exact List.nodup_range.map fun _ _ hids => questIdAt_inj.mp hids

theorem Orderly.quest?_of_mem (h : board.Orderly space store) {quest : Quest}
    (hquest : quest ∈ board.quests) : board.quest? quest.id = some quest := by
  have hsome : (board.quest? quest.id).isSome = true :=
    List.find?_isSome.mpr ⟨quest, hquest, by simp⟩
  obtain ⟨found, hfound⟩ := Option.isSome_iff_exists.mp hsome
  have hsame : found = quest := List.inj_on_of_nodup_map h.nodup
    (mem_of_quest? hfound) hquest (id_of_quest? hfound)
  exact hfound.trans (congrArg some hsame)

theorem Orderly.freshId_not_mem (h : board.Orderly space store) :
    board.quest? board.freshId = none := by
  cases hfound : board.quest? board.freshId with
  | none => rfl
  | some quest =>
      have hmem : board.freshId ∈ board.quests.map Quest.id :=
        List.mem_map.mpr ⟨quest, mem_of_quest? hfound, id_of_quest? hfound⟩
      exact absurd hmem (Numbered.freshId_not_mem h.numbered)

theorem Orderly.save (h : board.Orderly space store) (hworking : store.Working) (agent : Agent) :
    board.Orderly space (store.save agent) :=
  ⟨h.numbered, h.unclaimed_iff, fun quest hquest id hid =>
    (h.claimant quest hquest id hid).save agent hworking⟩

theorem Orderly.add (h : board.Orderly space store) (draft : Draft) :
    (board.add (board.fresh draft)).Orderly space store := by
  refine ⟨Numbered.add h.numbered draft, ?_, ?_⟩
  · intro quest hquest
    rcases List.mem_append.mp hquest with hold | hnew
    · exact h.unclaimed_iff quest hold
    · rw [List.mem_singleton.mp hnew]
      exact iff_of_true rfl rfl
  · intro quest hquest id hid
    rcases List.mem_append.mp hquest with hold | hnew
    · exact h.claimant quest hold id hid
    · rw [List.mem_singleton.mp hnew] at hid
      cases hid

theorem Orderly.change (h : board.Orderly space store) {id : String} {quest : Quest}
    (hquest : board.quest? id = some quest) {f : Quest → Quest} (hid : ∀ q, (f q).id = q.id)
    (hunclaimed : (f quest).claimedBy = none ↔ (f quest).status = .posted)
    (hclaimant : ∀ agentId, (f quest).claimedBy = some agentId → store.Knows space agentId) :
    (board.change id f).Orderly space store := by
  have hchanged : ∀ q ∈ (board.change id f).quests,
      q ∈ board.quests ∨ q = f quest := by
    intro q hq
    obtain ⟨old, hold, rfl⟩ := List.mem_map.mp hq
    split
    · rename_i hsame
      right
      have hfound := h.quest?_of_mem hold
      rw [hsame, hquest] at hfound
      cases hfound
      rfl
    · exact .inl hold
  refine ⟨Numbered.change h.numbered id hid, ?_, ?_⟩
  · intro q hq
    rcases hchanged q hq with hold | rfl
    · exact h.unclaimed_iff q hold
    · exact hunclaimed
  · intro q hq agentId hagent
    rcases hchanged q hq with hold | rfl
    · exact h.claimant q hold agentId hagent
    · exact hclaimant agentId hagent

theorem Orderly.setStatus (h : board.Orderly space store) {id : String} {quest : Quest}
    {status : QuestStatus} (hquest : board.quest? id = some quest)
    (hbefore : quest.status ≠ .posted) (hafter : status ≠ .posted) :
    (board.setStatus id status).Orderly space store := by
  have hmem := mem_of_quest? hquest
  refine h.change hquest (fun _ => rfl) ?_ (h.claimant quest hmem)
  have hclaimed : quest.claimedBy ≠ none := fun hnone =>
    hbefore ((h.unclaimed_iff quest hmem).mp hnone)
  exact iff_of_false hclaimed hafter

theorem Orderly.assign (h : board.Orderly space store) {id agentId : String} {quest : Quest}
    (hquest : board.quest? id = some quest) (hknown : store.Knows space agentId) :
    (board.assign id agentId).Orderly space store := by
  refine h.change hquest (fun _ => rfl) (by simp) ?_
  intro other hother
  cases hother
  exact hknown

theorem Orderly.withdraw (h : board.Orderly space store) {id : String} {quest : Quest}
    (hquest : board.quest? id = some quest) :
    (board.withdraw id quest).Orderly space store := by
  unfold Board.withdraw
  split
  · rename_i hactive
    refine h.setStatus hquest ?_ (by simp)
    intro hposted
    rw [hposted] at hactive
    cases hactive
  · exact h

theorem Orderly.claimedBy_of_status (h : board.Orderly space store) {id : String} {quest : Quest}
    (hquest : board.quest? id = some quest) (hstatus : quest.status ≠ .posted) :
    ∃ agentId, quest.claimedBy = some agentId ∧ store.Knows space agentId := by
  have hmem := mem_of_quest? hquest
  cases hclaimant : quest.claimedBy with
  | none => exact absurd ((h.unclaimed_iff quest hmem).mp hclaimant) hstatus
  | some agentId => exact ⟨agentId, rfl, h.claimant quest hmem agentId hclaimant⟩

end Orderly

/-- What one call may make of a board: its quests go on, and new ones are posted. -/
structure Follows (before after : Board) : Prop where
  kept : ∀ id quest, before.quest? id = some quest →
    ∃ next, after.quest? id = some next ∧ quest.Follows next
  new : ∀ id quest, before.quest? id = none → after.quest? id = some quest →
    quest.status = .posted

section Follows

variable {board : Board} {id : String} {quest : Quest}

theorem Follows.refl (board : Board) : board.Follows board where
  kept := fun _ quest hquest => ⟨quest, hquest, .refl quest⟩
  new := by
    intro id quest hnone hsome
    rw [hnone] at hsome
    cases hsome

theorem quest?_add (board : Board) (quest : Quest) (id : String) :
    (board.add quest).quest? id =
      (board.quest? id).or (if quest.id = id then some quest else none) := by
  rw [quest?, add, List.find?_append, quest?, List.find?_singleton]
  simp only [decide_eq_true_eq]

theorem follows_add (board : Board) (draft : Draft) :
    board.Follows (board.add (board.fresh draft)) := by
  constructor
  · intro id quest hquest
    exact ⟨quest, by rw [quest?_add, hquest, Option.some_or], .refl quest⟩
  · intro id quest hnone hsome
    rw [quest?_add, hnone, Option.none_or] at hsome
    split at hsome
    · cases hsome
      rfl
    · cases hsome

theorem follows_change {f : Quest → Quest} (hid : ∀ q, (f q).id = q.id)
    (hquest : board.quest? id = some quest) (hf : quest.Follows (f quest)) :
    board.Follows (board.change id f) := by
  constructor
  · intro other found hfound
    rw [quest?_change board id other hid, hfound]
    refine ⟨_, rfl, ?_⟩
    split
    · rename_i hsame
      rw [hsame, hquest] at hfound
      cases hfound
      exact hf
    · exact .refl found
  · intro other found hnone hsome
    rw [quest?_change board id other hid, hnone] at hsome
    cases hsome

theorem follows_setStatus {status : QuestStatus} (hquest : board.quest? id = some quest)
    (hnext : quest.status.Next status) : board.Follows (board.setStatus id status) :=
  follows_change (fun _ => rfl) hquest ⟨rfl, .inr hnext, fun _ => rfl⟩

theorem follows_assign (agentId : String) (hquest : board.quest? id = some quest)
    (hstatus : quest.status = .posted) (hunclaimed : quest.claimedBy = none) :
    board.Follows (board.assign id agentId) := by
  refine follows_change (fun _ => rfl) hquest ⟨rfl, .inr ?_, fun hclaimed => ?_⟩
  · rw [hstatus]
    exact .claim
  · exact absurd hunclaimed hclaimed

theorem follows_withdraw (hquest : board.quest? id = some quest) :
    board.Follows (board.withdraw id quest) := by
  unfold withdraw
  split
  · rename_i hactive
    exact follows_setStatus hquest (QuestStatus.next_failed hactive)
  · exact .refl board

end Follows

end Board

namespace Hall

/-- A working store whose agents are where they belong, and an orderly board over it. -/
structure Consistent (space : String) (hall : Hall) : Prop where
  keyed : hall.store.WellKeyed space
  working : hall.store.Working
  orderly : hall.board.Orderly space hall.store

section Consistent

variable {space : String} {hall after : Hall} {call : BoardCall}
  {answer : Except BoardError BoardAnswer}

theorem Consistent.load?_of_knows (h : hall.Consistent space) {id : String}
    (hknown : hall.store.Knows space id) : ∃ agent, hall.store.load? id = some agent := by
  obtain ⟨key, agent, hagent, hid⟩ := hknown
  exact ⟨agent, (h.keyed.load?_eq_some_iff h.working.reads).mpr ⟨key, hagent, hid⟩⟩

theorem Consistent.not_failsLate (h : hall.Consistent space) (call : BoardCall) :
    ¬ hall.FailsLate call := by
  have hwrites : ¬ hall.store.writesDisabled = true := by simp [h.working.writes]
  cases call with
  | post draft => exact id
  | start questId => exact id
  | claim questId agentId => exact fun hlate => hwrites hlate.2
  | submit questId output verdict =>
      rintro ⟨⟨-, quest, hquest, hstatus⟩, hfails⟩
      obtain ⟨agentId, hclaimant, hknown⟩ :=
        h.orderly.claimedBy_of_status hquest (by simp [hstatus])
      obtain ⟨agent, hagent⟩ := h.load?_of_knows hknown
      rcases hfails quest agentId hquest hclaimant with hnone | hdisabled
      · simp [hagent] at hnone
      · exact hwrites hdisabled
  | abandon questId =>
      rintro ⟨quest, agentId, hquest, -, hclaimant, hnone | ⟨agent, -, -, hdisabled⟩⟩
      · obtain ⟨agent, hagent⟩ := h.load?_of_knows
          (h.orderly.claimant quest (Board.mem_of_quest? hquest) agentId hclaimant)
        simp [hagent] at hnone
      · exact hwrites hdisabled

theorem Consistent.eq_of_error (h : hall.Consistent space) {e : BoardError}
    (hstep : hall.Step call (.error e) after) : after = hall :=
  hstep.eq_of_error (h.not_failsLate call)

theorem Consistent.save (h : hall.Consistent space) {board : Board} {id : String}
    {old agent : Agent} (hold : hall.store.load? id = some old) (hname : agent.name = old.name)
    (hid : agent.id = old.id) (horderly : board.Orderly space hall.store) :
    Consistent space { board, store := hall.store.save agent } := by
  obtain ⟨key, hkey, -⟩ := (h.keyed.load?_eq_some_iff h.working.reads).mp hold
  exact ⟨(h.keyed.save_changed hkey hname hid).2, h.working.save agent,
    horderly.save h.working agent⟩

theorem Consistent.knows (h : hall.Consistent space) {id : String} {agent : Agent}
    (hagent : hall.store.load? id = some agent) : hall.store.Knows space id := by
  obtain ⟨key, hkey, hid⟩ := (h.keyed.load?_eq_some_iff h.working.reads).mp hagent
  exact ⟨key, agent, hkey, hid⟩

theorem Consistent.step (h : hall.Consistent space) (hstep : hall.Step call answer after) :
    after.Consistent space := by
  cases hanswer : answer with
  | error e =>
      rw [hanswer] at hstep
      rw [h.eq_of_error hstep]
      exact h
  | ok result =>
      rw [hanswer] at hstep
      cases hstep with
      | posted => exact ⟨h.keyed, h.working, h.orderly.add _⟩
      | claimed _ hquest _ hagent =>
          exact h.save hagent rfl rfl (h.orderly.assign hquest (h.knows hagent))
      | started _ hquest hstatus =>
          exact ⟨h.keyed, h.working,
            h.orderly.setStatus hquest (by simp [hstatus]) (by simp)⟩
      | @settled _ _ verdict _ _ agent _ hquest hstatus _ hagent =>
          have horderly := h.orderly.setStatus hquest (by simp [hstatus])
            (QuestStatus.finalStatus_ne_posted verdict)
          exact h.save hagent (Board.name_applyVerdict _ _ agent) (Board.id_applyVerdict _ _ agent)
            ⟨horderly.numbered, horderly.unclaimed_iff, horderly.claimant⟩
      | withdrawn _ hquest => exact ⟨h.keyed, h.working, h.orderly.withdraw hquest⟩
      | released _ hquest _ hagent => exact h.save hagent rfl rfl (h.orderly.withdraw hquest)

theorem Consistent.follows (h : hall.Consistent space) (hstep : hall.Step call answer after) :
    hall.board.Follows after.board := by
  cases hanswer : answer with
  | error e =>
      rw [hanswer] at hstep
      rw [h.eq_of_error hstep]
      exact .refl hall.board
  | ok result =>
      rw [hanswer] at hstep
      cases hstep with
      | posted => exact Board.follows_add hall.board _
      | claimed _ hquest hstatus =>
          exact Board.follows_assign _ hquest hstatus
            ((h.orderly.unclaimed_iff _ (Board.mem_of_quest? hquest)).mpr hstatus)
      | started _ hquest hstatus =>
          exact Board.follows_setStatus hquest (hstatus ▸ .start)
      | @settled _ _ verdict _ _ _ _ hquest hstatus =>
          have hfollows := Board.follows_setStatus hquest
            (hstatus ▸ QuestStatus.next_finalStatus verdict)
          exact ⟨hfollows.kept, hfollows.new⟩
      | withdrawn _ hquest => exact Board.follows_withdraw hquest
      | released _ hquest => exact Board.follows_withdraw hquest

end Consistent

end Hall

end QuestAcademy
