import Mathlib.Logic.Basic
import QuestAcademy.Judging
import QuestAcademy.Proofs.BoardCalls
import QuestAcademy.Proofs.EarnedExperience

namespace QuestAcademy

namespace Agent

theorem find?_practiseAll (agent : Agent) (experience : Nat) {skills : List String}
    (hskills : skills.Nodup) (skill : String) :
    Keyed.find? skill (agent.practiseAll experience skills).proficiencies =
      if skill ∈ skills then
        some (((Keyed.find? skill agent.proficiencies).getD .novice).record experience)
      else Keyed.find? skill agent.proficiencies := by
  induction skills generalizing agent with
  | nil => rfl
  | cons first rest ih =>
      obtain ⟨hfirst, hrest⟩ := List.nodup_cons.mp hskills
      have hpractised : ∀ other, Keyed.find? other (agent.practise experience first).proficiencies =
          if other = first then
            some (((Keyed.find? first agent.proficiencies).getD .novice).record experience)
          else Keyed.find? other agent.proficiencies :=
        fun other => Keyed.find?_insert first other _ agent.proficiencies
      have hall := ih (agent.practise experience first) hrest
      rw [hpractised] at hall
      by_cases hsame : skill = first
      · rw [if_neg (hsame ▸ hfirst), if_pos hsame] at hall
        rw [if_pos (hsame ▸ List.mem_cons_self), hsame]
        rw [hsame] at hall
        exact hall
      · rw [if_neg hsame] at hall
        simp only [List.mem_cons, hsame, false_or]
        exact hall

end Agent

namespace Judgement

variable {judgement : Judgement} {base : Nat}

theorem award_toVerdict_of_passed (h : judgement.passed = true) (hbase : 0 < base) :
    0 < (judgement.toVerdict base).award ∧ (judgement.toVerdict base).penalty = 0 := by
  simp only [toVerdict, h, if_true, if_pos hbase]
  exact ⟨Nat.lt_of_lt_of_le Nat.one_pos (Nat.le_max_right _ _), trivial⟩

theorem penalty_toVerdict_of_failed (h : judgement.passed = false) (hbase : 0 < base) :
    (judgement.toVerdict base).award = 0 ∧
      (judgement.toVerdict base).penalty = max 1 (base / 4) := by
  simp only [toVerdict, h, Bool.false_eq_true, if_false, if_pos hbase]
  exact ⟨trivial, Nat.max_comm _ _⟩

/-- Whatever the quality, a verdict awards or takes, and never both. -/
theorem award_or_penalty (judgement : Judgement) (hbase : 0 < base) :
    Xor ((judgement.toVerdict base).award ≠ 0) ((judgement.toVerdict base).penalty ≠ 0) := by
  cases h : judgement.passed with
  | true =>
      obtain ⟨haward, hpenalty⟩ := award_toVerdict_of_passed h hbase
      exact .inl ⟨haward.ne', fun hne => hne hpenalty⟩
  | false =>
      obtain ⟨haward, hpenalty⟩ := penalty_toVerdict_of_failed h hbase
      refine .inr ⟨?_, fun hne => hne haward⟩
      omega

end Judgement

namespace Hall

/-- What a judged output makes of its quest and of the agent under a key, and what the receipt tells
of it. -/
structure Moves (before after : Hall) (quest : Quest) (key : String) (agent settled : Agent)
    (judgement : Judgement) (base : Nat) (receipt : Receipt) : Prop where
  oneSided : Xor ((judgement.toVerdict base).award ≠ 0) ((judgement.toVerdict base).penalty ≠ 0)
  stored : after.store.agents.find? key = some settled
  idle : settled.status = .idle
  inStep : settled.InStep
  kept : settled = { agent with
    status := settled.status, level := settled.level, tier := settled.tier,
    experience := settled.experience, experienceToNext := settled.experienceToNext,
    proficiencies := settled.proficiencies }
  raised : judgement.passed = true →
    settled.total =
        min (Level.price Level.highest) (agent.total + (judgement.toVerdict base).award) ∧
      (agent.total < Level.price Level.highest → agent.total < settled.total)
  recorded : judgement.passed = true → ∀ skill, Keyed.find? skill settled.proficiencies =
    if skill ∈ quest.draft.requiredSkills then
      some (((Keyed.find? skill agent.proficiencies).getD .novice).record
        (judgement.toVerdict base).award)
    else Keyed.find? skill agent.proficiencies
  lowered : judgement.passed = false →
    settled.experience + min agent.experience (max 1 (base / 4)) = agent.experience ∧
      settled.level = agent.level ∧ settled.tier = agent.tier ∧
      settled.experienceToNext = agent.experienceToNext ∧
      settled.proficiencies = agent.proficiencies
  others : ∀ other, other ≠ key →
    after.store.agents.find? other = before.store.agents.find? other
  guilds : after.store.guilds = before.store.guilds
  told : receipt.questId = quest.id ∧ receipt.agentId = agent.id ∧
    receipt.status = (if judgement.passed then .completed else .failed) ∧
    receipt.levelBefore = agent.level ∧ receipt.levelAfter = settled.level
  shown : after.board.quest? receipt.questId = some { quest with status := receipt.status }

section Submitting

variable {space : String} {hall : Hall} {questId : String} {quest : Quest} {key : String}
  {agent : Agent}

theorem perform_submit (hkeyed : hall.store.WellKeyed space) (hworking : hall.store.Working)
    (hopen : .submit ∉ hall.board.disabled) (hquest : hall.board.quest? questId = some quest)
    (hstatus : quest.status = .inProgress) (hagent : hall.store.agents.find? key = some agent)
    (hclaimant : quest.claimedBy = some agent.id) (output : Payload) (verdict : Verdict) :
    hall.perform space (.submit questId output verdict) =
      (.ok (.settled {
        questId, agentId := agent.id
        status := verdict.finalStatus
        change := verdict.change
        levelBefore := agent.level
        levelAfter := (Board.applyVerdict verdict quest.draft.requiredSkills agent).level }),
      { board := hall.board.settle questId output verdict
        store := hall.store.save
          (Board.applyVerdict verdict quest.draft.requiredSkills agent) }) := by
  have hload : hall.store.load? agent.id = some agent :=
    (hkeyed.load?_eq_some_iff hworking.reads).mpr ⟨key, hagent, hkeyed.id key agent hagent⟩
  simp only [perform, Board.submit, List.contains_iff_mem, hopen, if_false,
    Board.transition_of_status verdict.finalStatus hquest hstatus, hclaimant,
    Board.loadAgent_of_some space hload, Board.saveAgent_eq, Board.saved, hworking.writes,
    Bool.false_eq_true]
  rfl

/-- The output of a quest in progress is taken with whatever the judge made of it, and moves the
claimant one way. -/
theorem submit_moves (hkeyed : hall.store.WellKeyed space) (hworking : hall.store.Working)
    (hopen : .submit ∉ hall.board.disabled) (hquest : hall.board.quest? questId = some quest)
    (hstatus : quest.status = .inProgress) (hskills : quest.draft.requiredSkills.Nodup)
    (hagent : hall.store.agents.find? key = some agent) (hinStep : agent.InStep)
    (hclaimant : quest.claimedBy = some agent.id) (output : Payload) (judgement : Judgement)
    {base : Nat} (hbase : 0 < base) :
    ∃ receipt settled after,
      hall.perform space (.submit questId output (judgement.toVerdict base)) =
        (.ok (.settled receipt), after) ∧
        hall.Moves after quest key agent settled judgement base receipt := by
  refine ⟨_, Board.applyVerdict (judgement.toVerdict base) quest.draft.requiredSkills agent, _,
    perform_submit hkeyed hworking hopen hquest hstatus hagent hclaimant output _, ?_⟩
  have hfind := Store.find?_save hworking
    (Board.applyVerdict (judgement.toVerdict base) quest.draft.requiredSkills agent)
  rw [Board.name_applyVerdict, hkeyed.key key agent hagent] at hfind
  refine {
    oneSided := judgement.award_or_penalty hbase
    stored := by rw [hfind, if_pos rfl]
    idle := rfl
    inStep := hinStep.applyVerdict _ _
    kept := Board.applyVerdict_eq _ _ agent
    raised := ?_
    recorded := ?_
    lowered := ?_
    others := fun other hother => by rw [hfind, if_neg hother]
    guilds := Store.guilds_save _ _
    told := ⟨(Board.id_of_quest? hquest).symm, rfl, rfl, rfl, rfl⟩
    shown := ?_ }
  · intro hpassed
    have hverdict : (judgement.toVerdict base).passed = true := hpassed
    have haward := (Judgement.award_toVerdict_of_passed hpassed hbase).1
    have htotal := hinStep.total_applyVerdict hverdict quest.draft.requiredSkills
    refine ⟨htotal, fun hbelow => ?_⟩
    rw [htotal]
    exact Nat.lt_min.mpr ⟨hbelow, Nat.lt_add_of_pos_right haward⟩
  · intro hpassed skill
    have hverdict : (judgement.toVerdict base).passed = true := hpassed
    rw [Board.applyVerdict_of_passed _ agent hverdict]
    exact Agent.find?_practiseAll (agent.grant _) _ hskills skill
  · intro hfailed
    have hverdict : (judgement.toVerdict base).passed = false := hfailed
    have hpenalty := (Judgement.penalty_toVerdict_of_failed hfailed hbase).2
    rw [Board.applyVerdict_of_not_passed _ agent hverdict]
    refine ⟨?_, rfl, rfl, rfl, rfl⟩
    simp only [Agent.deduct, hpenalty]
    omega
  · have hsettled := hall.board.quest?_setStatus questId questId
      (judgement.toVerdict base).finalStatus
    rw [hquest, Option.map_some, if_pos rfl] at hsettled
    exact hsettled

end Submitting

def busyScout : Agent :=
  { Agent.create "guildhall.agent.scout" "scout" 1 with experience := 40, status := .busy }

def errandQuest : Quest :=
  { id := "q1", draft := .errand, status := .inProgress, claimedBy := some "guildhall.agent.scout" }

def errandUnderway : Hall :=
  { board := Board.empty.add errandQuest, store := Store.empty.save busyScout }

/-- A quality that is not a number. -/
def unclear (passed : Bool) : Judgement :=
  { passed, quality := 0 / 0, scores := [], marks := [], feedback := "" }

/-- However unclear its quality, the errand costs the scout one point of experience if it failed, and
earns at least one if it passed. -/
theorem submit_moves_errandUnderway :
    (∃ receipt settled after,
      errandUnderway.perform "guildhall" (.submit "q1" .null ((unclear false).toVerdict 3)) =
        (.ok (.settled receipt), after) ∧
        errandUnderway.Moves after errandQuest "scout" busyScout settled (unclear false) 3 receipt ∧
        settled.experience = 39) ∧
      ∃ receipt settled after,
        errandUnderway.perform "guildhall" (.submit "q1" .null ((unclear true).toVerdict 3)) =
          (.ok (.settled receipt), after) ∧
          errandUnderway.Moves after errandQuest "scout" busyScout settled (unclear true) 3 receipt ∧
          40 < settled.total := by
  have hkeyed : errandUnderway.store.WellKeyed "guildhall" :=
    (Store.wellKeyed_empty "guildhall").save (by decide +kernel)
  have hstored : errandUnderway.store.agents.find? "scout" = some busyScout :=
    (Store.find?_save Store.working_empty busyScout "scout").trans (if_pos (by decide +kernel))
  have hinStep : busyScout.InStep := by
    refine ⟨?_, ?_, rfl, rfl, ?_, ?_, ?_⟩
    · decide
    · decide
    · decide
    · decide
    · intro skill p hp
      cases hp
  have hquest : errandUnderway.board.quest? "q1" = some errandQuest := rfl
  have hbase : 0 < 3 := by decide
  have hmoves := fun passed => submit_moves hkeyed (Store.working_empty.save busyScout) (by decide)
    hquest rfl (by decide) hstored hinStep rfl .null (unclear passed) hbase
  obtain ⟨receipt, settled, after, hperform, hlowered⟩ := hmoves false
  obtain ⟨passedReceipt, raised, passedAfter, hpassedPerform, hraised⟩ := hmoves true
  refine ⟨⟨receipt, settled, after, hperform, hlowered, ?_⟩,
    passedReceipt, raised, passedAfter, hpassedPerform, hraised, ?_⟩
  · have hexperience : settled.experience + 1 = 40 := (hlowered.lowered rfl).1
    omega
  · exact (hraised.raised rfl).2 (by decide +kernel)

end Hall

end QuestAcademy
