import QuestAcademy.Board

namespace QuestAcademy

namespace Agent

theorem grant_status (agent : Agent) (amount : Nat) (status : Availability) :
    { agent with status }.grant amount = { agent.grant amount with status } := rfl

theorem grant_eq (agent : Agent) (amount : Nat) :
    agent.grant amount =
      { agent with
        level := (agent.grant amount).level
        tier := (agent.grant amount).tier
        experience := (agent.grant amount).experience
        experienceToNext := (agent.grant amount).experienceToNext } := rfl

def practiseAll (agent : Agent) (experience : Nat) (skills : List String) : Agent :=
  skills.foldl (fun agent skill => agent.practise experience skill) agent

theorem practiseAll_status (agent : Agent) (experience : Nat) (skills : List String)
    (status : Availability) :
    { agent with status }.practiseAll experience skills =
      { agent.practiseAll experience skills with status } := by
  induction skills generalizing agent with
  | nil => rfl
  | cons skill rest ih => exact ih (agent.practise experience skill)

theorem practiseAll_eq (agent : Agent) (experience : Nat) (skills : List String) :
    agent.practiseAll experience skills =
      { agent with proficiencies := (agent.practiseAll experience skills).proficiencies } := by
  induction skills generalizing agent with
  | nil => rfl
  | cons skill rest ih =>
      have hrest := ih (agent.practise experience skill)
      simp only [practiseAll, List.foldl_cons] at hrest ⊢
      rw [hrest]
      rfl

end Agent

namespace Board

theorem applyVerdict_of_passed {verdict : Verdict} (skills : List String) (agent : Agent)
    (h : verdict.passed = true) :
    applyVerdict verdict skills agent =
      { (agent.grant verdict.award).practiseAll verdict.award skills with status := .idle } := by
  simp only [applyVerdict, h, if_true, Agent.practiseAll]

theorem applyVerdict_of_not_passed {verdict : Verdict} (skills : List String) (agent : Agent)
    (h : verdict.passed = false) :
    applyVerdict verdict skills agent = { agent.deduct verdict.penalty with status := .idle } := by
  simp only [applyVerdict, h, Bool.false_eq_true, if_false]

/-- The status an agent had is of no account to a verdict. -/
theorem applyVerdict_status (verdict : Verdict) (skills : List String) (agent : Agent)
    (status : Availability) :
    applyVerdict verdict skills { agent with status } = applyVerdict verdict skills agent := by
  cases h : verdict.passed with
  | true => simp only [applyVerdict_of_passed _ _ h, Agent.grant_status, Agent.practiseAll_status]
  | false => simp only [applyVerdict_of_not_passed _ _ h, Agent.deduct]

theorem applyVerdict_eq (verdict : Verdict) (skills : List String) (agent : Agent) :
    applyVerdict verdict skills agent =
      { agent with
        status := .idle
        level := (applyVerdict verdict skills agent).level
        tier := (applyVerdict verdict skills agent).tier
        experience := (applyVerdict verdict skills agent).experience
        experienceToNext := (applyVerdict verdict skills agent).experienceToNext
        proficiencies := (applyVerdict verdict skills agent).proficiencies } := by
  cases h : verdict.passed with
  | true =>
      rw [applyVerdict_of_passed _ _ h, Agent.practiseAll_eq, Agent.grant_eq]
  | false => rw [applyVerdict_of_not_passed _ _ h, Agent.deduct]

theorem id_applyVerdict (verdict : Verdict) (skills : List String) (agent : Agent) :
    (applyVerdict verdict skills agent).id = agent.id := by
  rw [applyVerdict_eq]

theorem name_applyVerdict (verdict : Verdict) (skills : List String) (agent : Agent) :
    (applyVerdict verdict skills agent).name = agent.name := by
  rw [applyVerdict_eq]

end Board

end QuestAcademy
