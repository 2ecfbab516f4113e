import QuestAcademy.Proofs.AttemptUpshot

namespace QuestAcademy

variable {ω : Type}

namespace Environment

variable {env : Environment ω} {view : HallView ω} {conduct : Conduct} {plan : ArenaPlan}
  {template : Template} {trainee : Trainee} {before : Hall} {agent : Agent} {world after : ω}

section Working

variable {key : String} {draft : Draft} {status : QuestStatus}

theorem Hosts.posted (hosts : env.Hosts view) (hworks : view.works world)
    (hbefore : view.hall world = before) {checked : ω}
    (hcheck : env.check world = (.ok (), checked)) {answer : Except BoardError Quest}
    (hpost : env.board.post draft checked = (answer, after)) :
    view.works after ∧
      ((before.board.disabled.contains .post = true ∧ answer = .error (.disabled .post) ∧
          view.hall after = before) ∨
        (before.board.disabled.contains .post = false ∧ answer = .ok (before.board.fresh draft) ∧
          view.hall after = before.withQuest draft)) := by
  obtain ⟨hsame, hchecked⟩ := hosts.check world
  simp only [hcheck, hbefore] at hsame hchecked
  obtain ⟨hanswer, hhall, hafter⟩ := hosts.hall_post (hchecked hworks) draft
  rw [hpost] at hanswer hhall hafter
  rw [hsame] at hanswer hhall
  refine ⟨hafter, ?_⟩
  unfold Board.post at hanswer hhall
  cases hpostable : before.board.disabled.contains .post with
  | true =>
      simp only [hpostable, if_true] at hanswer hhall
      exact .inl ⟨rfl, hanswer, hhall⟩
  | false =>
      simp only [hpostable, Bool.false_eq_true, if_false] at hanswer hhall
      exact .inr ⟨rfl, hanswer, hhall⟩

/-- In a world that works, the agent under the key has claimed a new quest. -/
def Holds (env : Environment ω) (view : HallView ω) (key : String) (before : Hall) (agent : Agent)
    (draft : Draft) (status : QuestStatus) (world : ω) : Prop :=
  view.works world ∧ Hall.Taken env.store.space key before agent draft status (view.hall world)

theorem Holds.unseen (h : env.Holds view key before agent draft status world) {change : ω → ω}
    (hchange : view.Unseen change) :
    env.Holds view key before agent draft status (change world) := by
  obtain ⟨hhall, hworks⟩ := hchange world
  refine ⟨hworks h.1, ?_⟩
  rw [hhall]
  exact h.2

/-- What comes of the claim of a new quest. -/
inductive Claimed (env : Environment ω) (view : HallView ω) (key : String) (before : Hall)
    (draft : Draft) : Except BoardError Agent → Except BoardError Unit → ω → Prop
  | refused {e : BoardError} {after : ω} (hworks : view.works after)
      (hhall : view.hall after = before.withQuest draft) :
      Claimed env view key before draft (.error e) (.error e) after
  | unsaved {agent : Agent} {after : ω} (hoff : before.store.writesDisabled = true)
      (hworks : view.works after)
      (hhall : view.hall after =
        ⟨(before.withQuest draft).board.assign before.board.freshId
          (entityId env.store.space key), before.store⟩) :
      Claimed env view key before draft (.ok agent) (.error (.store (.writesDisabled key))) after
  | held {agent : Agent} {after : ω} (hon : before.store.writesDisabled = false)
      (hholds : env.Holds view key before agent draft .claimed after) :
      Claimed env view key before draft (.ok agent) (.ok ()) after

theorem Hosts.claimed (hosts : env.Hosts view) (hworks : view.works world)
    (htidy : before.Tidy env.store.space) (hhall : view.hall world = before.withQuest draft)
    {answer : Except BoardError Unit}
    (hclaim : env.board.claim before.board.freshId (entityId env.store.space key) world =
      (answer, after)) :
    Claimed env view key before draft
      ((before.circumstances key).claimant env.store.space key) answer after := by
  have hquest : (before.withQuest draft).board.quest? before.board.freshId =
      some (before.board.fresh draft) := (htidy.numbered.adds_fresh draft).quest?_id
  have hgains := (before.board.gains_fresh draft).change htidy.numbered
    (f := fun quest => { quest with
      status := .claimed, claimedBy := some (entityId env.store.space key) }) fun _ => rfl
  have hkeyed : (before.withQuest draft).store.WellKeyed env.store.space := htidy.keyed
  have hsame : (before.withQuest draft).circumstances key = before.circumstances key := rfl
  obtain ⟨hanswer, hleft, hafter⟩ :=
    hosts.hall_claim hworks before.board.freshId (entityId env.store.space key)
  rw [hclaim, hhall, Hall.claim_eq hkeyed hquest rfl key, hsame] at hanswer hleft
  rw [hclaim] at hafter
  cases hclaimant : (before.circumstances key).claimant env.store.space key with
  | error e =>
      simp only [hclaimant] at hanswer hleft
      subst hanswer
      exact .refused hafter hleft
  | ok agent =>
      simp only [hclaimant] at hanswer hleft
      obtain ⟨hreads, hstored⟩ := Hall.stored_of_claimant hclaimant
      have hkey : instanceKey agent.name = key := htidy.keyed.key key agent hstored
      subst hanswer
      cases hwrites : before.store.writesDisabled with
      | true =>
          have hfails : Board.saved (before.withQuest draft).store
              { agent with status := .busy } = .error (.store (.writesDisabled key)) := by
            simp only [Board.saved, Hall.withQuest, hwrites, hkey, if_true]
          have hkept : (before.withQuest draft).store.save { agent with status := .busy } =
              before.store := by
            simp only [Store.save, Hall.withQuest, hwrites, if_true]
          rw [hfails]
          rw [hkept] at hleft
          exact .unsaved hwrites hafter hleft
      | false =>
          have hdone : Board.saved (before.withQuest draft).store
              { agent with status := .busy } = .ok () := by
            simp only [Board.saved, Hall.withQuest, hwrites, Bool.false_eq_true, if_false]
          rw [hdone]
          refine .held hwrites ⟨hafter, ⟨hreads, hwrites⟩, hstored, ?_, ?_⟩ <;> rw [hleft]
          · rfl
          · exact hgains

theorem Hosts.tookUp (hosts : env.Hosts view) (hworks : view.works world)
    (hbefore : view.hall world = before) (htidy : before.Tidy env.store.space)
    {checked posted : ω} {quest : Quest} {answer : Except BoardError Unit}
    (hcheck : env.check world = (.ok (), checked))
    (hpost : env.board.post draft checked = (.ok quest, posted))
    (hclaim : env.board.claim quest.id (entityId env.store.space key) posted = (answer, after)) :
    before.board.disabled.contains .post = false ∧ quest = before.board.fresh draft ∧
      Claimed env view key before draft
        ((before.circumstances key).claimant env.store.space key) answer after := by
  obtain ⟨hposted, ⟨-, hanswer, -⟩ | ⟨hon, hanswer, hhall⟩⟩ :=
    hosts.posted hworks hbefore hcheck hpost <;> cases hanswer
  exact ⟨hon, rfl, hosts.claimed hposted htidy hhall hclaim⟩

theorem Holds.start (h : env.Holds view key before agent draft .claimed world)
    (hosts : env.Hosts view) (htidy : before.Tidy env.store.space)
    {answer : Except BoardError Unit}
    (hstart : env.board.start before.board.freshId world = (answer, after)) :
    (before.board.disabled.contains .start = true ∧ answer = .error (.disabled .start) ∧
        env.Holds view key before agent draft .claimed after) ∨
      (before.board.disabled.contains .start = false ∧ answer = .ok () ∧
        env.Holds view key before agent draft .inProgress after) := by
  obtain ⟨hworks, htaken⟩ := h
  obtain ⟨hanswer, hhall, hafter⟩ := hosts.hall_start hworks before.board.freshId
  rw [hstart, htaken.start htidy] at hanswer hhall
  rw [hstart] at hafter
  cases hstartable : before.board.disabled.contains .start with
  | true =>
      simp only [hstartable, if_true] at hanswer hhall
      refine .inl ⟨rfl, hanswer, hafter, ?_⟩
      rw [hhall]
      exact htaken
  | false =>
      simp only [hstartable, Bool.false_eq_true, if_false] at hanswer hhall
      refine .inr ⟨rfl, hanswer, hafter, ?_⟩
      rw [hhall]
      exact htaken.setStatus htidy .inProgress

theorem Holds.submit (h : env.Holds view key before agent draft .inProgress world)
    (hosts : env.Hosts view) (htidy : before.Tidy env.store.space) {output : Payload}
    {verdict : Verdict} {answer : Except BoardError Receipt}
    (hsubmit : env.board.submit before.board.freshId output verdict world = (answer, after)) :
    (before.board.disabled.contains .submit = true ∧ answer = .error (.disabled .submit) ∧
        env.Holds view key before agent draft .inProgress after) ∨
      (before.board.disabled.contains .submit = false ∧ (∃ receipt, answer = .ok receipt) ∧
        view.works after ∧ view.hall after =
          ⟨(view.hall world).board.settle before.board.freshId output verdict,
            (view.hall world).store.save
              (Board.applyVerdict verdict draft.requiredSkills agent)⟩) := by
  obtain ⟨hworks, htaken⟩ := h
  obtain ⟨hanswer, hhall, hafter⟩ :=
    hosts.hall_submit hworks before.board.freshId output verdict
  obtain ⟨receipt, hdone⟩ := htaken.submit htidy output verdict
  rw [hsubmit, hdone] at hanswer hhall
  rw [hsubmit] at hafter
  cases hsubmittable : before.board.disabled.contains .submit with
  | true =>
      simp only [hsubmittable, if_true] at hanswer hhall
      refine .inl ⟨rfl, hanswer, hafter, ?_⟩
      rw [hhall]
      exact htaken
  | false =>
      simp only [hsubmittable, Bool.false_eq_true, if_false] at hanswer hhall
      exact .inr ⟨rfl, ⟨receipt, hanswer⟩, hafter, hhall⟩

end Working

/-- What comes of the work on a quest. It got its verdict, or there is none and the trainee still
has it. -/
inductive Completed (env : Environment ω) (view : HallView ω) (before : Hall) (agent : Agent)
    (trainee : Trainee) (draft : Draft) :
    Except AttemptError Verdict → Except AttemptError Receipt → ω → Prop
  | failed {e : AttemptError} {status : QuestStatus} {after : ω} (hactive : status.isActive = true)
      (hholds : env.Holds view trainee.key before agent draft status after) :
      Completed env view before agent trainee draft (.error e) (.error e) after
  | judged {verdict : Verdict} {receipt : Receipt} {output : Payload} {judged after : ω}
      (hholds : env.Holds view trainee.key before agent draft .inProgress judged)
      (hworks : view.works after)
      (hhall : view.hall after =
        ⟨(view.hall judged).board.settle before.board.freshId output verdict,
          (view.hall judged).store.save
            (Board.applyVerdict verdict draft.requiredSkills agent)⟩) :
      Completed env view before agent trainee draft (.ok verdict) (.ok receipt) after

theorem Hosts.completed (hosts : env.Hosts view) (hfollows : env.Follows view.works conduct)
    (htidy : before.Tidy env.store.space)
    (h : env.Holds view trainee.key before agent (Training.draft plan trainee template) .claimed
      world)
    {quest : Quest} (hquest : quest = before.board.fresh (Training.draft plan trainee template))
    {outcome : Except AttemptError Receipt}
    (hcomplete : Training.complete env plan trainee template quest world = (outcome, after)) :
    Completed env view before agent trainee (Training.draft plan trainee template)
      (conduct.verdict plan template trainee (before.circumstances trainee.key)) outcome after := by
  have hdisabled : (before.circumstances trainee.key).disabled = before.board.disabled := rfl
  have hid : quest.id = before.board.freshId := by
    rw [hquest]
    rfl
  have hwork : conduct.work trainee.agent (Conduct.posting plan template trainee) =
      conduct.work trainee.agent quest := by
    rw [← conduct.unnumbered _ quest, hquest]
    rfl
  unfold Conduct.verdict
  rw [hdisabled, hwork]
  unfold Training.complete at hcomplete
  rw [hid] at hcomplete
  split at hcomplete <;> rename_i hstart <;>
    rcases h.start hosts htidy hstart with ⟨hoff, hanswer, hheld⟩ | ⟨hon, hanswer, hbegun⟩ <;>
    cases hanswer
  · cases hcomplete
    simp only [hoff, if_true]
    exact .failed rfl hheld
  · simp only [hon, Bool.false_eq_true, if_false]
    have hworked := hbegun.unseen (hosts.execute trainee.agent quest)
    have houtput := hfollows.execute trainee.agent quest _ hbegun.1
    split at hcomplete <;> rename_i hexecute <;> rw [hexecute] at hworked houtput <;>
      rw [← houtput]
    · cases hcomplete
      exact .failed rfl hworked
    · rename_i output _
      have hjudged := hworked.unseen (hosts.judge plan.strictness template output)
      have hjudgement := hfollows.judge plan.strictness template output _ hworked.1
      split at hcomplete <;> rename_i hjudge <;> rw [hjudge] at hjudged hjudgement <;>
        simp only [← hjudgement]
      · cases hcomplete
        exact .failed rfl hjudged
      · simp only at hcomplete
        split at hcomplete <;> rename_i hsubmit <;>
          rcases hjudged.submit hosts htidy hsubmit with
            ⟨hoff, hanswer, hheld⟩ | ⟨hon, ⟨receipt, hanswer⟩, hworks, hhall⟩ <;>
          cases hanswer
        · cases hcomplete
          simp only [hoff, if_true]
          exact .failed rfl hheld
        · cases hcomplete
          simp only [hon, Bool.false_eq_true, if_false]
          exact .judged hjudged hworks hhall

theorem Hosts.workedOn (hosts : env.Hosts view) (hfollows : env.Follows view.works conduct)
    (htrainee : trainee.Keyed env.store.space) (hworks : view.works world)
    (hbefore : view.hall world = before) (htidy : before.Tidy env.store.space)
    {checked posted claimed : ω} {quest : Quest} {outcome : Except AttemptError Receipt}
    (hcheck : env.check world = (.ok (), checked))
    (hpost : env.board.post (Training.draft plan trainee template) checked = (.ok quest, posted))
    (hclaim : env.board.claim quest.id trainee.agent.id posted = (.ok (), claimed))
    (hcomplete : Training.complete env plan trainee template quest claimed = (outcome, after)) :
    before.board.disabled.contains .post = false ∧ before.store.writesDisabled = false ∧
      quest = before.board.fresh (Training.draft plan trainee template) ∧
      ∃ agent, (before.circumstances trainee.key).claimant env.store.space trainee.key =
          .ok agent ∧
        Completed env view before agent trainee (Training.draft plan trainee template)
          (conduct.verdict plan template trainee (before.circumstances trainee.key)) outcome
          after := by
  rw [htrainee] at hclaim
  obtain ⟨hon, hquest, hclaimed⟩ := hosts.tookUp hworks hbefore htidy hcheck hpost hclaim
  generalize (before.circumstances trainee.key).claimant env.store.space trainee.key = claimant
    at hclaimed ⊢
  cases hclaimed with
  | held hwrites hholds =>
      exact ⟨hon, hwrites, hquest, _, rfl,
        hosts.completed hfollows htidy hholds hquest hcomplete⟩

/-- The attempt of an agent came to what was to be expected. -/
structure Comes (env : Environment ω) (view : HallView ω) (key : String) (upshot : Upshot)
    (before : Hall) (outcome : Except AttemptError Receipt) (after : ω) : Prop where
  failure : Training.failure? outcome = upshot.failure
  tries : before.Tries [(key, upshot)] (view.hall after)
  tidy : (view.hall after).Tidy env.store.space
  works : view.works after

theorem Holds.ends {status : QuestStatus} {key : String} {draft : Draft}
    (h : env.Holds view key before agent draft status world)
    (htidy : before.Tidy env.store.space) {final : Agent} (hname : final.name = agent.name)
    (hid : final.id = agent.id) {board : Board} {quest : Quest} {count : Nat} {upshot : Upshot}
    (hgains : before.board.Gains (some quest) count board)
    (hquest : upshot.quest = some quest.unnumbered)
    (hcount : count = if upshot.failure.isNone then 1 else 0) (hfinal : upshot.agent = some final)
    {outcome : Except AttemptError Receipt} (hfailure : Training.failure? outcome = upshot.failure)
    (hworks : view.works after)
    (hhall : view.hall after = ⟨board, (view.hall world).store.save final⟩) :
    env.Comes view key upshot before outcome after := by
  obtain ⟨htries, hafter⟩ := h.2.ends htidy hname hid hgains hquest hcount hfinal
  rw [← hhall] at htries hafter
  exact ⟨hfailure, htries, hafter, hworks⟩

theorem Holds.abandon (hosts : env.Hosts view) {status : QuestStatus} {key : String}
    {draft : Draft} (h : env.Holds view key before agent draft status world)
    (htidy : before.Tidy env.store.space) (hactive : status.isActive = true) (e : AttemptError) :
    env.Comes view key
      { failure := some e
        quest := some (before.taken env.store.space key draft .failed).unnumbered
        agent := some { agent with status := .idle } }
      before (.error e) (env.board.abandon before.board.freshId world).2 := by
  obtain ⟨-, hhall, hworks⟩ := hosts.hall_abandon h.1 before.board.freshId
  rw [h.2.abandon htidy hactive] at hhall
  have hgains := h.2.gains.change htidy.numbered
    (f := fun quest => { quest with status := .failed }) fun _ => rfl
  have hname : { agent with status := Availability.idle }.name = agent.name := rfl
  exact h.ends htidy hname rfl hgains rfl rfl rfl rfl hworks hhall

/-- The attempt failed before its agent was touched. -/
theorem Comes.of_spared {key : String} {upshot : Upshot} {e : AttemptError} {board : Board}
    {quest : Option Quest} (htidy : before.Tidy env.store.space)
    (hgains : before.board.Gains quest 0 board)
    (hupshot : upshot = {
      failure := some e
      quest := quest.map Quest.unnumbered
      agent := before.store.agents.find? key })
    (hworks : view.works after) (hhall : view.hall after = ⟨board, before.store⟩) :
    env.Comes view key upshot before (.error e) after := by
  subst hupshot
  refine ⟨rfl, ?_, ?_, hworks⟩ <;> rw [hhall]
  · exact .single hgains rfl rfl rfl (fun _ _ => rfl) ⟨_, rfl⟩
  · exact ⟨htidy.keyed, hgains.numbered htidy.numbered⟩

theorem Hosts.comes_attempt (hosts : env.Hosts view) (hpermits : env.Permits view.works)
    (hfollows : env.Follows view.works conduct) (htrainee : trainee.Keyed env.store.space)
    (hworks : view.works world) (hbefore : view.hall world = before)
    (htidy : before.Tidy env.store.space) {outcome : Except AttemptError Receipt}
    (hattempt : Training.attempt env plan template trainee world = (outcome, after)) :
    env.Comes view trainee.key (conduct.upshot env.store.space plan template trainee
      (before.circumstances trainee.key)) before outcome after := by
  have hattempted : Training.Attempted env plan template trainee world outcome after := by
    simpa only [hattempt] using Training.attempted_attempt env plan template trainee world
  have hdisabled : (before.circumstances trainee.key).disabled = before.board.disabled := rfl
  have hstored : (before.circumstances trainee.key).stored =
      before.store.agents.find? trainee.key := rfl
  have hreadonly : (before.circumstances trainee.key).writesDisabled =
      before.store.writesDisabled := rfl
  have hgains := (before.board.gains_fresh (Training.draft plan trainee template)).change
    htidy.numbered (f := fun quest => { quest with
      status := .claimed, claimedBy := some (entityId env.store.space trainee.key) }) fun _ => rfl
  unfold Conduct.upshot
  rw [hdisabled, hstored, hreadonly]
  cases hattempted with
  | halted hcheck =>
      have hmay := hpermits world hworks
      rw [hcheck] at hmay
      cases hmay
  | unposted hcheck hpost =>
      obtain ⟨hposted, ⟨hoff, hanswer, hhall⟩ | ⟨-, hanswer, -⟩⟩ :=
        hosts.posted hworks hbefore hcheck hpost <;> cases hanswer
      simp only [hoff, if_true]
      exact .of_spared htidy (.none _) rfl hposted hhall
  | unclaimed hcheck hpost hclaim =>
      rw [htrainee] at hclaim
      obtain ⟨hon, rfl, hclaimed⟩ := hosts.tookUp hworks hbefore htidy hcheck hpost hclaim
      generalize (before.circumstances trainee.key).claimant env.store.space trainee.key =
        claimant at hclaimed ⊢
      simp only [hon, Bool.false_eq_true, if_false]
      cases hclaimed with
      | refused hleft hhall => exact .of_spared htidy (before.board.gains_fresh _) rfl hleft hhall
      | unsaved hoff hleft hhall =>
          simp only [hoff, if_true]
          exact .of_spared htidy hgains rfl hleft hhall
  | completed hcheck hpost hclaim hcomplete =>
      obtain ⟨hon, hwrites, -, agent, hclaimant, hcompleted⟩ :=
        hosts.workedOn hfollows htrainee hworks hbefore htidy hcheck hpost hclaim hcomplete
      generalize conduct.verdict plan template trainee (before.circumstances trainee.key) =
        verdict at hcompleted ⊢
      simp only [hon, hclaimant, hwrites, Bool.false_eq_true, if_false]
      cases hcompleted with
      | @judged verdict _ output _ _ hheld hjudged hhall =>
          exact hheld.ends htidy (Board.name_applyVerdict _ _ _) (Board.id_applyVerdict _ _ _)
            (hheld.2.gains.settle htidy.numbered output verdict) rfl rfl rfl rfl hjudged hhall
  | abandoned hcheck hpost hclaim hcomplete =>
      obtain ⟨hon, hwrites, rfl, agent, hclaimant, hcompleted⟩ :=
        hosts.workedOn hfollows htrainee hworks hbefore htidy hcheck hpost hclaim hcomplete
      generalize conduct.verdict plan template trainee (before.circumstances trainee.key) =
        verdict at hcompleted ⊢
      simp only [hon, hclaimant, hwrites, Bool.false_eq_true, if_false]
      cases hcompleted with
      | failed hactive hheld => exact hheld.abandon hosts htidy hactive _

end Environment

end QuestAcademy
