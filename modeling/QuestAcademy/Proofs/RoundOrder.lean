import QuestAcademy.Proofs.Agreement
import QuestAcademy.Proofs.AttemptForecast
import QuestAcademy.Proofs.Rereading

/-!
The order of the attempts in a round. Whoever tries first, and whenever attempts are settled, a
round leaves the same agents, the same trainees and the same counts; only the order of quests and of
errors may differ.
-/

namespace QuestAcademy

variable {ω : Type}

namespace Training

section Orders

variable (env : Environment ω) (plan : ArenaPlan) (template : Template) (budget : Nat)

/-- A round as it may go when several are at work at once, from the trainees who have not tried yet
and the attempts that are not settled: at any time one of these may try, or one of those be settled.
-/
inductive Tackle : List (Trainee × Nat) → List ((Trainee × Nat) × Except AttemptError Receipt) →
    Session ω → Except Halt Unit → Session ω → Prop
  | done (session : Session ω) : Tackle [] [] session (.ok ()) session
  | attempt {untried rest : List (Trainee × Nat)}
      {unsettled : List ((Trainee × Nat) × Except AttemptError Receipt)} {trainee : Trainee}
      {place : Nat} {session last : Session ω} {outcome : Except AttemptError Receipt} {after : ω}
      {result : Except Halt Unit} (hnext : untried.Perm ((trainee, place) :: rest))
      (hattempt : attempt env plan template trainee session.world = (outcome, after))
      (hrest : Tackle rest (((trainee, place), outcome) :: unsettled)
        { session with world := after } result last) :
      Tackle untried unsettled session result last
  | settle {untried : List (Trainee × Nat)}
      {unsettled rest : List ((Trainee × Nat) × Except AttemptError Receipt)} {trainee : Trainee}
      {place : Nat} {session settled last : Session ω} {outcome : Except AttemptError Receipt}
      {result : Except Halt Unit} (hnext : unsettled.Perm (((trainee, place), outcome) :: rest))
      (hsettle : settle env template budget trainee place outcome session = (.ok (), settled))
      (hrest : Tackle untried rest settled result last) :
      Tackle untried unsettled session result last
  | halted {untried : List (Trainee × Nat)}
      {unsettled rest : List ((Trainee × Nat) × Except AttemptError Receipt)} {trainee : Trainee}
      {place : Nat} {session last : Session ω} {outcome : Except AttemptError Receipt}
      {halt : Halt} (hnext : unsettled.Perm (((trainee, place), outcome) :: rest))
      (hsettle : settle env template budget trainee place outcome session =
        (.error halt, last)) :
      Tackle untried unsettled session (.error halt) last

variable {env plan template budget}

theorem Tackle.perm {untried due : List (Trainee × Nat)}
    {unsettled made : List ((Trainee × Nat) × Except AttemptError Receipt)}
    {session last : Session ω} {result : Except Halt Unit}
    (h : Tackle env plan template budget untried unsettled session result last)
    (hdue : due.Perm untried) (hmade : made.Perm unsettled) :
    Tackle env plan template budget due made session result last := by
  induction h generalizing due made with
  | done session =>
      rw [hdue.eq_nil, hmade.eq_nil]
      exact .done session
  | attempt hnext hattempt hrest ih =>
      exact .attempt (hdue.trans hnext) hattempt (ih (.refl _) (hmade.cons _))
  | settle hnext hsettle hrest ih => exact .settle (hmade.trans hnext) hsettle (ih hdue (.refl _))
  | halted hnext hsettle => exact .halted (hmade.trans hnext) hsettle

variable {due : List (Trainee × Nat)} {session last : Session ω} {attempts : List (Attempt ω)}
  {result : Except Halt Unit}

theorem InTurn.tackle (h : InTurn env plan template budget due session attempts result last) :
    Tackle env plan template budget due [] session result last := by
  induction h with
  | done session => exact .done session
  | halted hattempt hsettle => exact .attempt (.refl _) hattempt (.halted (.refl _) hsettle)
  | next hattempt hsettle hrest ih =>
      exact .attempt (.refl _) hattempt (.settle (.refl _) hsettle ih)

theorem tackle_settleAll {outcomes : List ((Trainee × Nat) × Except AttemptError Receipt)}
    (h : settleAll env template budget outcomes session = (result, last)) :
    Tackle env plan template budget [] outcomes session result last := by
  induction outcomes generalizing session with
  | nil =>
      cases h
      exact .done _
  | cons entry rest ih =>
      obtain ⟨⟨trainee, place⟩, outcome⟩ := entry
      rw [settleAll] at h
      split at h <;> rename_i hsettle
      · cases h
        exact .halted (.refl _) hsettle
      · exact .settle (.refl _) hsettle (ih h)

theorem AtOnce.tackle {start world : ω} (h : AtOnce env plan template due start attempts world)
    (made : List ((Trainee × Nat) × Except AttemptError Receipt))
    (hsettle : settleAll env template budget (made ++ attempts.map Attempt.result)
      { session with world } = (result, last)) :
    Tackle env plan template budget due made { session with world := start } result last := by
  induction h generalizing made with
  | done start =>
      rw [List.map_nil, List.append_nil] at hsettle
      exact tackle_settleAll hsettle
  | @next trainee place _ _ _ _ outcome _ hattempt hrest ih =>
      rw [List.map_cons, List.append_cons] at hsettle
      have hlater := ih (made ++ [((trainee, place), outcome)]) hsettle
      exact .attempt (.refl _) hattempt
        (hlater.perm (.refl _) (List.perm_append_singleton _ made).symm)

theorem Made.tackle (h : Made env plan template budget due session attempts result last) :
    Tackle env plan template budget due [] session result last := by
  cases h with
  | inTurn hturn hmade => exact hmade.tackle
  | atOnce hmany hmade hsettle => exact hmade.tackle [] hsettle

variable (env plan template budget) in
/-- A round takes one of the orders, whatever the order of the trainees it is given. -/
theorem tackle_round {untried : List (Trainee × Nat)} (hdue : untried.Perm due)
    (session : Session ω) :
    Tackle env plan template budget untried [] session
      (round env plan template budget due session).1
      (round env plan template budget due session).2 := by
  obtain ⟨attempts, hmade⟩ := made_round env plan template budget due session
  exact hmade.tackle.perm hdue (.refl _)

end Orders

end Training

theorem Hall.Tries.seenIn {before after : Hall} {tries : List (String × Upshot)}
    (h : before.Tries tries after) {trainee : Trainee} (hkey : trainee.key ∉ tries.map Prod.fst) :
    trainee.seenIn after.store = trainee.seenIn before.store := by
  obtain ⟨byKey, hframe⟩ := h.frame
  have hfound := h.others trainee.key hkey
  have hreads : after.store.readsDisabled = before.store.readsDisabled := by rw [hframe]
  simp only [Trainee.seenIn, hfound, hreads]

namespace Conduct

variable (conduct : Conduct) (space : String) (plan : ArenaPlan) (template : Template) (hall : Hall)

/-- What is to be expected of a trainee in a hall. -/
def forecast (trainee : Trainee) : Upshot :=
  conduct.upshot space plan template trainee (hall.circumstances trainee.key)

def tries (due : List (Trainee × Nat)) : List (String × Upshot) :=
  due.map fun pair => (pair.1.key, conduct.forecast space plan template hall pair.1)

def notes (due : List (Trainee × Nat)) : List (Trainee × Option AttemptError) :=
  due.map fun pair => (pair.1, (conduct.forecast space plan template hall pair.1).failure)

theorem keys_tries (due : List (Trainee × Nat)) :
    (conduct.tries space plan template hall due).map Prod.fst = due.map fun pair => pair.1.key := by
  rw [tries, List.map_map]
  rfl

theorem perm_tries {due other : List (Trainee × Nat)} (h : due.Perm other) :
    (conduct.tries space plan template hall due).Perm
      (conduct.tries space plan template hall other) :=
  h.map _

theorem perm_notes {due other : List (Trainee × Nat)} (h : due.Perm other) :
    (conduct.notes space plan template hall due).Perm
      (conduct.notes space plan template hall other) :=
  h.map _

theorem forecast_congr {hall after : Hall} {due : List (Trainee × Nat)}
    {tries : List (String × Upshot)} (h : hall.Tries tries after)
    (hapart : ∀ key ∈ tries.map Prod.fst, key ∉ due.map fun pair => pair.1.key) :
    conduct.tries space plan template after due = conduct.tries space plan template hall due ∧
      conduct.notes space plan template after due =
        conduct.notes space plan template hall due := by
  have hsame : ∀ pair ∈ due, conduct.forecast space plan template after pair.1 =
      conduct.forecast space plan template hall pair.1 := by
    intro pair hpair
    have hkey : pair.1.key ∉ tries.map Prod.fst :=
      fun hmem => hapart _ hmem (List.mem_map_of_mem hpair)
    rw [forecast, forecast, h.circumstances hkey]
  exact ⟨List.map_congr_left fun pair hpair => by rw [hsame pair hpair],
    List.map_congr_left fun pair hpair => by rw [hsame pair hpair]⟩

end Conduct

namespace Environment

variable {env : Environment ω} {view : HallView ω} {conduct : Conduct} {plan : ArenaPlan}
  {template : Template} {budget : Nat}

/-- What comes of a round, from the trainees who have not tried yet and the attempts that are not
settled. -/
structure Tackled (env : Environment ω) (view : HallView ω) (conduct : Conduct) (plan : ArenaPlan)
    (template : Template) (untried : List (Trainee × Nat))
    (unsettled : List ((Trainee × Nat) × Except AttemptError Receipt)) (session last : Session ω) :
    Prop where
  works : view.works last.world
  tidy : (view.hall last.world).Tidy env.store.space
  tries : (view.hall session.world).Tries
    (conduct.tries env.store.space plan template (view.hall session.world) untried)
    (view.hall last.world)
  report : last.report.Agrees (session.report.noteUpshots template
    (unsettled.map (fun entry => (entry.1.1, Training.failure? entry.2)) ++
      conduct.notes env.store.space plan template (view.hall session.world) untried))
  reread : Training.Reread (unsettled.map Prod.fst ++ untried) (view.hall last.world).store
    session.trainees last.trainees

/-- Whose turn it still is: trainees who have the ids of their keys, all with different keys and
places, and attempts that were not halted. -/
structure Due (space : String) (untried : List (Trainee × Nat))
    (unsettled : List ((Trainee × Nat) × Except AttemptError Receipt)) : Prop where
  keyed : ∀ pair ∈ untried, pair.1.Keyed space
  keys : ((unsettled.map Prod.fst ++ untried).map fun pair => pair.1.key).Nodup
  places : ((unsettled.map Prod.fst ++ untried).map Prod.snd).Nodup
  unhalted : ∀ entry ∈ unsettled, ∀ halt, Training.failure? entry.2 ≠ some (.halted halt)

section Due

variable {space : String} {untried rest : List (Trainee × Nat)}
  {unsettled left : List ((Trainee × Nat) × Except AttemptError Receipt)} {pair : Trainee × Nat}
  {outcome : Except AttemptError Receipt}

theorem perm_attempted (unsettled : List ((Trainee × Nat) × Except AttemptError Receipt))
    (outcome : Except AttemptError Receipt) (hnext : untried.Perm (pair :: rest)) :
    (unsettled.map Prod.fst ++ untried).Perm
      (((pair, outcome) :: unsettled).map Prod.fst ++ rest) :=
  (hnext.append_left _).trans List.perm_middle

theorem perm_settled (untried : List (Trainee × Nat))
    (hnext : unsettled.Perm ((pair, outcome) :: left)) :
    (unsettled.map Prod.fst ++ untried).Perm (pair :: (left.map Prod.fst ++ untried)) :=
  (hnext.map Prod.fst).append_right untried

theorem Due.attempt (h : Due space untried unsettled) (hnext : untried.Perm (pair :: rest))
    (hgoes : ∀ halt, Training.failure? outcome ≠ some (.halted halt)) :
    pair.1.Keyed space ∧ pair.1.key ∉ rest.map (fun pair => pair.1.key) ∧
      Due space rest ((pair, outcome) :: unsettled) := by
  have hperm := perm_attempted unsettled outcome hnext
  have hkeys := (hperm.map fun pair => pair.1.key).nodup_iff.mp h.keys
  refine ⟨h.keyed pair (hnext.mem_iff.mpr List.mem_cons_self), ?_, ?_, hkeys,
    (hperm.map Prod.snd).nodup_iff.mp h.places, ?_⟩
  · intro hmem
    rw [List.map_cons, List.cons_append, List.map_cons, List.map_append] at hkeys
    exact (List.nodup_cons.mp hkeys).1 (List.mem_append_right _ hmem)
  · exact fun other hother => h.keyed other (hnext.mem_iff.mpr (List.mem_cons_of_mem _ hother))
  · intro entry hentry
    rcases List.mem_cons.mp hentry with rfl | hold
    · exact hgoes
    · exact h.unhalted entry hold

theorem Due.settle (h : Due space untried unsettled)
    (hnext : unsettled.Perm ((pair, outcome) :: left)) :
    (∀ halt, Training.failure? outcome ≠ some (.halted halt)) ∧
      pair.1.key ∉ untried.map (fun pair => pair.1.key) ∧
      pair.2 ∉ (left.map Prod.fst ++ untried).map Prod.snd ∧ Due space untried left := by
  have hperm := perm_settled untried hnext
  have hkeys := (hperm.map fun pair => pair.1.key).nodup_iff.mp h.keys
  have hplaces := (hperm.map Prod.snd).nodup_iff.mp h.places
  obtain ⟨hkey, hkeys⟩ := List.nodup_cons.mp hkeys
  obtain ⟨hplace, hplaces⟩ := List.nodup_cons.mp hplaces
  refine ⟨h.unhalted _ (hnext.mem_iff.mpr List.mem_cons_self), ?_, hplace, h.keyed, hkeys, hplaces,
    fun entry hentry => h.unhalted entry (hnext.mem_iff.mpr (List.mem_cons_of_mem _ hentry))⟩
  intro hmem
  rw [List.map_append] at hkey
  exact hkey (List.mem_append_right _ hmem)

end Due

theorem Tackled.attempt {untried rest : List (Trainee × Nat)}
    {unsettled : List ((Trainee × Nat) × Except AttemptError Receipt)} {pair : Trainee × Nat}
    {outcome : Except AttemptError Receipt} {session last : Session ω} {after : ω}
    (hnext : untried.Perm (pair :: rest)) (hapart : pair.1.key ∉ rest.map fun pair => pair.1.key)
    (hcomes : env.Comes view pair.1.key
      (conduct.forecast env.store.space plan template (view.hall session.world) pair.1)
      (view.hall session.world) outcome after)
    (h : Tackled env view conduct plan template rest ((pair, outcome) :: unsettled)
      { session with world := after } last) :
    Tackled env view conduct plan template untried unsettled session last := by
  have hfirst : ∀ key ∈ [(pair.1.key, conduct.forecast env.store.space plan template
      (view.hall session.world) pair.1)].map Prod.fst,
      key ∉ rest.map fun pair => pair.1.key := by
    intro key hkey
    rw [List.mem_singleton.mp hkey]
    exact hapart
  obtain ⟨htries, hnotes⟩ :=
    conduct.forecast_congr env.store.space plan template hcomes.tries hfirst
  have hlater := h.tries
  have hreport := h.report
  simp only [htries, hnotes] at hlater hreport
  refine ⟨h.works, h.tidy, ?_, ?_, h.reread.perm (perm_attempted unsettled outcome hnext)⟩
  · have hall := hcomes.tries.append hlater (by rwa [conduct.keys_tries])
    exact hall.congr (conduct.perm_tries _ plan template _ hnext.symm) (.refl _)
  · refine hreport.trans ((Report.Agrees.refl _).noteUpshots template ?_)
    rw [List.map_cons, hcomes.failure]
    exact List.perm_middle.symm.trans
      ((conduct.perm_notes _ plan template _ hnext.symm).append_left _)

theorem Tackled.settle {untried : List (Trainee × Nat)}
    {unsettled left : List ((Trainee × Nat) × Except AttemptError Receipt)}
    {pair : Trainee × Nat} {outcome : Except AttemptError Receipt}
    {session settled last : Session ω} (hnext : unsettled.Perm ((pair, outcome) :: left))
    (hkey : pair.1.key ∉ untried.map fun pair => pair.1.key)
    (hplace : pair.2 ∉ (left.map Prod.fst ++ untried).map Prod.snd)
    (hreport : settled.report =
      session.report.noteUpshots template [(pair.1, Training.failure? outcome)])
    (htrainees : settled.trainees =
      session.trainees.set pair.2 (pair.1.seenIn (view.hall session.world).store))
    (hhall : view.hall settled.world = view.hall session.world)
    (h : Tackled env view conduct plan template untried left settled last) :
    Tackled env view conduct plan template untried unsettled session last := by
  have htries := h.tries
  have hnoted := h.report
  rw [hhall] at htries hnoted
  refine ⟨h.works, h.tidy, htries, ?_, ?_⟩
  · rw [hreport, ← Report.noteUpshots_append] at hnoted
    have hnotes := hnext.symm.map fun entry => (entry.1.1, Training.failure? entry.2)
    exact hnoted.trans ((Report.Agrees.refl _).noteUpshots template (hnotes.append_right _))
  · -- What the trainee was seen to be is true to the end: nobody else has its key.
    have hseen : pair.1.seenIn (view.hall last.world).store =
        pair.1.seenIn (view.hall session.world).store :=
      htries.seenIn (by rwa [conduct.keys_tries])
    have hreread := h.reread
    rw [htrainees, ← hseen] at hreread
    exact (hreread.set hplace).perm (perm_settled untried hnext)

theorem Hosts.tackled (hosts : env.Hosts view) (hpermits : env.Permits view.works)
    (hfollows : env.Follows view.works conduct) {untried : List (Trainee × Nat)}
    {unsettled : List ((Trainee × Nat) × Except AttemptError Receipt)} {session last : Session ω}
    {result : Except Halt Unit}
    (h : Training.Tackle env plan template budget untried unsettled session result last)
    (hworks : view.works session.world) (htidy : (view.hall session.world).Tidy env.store.space)
    (hdue : Due env.store.space untried unsettled) :
    result = .ok () ∧ Tackled env view conduct plan template untried unsettled session last := by
  induction h with
  | done session =>
      refine ⟨rfl, hworks, htidy, .nil _, ?_, .none _ _⟩
      rw [Conduct.notes, List.map_nil, List.map_nil, List.append_nil, Report.noteUpshots_nil]
      exact .refl _
  | @attempt _ _ _ trainee place _ _ outcome _ _ hnext hattempt hrest ih =>
      have hkeyed := hdue.keyed _ (hnext.mem_iff.mpr List.mem_cons_self)
      have hcomes := hosts.comes_attempt hpermits hfollows hkeyed hworks rfl htidy hattempt
      have hgoes : ∀ halt, Training.failure? outcome ≠ some (.halted halt) := by
        rw [hcomes.failure]
        exact conduct.failure_upshot_ne env.store.space plan template trainee _
      obtain ⟨-, hapart, hrestDue⟩ := hdue.attempt hnext hgoes
      obtain ⟨hok, htackled⟩ := ih hcomes.works hcomes.tidy hrestDue
      exact ⟨hok, htackled.attempt hnext hapart hcomes⟩
  | settle hnext hsettle hrest ih =>
      obtain ⟨hgoes, hkey, hplace, hrestDue⟩ := hdue.settle hnext
      obtain ⟨-, hreport, htrainees, hhall, hread⟩ := hosts.settled hworks hgoes hsettle
      rw [← hhall] at htidy
      obtain ⟨hok, htackled⟩ := ih hread htidy hrestDue
      exact ⟨hok, htackled.settle hnext hkey hplace hreport htrainees hhall⟩
  | halted hnext hsettle =>
      obtain ⟨hgoes, -⟩ := hdue.settle hnext
      cases (hosts.settled hworks hgoes hsettle).1

end Environment

end QuestAcademy
