import QuestAcademy.Proofs.AttemptReport
import QuestAcademy.Proofs.ReadyHall

namespace QuestAcademy

variable {ω : Type}

def Trainee.seenIn (store : Store) (trainee : Trainee) : Trainee :=
  { trainee with
    agent :=
      if store.readsDisabled then trainee.agent
      else (store.agents.find? trainee.key).getD trainee.agent }

theorem Trainee.seenIn_of_stored {store : Store} (hreads : store.readsDisabled = false)
    {trainee : Trainee} {agent : Agent} (h : store.agents.find? trainee.key = some agent) :
    trainee.seenIn store = { trainee with agent } := by
  simp only [seenIn, hreads, h, Bool.false_eq_true, if_false, Option.getD_some]

theorem Trainee.keyed_seenIn {space : String} {store : Store} (h : store.WellKeyed space)
    {trainee : Trainee} (htrainee : trainee.Keyed space) : (trainee.seenIn store).Keyed space := by
  unfold Trainee.Keyed Trainee.seenIn
  simp only
  split
  · exact htrainee
  · cases hfound : store.agents.find? trainee.key with
    | none => exact htrainee
    | some agent => exact h.id trainee.key agent hfound

namespace Training

section Pending

variable {trainees : List Trainee}

theorem mem_pending {trainee : Trainee} {place : Nat} :
    (trainee, place) ∈ pending trainees ↔
      trainees[place]? = some trainee ∧ trainee.atTarget = false := by
  simp [pending, List.mem_zipIdx_iff_getElem?]

theorem sublist_pending : ((pending trainees).map Prod.fst).Sublist trainees := by
  have hall : trainees.zipIdx.map Prod.fst = trainees := List.zipIdx_map_fst 0 trainees
  exact (List.filter_sublist.map Prod.fst).trans (by rw [hall])

theorem nodup_places : ((pending trainees).map Prod.snd).Nodup := by
  have hall : (trainees.zipIdx.map Prod.snd).Nodup := by
    rw [List.zipIdx_map_snd]
    exact List.nodup_range'
  exact hall.sublist (List.filter_sublist.map Prod.snd)

end Pending

/-- Some trainees are at their places as they are seen in a store; nobody has changed at the other
places. -/
structure Reread (tried : List (Trainee × Nat)) (store : Store) (before after : List Trainee) :
    Prop where
  seen : ∀ pair ∈ tried, after[pair.2]? = before[pair.2]?.map fun _ => pair.1.seenIn store
  kept : ∀ place, place ∉ tried.map Prod.snd → after[place]? = before[place]?

section Rereading

variable {tried rest : List (Trainee × Nat)} {store : Store} {before after : List Trainee}

theorem Reread.none (store : Store) (trainees : List Trainee) :
    Reread [] store trainees trainees where
  seen := by
    intro pair hpair
    cases hpair
  kept := fun _ _ => rfl

theorem Reread.perm (h : Reread rest store before after) (hperm : tried.Perm rest) :
    Reread tried store before after where
  seen := fun pair hpair => h.seen pair (hperm.mem_iff.mp hpair)
  kept := fun place hplace => h.kept place fun hmem =>
    hplace ((hperm.map Prod.snd).mem_iff.mpr hmem)

theorem Reread.set {pair : Trainee × Nat} (hplace : pair.2 ∉ rest.map Prod.snd)
    (h : Reread rest store (before.set pair.2 (pair.1.seenIn store)) after) :
    Reread (pair :: rest) store before after where
  seen := by
    intro other hother
    rcases List.mem_cons.mp hother with rfl | hlater
    · rw [h.kept _ hplace, List.getElem?_set_self']
      rfl
    · have hne : pair.2 ≠ other.2 := by
        intro hsame
        rw [hsame] at hplace
        exact hplace (List.mem_map_of_mem hlater)
      rw [h.seen other hlater, List.getElem?_set_ne hne]
  kept := by
    intro place hnot
    rw [List.map_cons, List.mem_cons, not_or] at hnot
    rw [h.kept place hnot.2, List.getElem?_set_ne (Ne.symm hnot.1)]

theorem Reread.eq_map (h : Reread (pending before) store before after) :
    after = before.map fun trainee =>
      if trainee.atTarget then trainee else trainee.seenIn store := by
  apply List.ext_getElem?
  intro place
  rw [List.getElem?_map]
  have hdue : place ∈ (pending before).map Prod.snd →
      ∃ trainee, before[place]? = some trainee ∧ trainee.atTarget = false := by
    intro hmem
    obtain ⟨⟨trainee, other⟩, hpair, rfl⟩ := List.mem_map.mp hmem
    exact ⟨trainee, mem_pending.mp hpair⟩
  cases hplace : before[place]? with
  | none =>
      rw [hplace] at hdue
      rw [h.kept place fun hmem => by simpa using hdue hmem, hplace, Option.map_none]
  | some trainee =>
      rw [hplace] at hdue
      rw [Option.map_some]
      cases htarget : trainee.atTarget with
      | true =>
          rw [if_pos rfl, h.kept place ?_, hplace]
          intro hmem
          obtain ⟨other, hsame, hbelow⟩ := hdue hmem
          cases hsame
          rw [htarget] at hbelow
          cases hbelow
      | false =>
          rw [if_neg Bool.false_ne_true,
            h.seen (trainee, place) (mem_pending.mpr ⟨hplace, htarget⟩), hplace]
          rfl

end Rereading

end Training

namespace Environment

variable {env : Environment ω} {view : HallView ω} {template : Template} {budget : Nat}

theorem Hosts.refresh_eq (hosts : env.Hosts view) (trainee : Trainee) {world : ω}
    (hworks : view.works world) :
    (Training.refresh env.store trainee world).1 = trainee.seenIn (view.hall world).store ∧
      view.hall (Training.refresh env.store trainee world).2 = view.hall world ∧
      view.works (Training.refresh env.store trainee world).2 := by
  obtain ⟨hanswer, hhall, hafter⟩ := (hosts.getAgent trainee.key).hall_eq hworks
  rcases hget : env.store.getAgent trainee.key world with ⟨answer, after⟩
  rw [hget] at hanswer hhall hafter
  simp only [Store.getAgent] at hanswer hhall
  simp only [Training.refresh, hget, Trainee.seenIn]
  cases hreads : (view.hall world).store.readsDisabled with
  | true =>
      simp only [hreads, if_true] at hanswer hhall ⊢
      rw [hanswer]
      exact ⟨rfl, hhall, hafter⟩
  | false =>
      simp only [hreads, Bool.false_eq_true, if_false] at hanswer hhall ⊢
      cases hfound : (view.hall world).store.agents.find? trainee.key <;>
        rw [hfound] at hanswer hhall <;> rw [hanswer] <;> exact ⟨rfl, hhall, hafter⟩

theorem Hosts.refreshAll_eq (hosts : env.Hosts view) (trainees : List Trainee) {world : ω}
    (hworks : view.works world) :
    (Arena.refreshAll env.store trainees world).1 =
        trainees.map (Trainee.seenIn (view.hall world).store) ∧
      view.hall (Arena.refreshAll env.store trainees world).2 = view.hall world := by
  induction trainees generalizing world with
  | nil => exact ⟨rfl, rfl⟩
  | cons trainee rest ih =>
      obtain ⟨hseen, hhall, hread⟩ := hosts.refresh_eq trainee hworks
      obtain ⟨hrest, hlast⟩ := ih hread
      simp only [Arena.refreshAll, List.map_cons, hseen, hrest, hhall, hlast, and_self]

/-- To settle an attempt that was not halted notes it and reads the trainee again. -/
theorem Hosts.settled (hosts : env.Hosts view) {trainee : Trainee} {place : Nat}
    {outcome : Except AttemptError Receipt} {session last : Session ω} {result : Except Halt Unit}
    (hworks : view.works session.world)
    (hgoes : ∀ halt, Training.failure? outcome ≠ some (.halted halt))
    (hsettle : Training.settle env template budget trainee place outcome session =
      (result, last)) :
    result = .ok () ∧
      last.report = session.report.noteUpshots template [(trainee, Training.failure? outcome)] ∧
      last.trainees =
        session.trainees.set place (trainee.seenIn (view.hall session.world).store) ∧
      view.hall last.world = view.hall session.world ∧ view.works last.world := by
  have hreport := (Training.report_settle hsettle).1
  unfold Training.settle at hsettle
  split at hsettle
  · rename_i halt report hnote
    cases outcome with
    | ok receipt => cases hnote
    | error e =>
        cases e with
        | halted halt => exact absurd rfl (hgoes halt)
        | board e | execution text | judge e => cases hnote
  · rename_i report hnote
    obtain ⟨hsame, hreported⟩ := hosts.report
      (Training.roundEvent trainee template report.questsRun budget) session.world
    obtain ⟨hseen, hhall, hread⟩ := hosts.refresh_eq trainee (hreported hworks)
    rw [hsame] at hseen hhall
    cases hsettle
    exact ⟨rfl, hreport, congrArg (session.trainees.set place) hseen, hhall, hread⟩

end Environment

end QuestAcademy
