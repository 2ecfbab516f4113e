import QuestAcademy.Proofs.AttemptUpshot

namespace QuestAcademy

section Reports

/-- Reports that differ at most in the order of their errors. -/
structure Report.Agrees (one other : Report) : Prop where
  errors : one.errors.Perm other.errors
  rest : one = { other with errors := one.errors }

theorem Report.Agrees.refl (report : Report) : report.Agrees report := ⟨.refl _, rfl⟩

theorem Report.Agrees.symm {one other : Report} (h : one.Agrees other) : other.Agrees one := by
  refine ⟨h.errors.symm, ?_⟩
  rw [h.rest]

theorem Report.Agrees.trans {one other last : Report} (h : one.Agrees other)
    (hlast : other.Agrees last) : one.Agrees last := by
  refine ⟨h.errors.trans hlast.errors, ?_⟩
  rw [h.rest, hlast.rest]

theorem Report.Agrees.noteUpshots {one other : Report} (h : one.Agrees other) (template : Template)
    {upshots later : List (Trainee × Option AttemptError)} (hperm : upshots.Perm later) :
    (one.noteUpshots template upshots).Agrees (other.noteUpshots template later) := by
  refine ⟨h.errors.append (hperm.filterMap _), ?_⟩
  rw [h.rest]
  simp only [Report.noteUpshots, hperm.length_eq, hperm.countP_eq]

theorem Report.Agrees.noteError {one other : Report} (h : one.Agrees other) (text : String) :
    (one.noteError text).Agrees (other.noteError text) := by
  refine ⟨h.errors.append_right _, ?_⟩
  rw [h.rest]
  rfl

end Reports

namespace Hall

/-- Halls that differ at most in the order of their quests and in what goes with it: the numbers of
the quests, and the outputs by number. -/
structure Agrees (one other : Hall) : Prop where
  store : one.store = other.store
  quests : (one.board.quests.map Quest.unnumbered).Perm (other.board.quests.map Quest.unnumbered)
  disabled : one.board.disabled = other.board.disabled
  barred : one.board.barred = other.board.barred
  submissions : one.board.submissions = other.board.submissions

theorem Agrees.refl (hall : Hall) : hall.Agrees hall := ⟨rfl, .refl _, rfl, rfl, rfl⟩

section Tries

variable {space key : String} {before middle after other : Hall}
  {tries later : List (String × Upshot)}

theorem Agrees.circumstances (h : before.Agrees after) (key : String) :
    after.circumstances key = before.circumstances key := by
  simp only [Hall.circumstances, h.store, h.disabled, h.barred]

theorem Tries.nil (hall : Hall) : hall.Tries [] hall where
  tried := fun _ _ hmem => absurd hmem List.not_mem_nil
  others := fun _ _ => rfl
  frame := ⟨hall.store.agents.byKey, rfl⟩
  quests := by simp
  disabled := rfl
  barred := rfl
  submissions := rfl

theorem Tries.circumstances (h : before.Tries tries after) (hkey : key ∉ tries.map Prod.fst) :
    after.circumstances key = before.circumstances key := by
  obtain ⟨byKey, hframe⟩ := h.frame
  have hfound := h.others key hkey
  rw [hframe] at hfound
  simp only [Hall.circumstances, hframe, hfound, h.disabled, h.barred]

theorem Tries.append (h : before.Tries tries middle) (hlater : middle.Tries later after)
    (hapart : ∀ key ∈ tries.map Prod.fst, key ∉ later.map Prod.fst) :
    before.Tries (tries ++ later) after where
  tried := by
    intro key upshot hmem
    rcases List.mem_append.mp hmem with hfirst | hsecond
    · rw [hlater.others key (hapart key (List.mem_map_of_mem hfirst))]
      exact h.tried key upshot hfirst
    · exact hlater.tried key upshot hsecond
  others := by
    intro key hkey
    rw [List.map_append, List.mem_append, not_or] at hkey
    rw [hlater.others key hkey.2, h.others key hkey.1]
  frame := by
    obtain ⟨byKey, hframe⟩ := hlater.frame
    obtain ⟨old, hold⟩ := h.frame
    exact ⟨byKey, by rw [hframe, hold]⟩
  quests := by
    rw [List.filterMap_append, ← List.append_assoc]
    exact hlater.quests.trans (h.quests.append_right _)
  disabled := hlater.disabled.trans h.disabled
  barred := hlater.barred.trans h.barred
  submissions := by
    rw [hlater.submissions, h.submissions, List.countP_append, Nat.add_assoc]

theorem Tries.congr (h : before.Tries tries after) (hperm : tries.Perm later)
    (hother : before.Agrees other) : other.Tries later after where
  tried := fun key upshot hmem => h.tried key upshot (hperm.mem_iff.mpr hmem)
  others := by
    intro key hkey
    rw [← hother.store]
    exact h.others key fun hmem => hkey ((hperm.map Prod.fst).mem_iff.mp hmem)
  frame := by
    rw [← hother.store]
    exact h.frame
  quests := h.quests.trans (hother.quests.append (hperm.filterMap _))
  disabled := h.disabled.trans hother.disabled
  barred := h.barred.trans hother.barred
  submissions := by rw [h.submissions, hother.submissions, hperm.countP_eq]

theorem Tries.agrees (h : before.Tries tries after) (hother : before.Tries tries other)
    (hafter : after.Tidy space) (hlast : other.Tidy space) : after.Agrees other where
  store := by
    have hsame : ∀ key, after.store.agents.find? key = other.store.agents.find? key := by
      intro key
      by_cases hkey : key ∈ tries.map Prod.fst
      · obtain ⟨⟨tried, upshot⟩, hmem, rfl⟩ := List.mem_map.mp hkey
        rw [h.tried _ upshot hmem, hother.tried _ upshot hmem]
      · rw [h.others key hkey, hother.others key hkey]
    have hmap := hafter.keyed.sound.ordered.ext hlast.keyed.sound.ordered hsame
    obtain ⟨byKey, hframe⟩ := h.frame
    obtain ⟨otherByKey, hotherFrame⟩ := hother.frame
    rw [hframe, hotherFrame] at hmap ⊢
    simp only at hmap
    rw [hmap]
  quests := h.quests.trans hother.quests.symm
  disabled := h.disabled.trans hother.disabled.symm
  barred := h.barred.trans hother.barred.symm
  submissions := h.submissions.trans hother.submissions.symm

end Tries

end Hall

end QuestAcademy
