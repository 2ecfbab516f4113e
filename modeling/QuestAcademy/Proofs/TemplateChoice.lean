import Mathlib.Data.List.Basic
import QuestAcademy.Proofs.TrainingEnd

namespace QuestAcademy

namespace Random

theorem taken_le_drawWithin (limit tries : Nat) (random : Random) :
    random.taken ≤ (drawWithin limit tries random).2.taken := by
  induction tries generalizing random with
  | zero => exact Nat.le_refl _
  | succ tries ih =>
      have hnext : random.taken ≤ random.next.2.taken := Nat.le_add_right _ 2
      simp only [drawWithin]
      split
      · exact hnext
      · exact Nat.le_trans hnext (ih _)

theorem taken_lt_drawWithin (limit tries : Nat) (random : Random) :
    random.taken < (drawWithin limit (tries + 1) random).2.taken := by
  have hnext : random.taken < random.next.2.taken := Nat.lt_add_of_pos_right (by decide)
  simp only [drawWithin]
  split
  · exact hnext
  · exact Nat.lt_of_lt_of_le hnext (taken_le_drawWithin _ _ _)

theorem taken_lt_draw (limit : Nat) (random : Random) :
    random.taken < (draw limit random).2.taken :=
  taken_lt_drawWithin limit 1023 random

end Random

namespace Curriculum

def placesOf (difficulty : Difficulty) (buckets : List (Difficulty × List Nat)) : List Nat :=
  (buckets.lookup difficulty).getD []

theorem placesOf_cons (difficulty d : Difficulty) (places : List Nat)
    (rest : List (Difficulty × List Nat)) :
    placesOf difficulty ((d, places) :: rest) =
      if d = difficulty then places else placesOf difficulty rest := by
  unfold placesOf
  by_cases h : d = difficulty
  · rw [if_pos h, h, List.lookup_cons_self, Option.getD_some]
  · rw [if_neg h, List.lookup_cons, beq_false_of_ne (Ne.symm h)]

theorem placesOf_note (difficulty other : Difficulty) (place : Nat)
    (buckets : List (Difficulty × List Nat)) :
    placesOf difficulty (note other place buckets) =
      placesOf difficulty buckets ++ if other = difficulty then [place] else [] := by
  induction buckets with
  | nil =>
      rw [note, placesOf_cons]
      rfl
  | cons bucket rest ih =>
      obtain ⟨d, places⟩ := bucket
      rw [note, placesOf_cons]
      split
      · rename_i hsame
        rw [placesOf_cons, hsame]
        by_cases h : other = difficulty <;> simp [h]
      · rename_i hother
        rw [placesOf_cons, ih]
        by_cases h : d = difficulty
        · have hne : other ≠ difficulty := fun hsame => hother (h.trans hsame.symm)
          simp [h, hne]
        · simp [h]

theorem placesOf_foldl (difficulty : Difficulty) (entries : List (Template × Nat))
    (buckets : List (Difficulty × List Nat)) :
    placesOf difficulty (entries.foldl
        (fun buckets (template, place) => note template.difficulty place buckets) buckets) =
      placesOf difficulty buckets ++
        (entries.filter fun entry => entry.1.difficulty = difficulty).map Prod.snd := by
  induction entries generalizing buckets with
  | nil => simp
  | cons entry rest ih =>
      rw [List.foldl_cons, ih, placesOf_note]
      by_cases h : entry.1.difficulty = difficulty <;> simp [h]

theorem ofDifficulty_ofCollection (collection : Collection) (difficulty : Difficulty) :
    (ofCollection collection).ofDifficulty difficulty =
      collection.templates.filter fun template => template.difficulty = difficulty := by
  have hplaces := placesOf_foldl difficulty collection.templates.zipIdx []
  have hfound : ∀ entry ∈ collection.templates.zipIdx.filter
      (fun entry => entry.1.difficulty = difficulty),
      collection.templates[entry.2]? = some entry.1 := fun entry hentry =>
    List.mem_zipIdx_iff_getElem?.mp (List.mem_filter.mp hentry).1
  calc (ofCollection collection).ofDifficulty difficulty
      = ((collection.templates.zipIdx.filter fun entry =>
          entry.1.difficulty = difficulty).map Prod.snd).filterMap
            fun place => collection.templates[place]? := congrArg _ hplaces
    _ = (collection.templates.zipIdx.filter fun entry =>
          entry.1.difficulty = difficulty).map Prod.fst := by
        rw [List.filterMap_map, ← List.filterMap_eq_map]
        exact List.filterMap_congr hfound
    _ = (collection.templates.zipIdx.map Prod.fst).filter fun template =>
          template.difficulty = difficulty := by
        rw [List.filter_map]
        rfl
    _ = collection.templates.filter fun template => template.difficulty = difficulty := by
        rw [List.zipIdx_map_fst]

end Curriculum

namespace Difficulty

variable {d top : Difficulty}

theorem rank_injective : Function.Injective rank := by
  intro d other h
  cases d <;> cases other <;> first | rfl | cases h

theorem mem_atOrBelow_iff : d ∈ top.atOrBelow ↔ d.rank ≤ top.rank := by
  have hall : d ∈ descending := by cases d <;> decide
  simp [atOrBelow, List.mem_filter, hall]

theorem pairwise_atOrBelow (top : Difficulty) :
    top.atOrBelow.Pairwise fun harder easier => easier.rank < harder.rank :=
  List.Pairwise.filter _ (by decide)

end Difficulty

/-- The template is not beyond agents who train at this difficulty. -/
def Template.Within (template : Template) (top : Difficulty) : Prop :=
  template.difficulty.rank ≤ top.rank

instance (template : Template) (top : Difficulty) : Decidable (template.Within top) :=
  inferInstanceAs (Decidable (_ ≤ _))

/-- The hardest of the templates that are not beyond a difficulty, in the order they were loaded. -/
def hardestWithin (top : Difficulty) (templates : List Template) : List Template :=
  templates.filter fun template => template.Within top ∧
    ∀ other ∈ templates, other.Within top → other.difficulty.rank ≤ template.difficulty.rank

theorem mem_hardestWithin_iff {top : Difficulty} {templates : List Template}
    {template : Template} : template ∈ hardestWithin top templates ↔
      template ∈ templates ∧ template.Within top ∧ ∀ other ∈ templates, other.Within top →
        other.difficulty.rank ≤ template.difficulty.rank := by
  rw [hardestWithin, List.mem_filter, decide_eq_true_iff]

/-- Some of the templates are not beyond the difficulty. -/
def Offers (templates : List Template) (top : Difficulty) : Prop :=
  ∃ template ∈ templates, template.Within top

namespace Selector

theorem bucket?_eq_none_iff {curriculum : Curriculum} {difficulties : List Difficulty} :
    bucket? curriculum difficulties = none ↔
      ∀ d ∈ difficulties, curriculum.ofDifficulty d = [] := by
  induction difficulties with
  | nil => simp [bucket?]
  | cons d rest ih =>
      rw [bucket?, List.forall_mem_cons]
      split
      · rename_i hnone
        rw [ih]
        exact (and_iff_right hnone).symm
      · rename_i hsome
        exact iff_of_false (by simp) fun h => hsome h.1

/-- The first bucket that holds templates, in a list of difficulties of which each is harder than
those that follow. -/
theorem of_bucket?_eq_some {curriculum : Curriculum} {difficulties : List Difficulty}
    {templates : List Template} (h : bucket? curriculum difficulties = some templates)
    (hdescending : difficulties.Pairwise fun harder easier => easier.rank < harder.rank) :
    ∃ d ∈ difficulties, templates = curriculum.ofDifficulty d ∧
      ∀ other ∈ difficulties, d.rank < other.rank → curriculum.ofDifficulty other = [] := by
  induction difficulties with
  | nil => cases h
  | cons first rest ih =>
      obtain ⟨hfirst, hrest⟩ := List.pairwise_cons.mp hdescending
      rw [bucket?] at h
      split at h
      · rename_i hnone
        obtain ⟨d, hd, htemplates, hharder⟩ := ih h hrest
        refine ⟨d, List.mem_cons_of_mem _ hd, htemplates, ?_⟩
        intro other hother hlt
        rcases List.mem_cons.mp hother with rfl | hmem
        · exact hnone
        · exact hharder other hmem hlt
      · cases h
        refine ⟨first, List.mem_cons_self, rfl, ?_⟩
        intro other hother hlt
        rcases List.mem_cons.mp hother with rfl | hmem
        · exact absurd hlt (Nat.lt_irrefl _)
        · exact absurd hlt (Nat.lt_asymm (hfirst other hmem))

section Search

variable {collection : Collection} {top : Difficulty} {templates : List Template}

theorem not_offers_of_bucket?_eq_none
    (h : bucket? (.ofCollection collection) top.atOrBelow = none) :
    ¬ Offers collection.templates top := by
  rintro ⟨template, htemplate, hwithin⟩
  have hnone := bucket?_eq_none_iff.mp h _ (Difficulty.mem_atOrBelow_iff.mpr hwithin)
  rw [Curriculum.ofDifficulty_ofCollection, List.filter_eq_nil_iff] at hnone
  exact hnone template htemplate (decide_eq_true rfl)

/-- Going down the buckets ends where a search of all templates does. -/
theorem eq_hardestWithin_of_bucket?_eq_some
    (h : bucket? (.ofCollection collection) top.atOrBelow = some templates) :
    templates = hardestWithin top collection.templates := by
  have hne := ne_nil_of_bucket? h
  obtain ⟨d, hd, rfl, hharder⟩ := of_bucket?_eq_some h top.pairwise_atOrBelow
  rw [Curriculum.ofDifficulty_ofCollection] at hne ⊢
  have hle := Difficulty.mem_atOrBelow_iff.mp hd
  obtain ⟨hardest, hhardest⟩ := List.exists_mem_of_ne_nil _ hne
  obtain ⟨hloaded, hrank⟩ := List.mem_filter.mp hhardest
  rw [decide_eq_true_iff] at hrank
  -- The buckets that were passed over are empty, so nothing within reach is harder.
  have hmost : ∀ other ∈ collection.templates, other.Within top →
      other.difficulty.rank ≤ d.rank := by
    intro other hother hwithin
    refine Nat.le_of_not_lt fun hlt => ?_
    have hnone := hharder _ (Difficulty.mem_atOrBelow_iff.mpr hwithin) hlt
    rw [Curriculum.ofDifficulty_ofCollection, List.filter_eq_nil_iff] at hnone
    exact hnone other hother (decide_eq_true rfl)
  refine List.filter_congr fun template htemplate => decide_eq_decide.mpr ⟨?_, ?_⟩
  · rintro rfl
    exact ⟨hle, hmost⟩
  · rintro ⟨hwithin, hgreatest⟩
    have hbelow := hmost template htemplate hwithin
    have habove := hgreatest hardest hloaded (by rw [Template.Within, hrank]; exact hle)
    rw [hrank] at habove
    exact Difficulty.rank_injective (Nat.le_antisymm hbelow habove)

theorem bucket?_of_offers (h : Offers collection.templates top) :
    bucket? (.ofCollection collection) top.atOrBelow =
      some (hardestWithin top collection.templates) := by
  cases hbucket : bucket? (.ofCollection collection) top.atOrBelow with
  | none => exact absurd h (not_offers_of_bucket?_eq_none hbucket)
  | some templates => rw [eq_hardestWithin_of_bucket?_eq_some hbucket]

theorem bucket?_of_not_offers (h : ¬ Offers collection.templates top) :
    bucket? (.ofCollection collection) top.atOrBelow = none := by
  cases hbucket : bucket? (.ofCollection collection) top.atOrBelow with
  | none => rfl
  | some templates =>
      obtain ⟨template, htemplate⟩ := List.exists_mem_of_ne_nil _ (ne_nil_of_bucket? hbucket)
      rw [eq_hardestWithin_of_bucket?_eq_some hbucket, mem_hardestWithin_iff] at htemplate
      exact absurd ⟨template, htemplate.1, htemplate.2.1⟩ h

end Search

/-- A choice for a level where `draw` tells the place in a bucket of that many templates. -/
def chooseBy {ρ : Type} (draw : Nat → Nat × ρ) (rest : ρ) (curriculum : Curriculum) (level : Nat) :
    Option Template × ρ :=
  match bucket? curriculum (Difficulty.target (Tier.ofLevel level)).atOrBelow with
  | some templates => (templates[(draw templates.length).1]?, (draw templates.length).2)
  | none => (curriculum.all.head?, rest)

theorem choose_eq_chooseBy (selector : Selector) (level : Nat) :
    selector.choose level =
      chooseBy selector.place selector selector.curriculum level := by
  unfold choose chooseBy
  cases bucket? selector.curriculum (Difficulty.target (Tier.ofLevel level)).atOrBelow <;> rfl

/-- What is chosen by drawing from some templates one that is not beyond a difficulty. -/
structure Drawn {ρ : Type} (templates : List Template) (top : Difficulty) (draw : Nat → Nat × ρ)
    (rest : ρ) (answer : Option Template × ρ) : Prop where
  none_iff : answer.1 = none ↔ templates = []
  hardest : Offers templates top → ∃ pick ∈ templates, answer.1 = some pick ∧ pick.Within top ∧
    ∀ other ∈ templates, other.Within top → other.difficulty.rank ≤ pick.difficulty.rank
  drawn : Offers templates top →
    (draw (hardestWithin top templates).length).1 < (hardestWithin top templates).length ∧
      answer = ((hardestWithin top templates)[(draw (hardestWithin top templates).length).1]?,
        (draw (hardestWithin top templates).length).2)
  beyond : ¬ Offers templates top → answer = (templates.head?, rest)

/-- Nothing matters of a generator but that what it draws below a number is below it. -/
theorem drawn_chooseBy {ρ : Type} {draw : Nat → Nat × ρ}
    (hdraw : ∀ count, 0 < count → (draw count).1 < count) (rest : ρ) (collection : Collection)
    (level : Nat) :
    Drawn collection.templates (.target (.ofLevel level)) draw rest
      (chooseBy draw rest (.ofCollection collection) level) := by
  unfold chooseBy
  by_cases hoffers : Offers collection.templates (.target (.ofLevel level))
  · have hne : hardestWithin (.target (.ofLevel level)) collection.templates ≠ [] :=
      ne_nil_of_bucket? (bucket?_of_offers hoffers)
    have hlt := hdraw _ (List.length_pos_iff.mpr hne)
    have hpick := List.getElem?_eq_getElem hlt
    have hmem := mem_hardestWithin_iff.mp (List.getElem_mem hlt)
    rw [bucket?_of_offers hoffers]
    exact {
      none_iff := iff_of_false (fun hnone => Option.some_ne_none _ (hpick.symm.trans hnone))
        (List.ne_nil_of_mem hmem.1)
      hardest := fun _ => ⟨_, hmem.1, hpick, hmem.2⟩
      drawn := fun _ => ⟨hlt, rfl⟩
      beyond := fun hbeyond => absurd hoffers hbeyond }
  · rw [bucket?_of_not_offers hoffers]
    exact {
      none_iff := List.head?_eq_none_iff
      hardest := fun h => absurd h hoffers
      drawn := fun h => absurd h hoffers
      beyond := fun _ => rfl }

theorem place_of_first {selector : Selector} (h : selector.mode = .first) (count : Nat) :
    selector.place count = (0, selector) := by
  rw [place, h]

theorem place_of_ne_first {selector : Selector} (h : selector.mode ≠ .first) (count : Nat) :
    selector.place count = ((selector.random.draw count).1,
      { selector with random := (selector.random.draw count).2 }) := by
  unfold place
  split
  · rename_i hfirst
    exact absurd hfirst h
  · rfl

theorem mode_place (selector : Selector) (count : Nat) :
    (selector.place count).2.mode = selector.mode := by
  unfold place
  split <;> rfl

theorem mode_choose (selector : Selector) (level : Nat) :
    (selector.choose level).2.mode = selector.mode := by
  unfold choose
  split
  · exact selector.mode_place _
  · rfl

def after (selector : Selector) (levels : List Nat) : Selector :=
  levels.foldl (fun selector level => (selector.choose level).2) selector

theorem curriculum_after (selector : Selector) (levels : List Nat) :
    (selector.after levels).curriculum = selector.curriculum := by
  induction levels generalizing selector with
  | nil => rfl
  | cons level rest ih => exact (ih _).trans (selector.curriculum_choose level)

theorem mode_after (selector : Selector) (levels : List Nat) :
    (selector.after levels).mode = selector.mode := by
  induction levels generalizing selector with
  | nil => rfl
  | cons level rest ih => exact (ih _).trans (selector.mode_choose level)

/-- What a selector answers when it is to choose from some templates one that is not beyond a
difficulty, told by a search of all templates. -/
structure AsSearched (templates : List Template) (top : Difficulty) (selector : Selector)
    (answer : Option Template × Selector) : Prop where
  none_iff : answer.1 = none ↔ templates = []
  hardest : Offers templates top → ∃ pick ∈ templates, answer.1 = some pick ∧ pick.Within top ∧
    ∀ other ∈ templates, other.Within top → other.difficulty.rank ≤ pick.difficulty.rank
  earliest : selector.mode = .first → Offers templates top → ∃ front pick back,
    templates = front ++ pick :: back ∧ answer.1 = some pick ∧
      ∀ other ∈ front, other.difficulty ≠ pick.difficulty
  beyond : ¬ Offers templates top → answer.1 = templates.head?
  drawn : selector.mode ≠ .first → Offers templates top → ∃ place,
    selector.random.draw (hardestWithin top templates).length = (place, answer.2.random) ∧
      place < (hardestWithin top templates).length ∧
      answer.1 = (hardestWithin top templates)[place]?
  advances_iff : selector.random.taken < answer.2.random.taken ↔
    selector.mode ≠ .first ∧ Offers templates top
  rests : ¬ (selector.mode ≠ .first ∧ Offers templates top) → answer.2 = selector

section Choosing

variable {collection : Collection} {selector : Selector}

theorem exists_earliest {top : Difficulty} {templates : List Template} {pick : Template}
    {rest : List Template}
    (h : hardestWithin top templates = pick :: rest) :
    ∃ front back, templates = front ++ pick :: back ∧
      ∀ other ∈ front, other.difficulty ≠ pick.difficulty := by
  obtain ⟨front, back, hsplit, hbefore, hpick, -⟩ := List.filter_eq_cons_iff.mp h
  refine ⟨front, back, hsplit, fun other hother hsame => hbefore other hother ?_⟩
  rw [decide_eq_true_iff] at hpick ⊢
  rw [Template.Within, hsame]
  exact hpick

theorem asSearched_choose (hcurriculum : selector.curriculum = .ofCollection collection)
    (level : Nat) :
    AsSearched collection.templates (.target (.ofLevel level)) selector
      (selector.choose level) := by
  have hdrawn := drawn_chooseBy (fun _ hcount => selector.place_lt hcount) selector collection level
  rw [← hcurriculum, ← choose_eq_chooseBy] at hdrawn
  by_cases hoffers : Offers collection.templates (.target (.ofLevel level))
  · obtain ⟨hlt, hchoose⟩ := hdrawn.drawn hoffers
    refine {
      none_iff := hdrawn.none_iff
      hardest := hdrawn.hardest
      earliest := ?_
      beyond := fun hbeyond => absurd hoffers hbeyond
      drawn := ?_
      advances_iff := ?_
      rests := ?_ }
    · intro hfirst _
      obtain ⟨pick, rest, hcons⟩ := List.exists_cons_of_length_pos (Nat.zero_lt_of_lt hlt)
      obtain ⟨front, back, hsplit, hbefore⟩ := exists_earliest hcons
      refine ⟨front, pick, back, hsplit, ?_, hbefore⟩
      rw [hchoose, place_of_first hfirst, hcons]
      rfl
    · intro hseeded _
      rw [place_of_ne_first hseeded] at hlt hchoose
      rw [hchoose]
      exact ⟨_, rfl, hlt, rfl⟩
    · by_cases hfirst : selector.mode = .first
      · rw [hchoose, place_of_first hfirst]
        exact iff_of_false (Nat.lt_irrefl _) fun h => h.1 hfirst
      · rw [hchoose, place_of_ne_first hfirst]
        exact iff_of_true (Random.taken_lt_draw _ _) ⟨hfirst, hoffers⟩
    · intro hrests
      have hfirst : selector.mode = .first :=
        not_not.mp fun hseeded => hrests ⟨hseeded, hoffers⟩
      rw [hchoose, place_of_first hfirst]
  · have hchoose := hdrawn.beyond hoffers
    exact {
      none_iff := hdrawn.none_iff
      hardest := hdrawn.hardest
      earliest := fun _ h => absurd h hoffers
      beyond := fun _ => congrArg Prod.fst hchoose
      drawn := fun _ h => absurd h hoffers
      advances_iff := by
        rw [hchoose]
        exact iff_of_false (Nat.lt_irrefl _) fun h => hoffers h.2
      rests := fun _ => congrArg Prod.snd hchoose }

end Choosing

/-- A selector chooses what a search of all templates finds, after any choices before. -/
theorem choose_as_searched (collection : Collection) (mode : SelectionMode) (earlier : List Nat)
    (level : Nat) :
    let selector := (create (.ofCollection collection) mode).after earlier
    selector.mode = mode ∧ AsSearched collection.templates (.target (.ofLevel level)) selector
      (selector.choose level) :=
  ⟨mode_after _ _, asSearched_choose (curriculum_after _ _) level⟩

end Selector

end QuestAcademy
