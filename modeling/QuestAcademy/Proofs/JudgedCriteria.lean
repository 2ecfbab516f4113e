import QuestAcademy.Proofs.JsonValues
import QuestAcademy.Judging

namespace QuestAcademy

namespace Keyed

variable {α : Type}

theorem mem_keys_foldl_insert (key : String) (entries map : List (String × α)) :
    key ∈ (entries.foldl (fun map entry => insert entry.1 entry.2 map) map).map Prod.fst ↔
      key ∈ map.map Prod.fst ∨ key ∈ entries.map Prod.fst := by
  induction entries generalizing map with
  | nil => simp
  | cons first rest ih =>
      rw [List.foldl_cons, ih, mem_keys_insert, List.map_cons, List.mem_cons, or_assoc,
        or_left_comm]

theorem mem_keys_ofList (key : String) (entries : List (String × α)) :
    key ∈ (ofList entries).map Prod.fst ↔ key ∈ entries.map Prod.fst := by
  simp [ofList, mem_keys_foldl_insert]

theorem find?_foldl_insert_of_not_mem {key : String} {entries : List (String × α)}
    (h : key ∉ entries.map Prod.fst) (map : List (String × α)) :
    find? key (entries.foldl (fun map entry => insert entry.1 entry.2 map) map) =
      find? key map := by
  induction entries generalizing map with
  | nil => rfl
  | cons first rest ih =>
      rw [List.map_cons, List.mem_cons, not_or] at h
      rw [List.foldl_cons, ih h.2, find?_insert, if_neg h.1]

theorem find?_ofList_of_last {key : String} {front back : List (String × α)} {value : α}
    (h : key ∉ back.map Prod.fst) :
    find? key (ofList (front ++ (key, value) :: back)) = some value := by
  rw [ofList, List.foldl_append, List.foldl_cons, find?_foldl_insert_of_not_mem h, find?_insert,
    if_pos rfl]

theorem mem_of_find?_eq_some {key : String} {value : α} {entries : List (String × α)}
    (h : find? key entries = some value) : (key, value) ∈ entries := by
  induction entries with
  | nil => cases h
  | cons first rest ih =>
      obtain ⟨k, v⟩ := first
      rw [find?] at h
      split at h
      · rename_i hk
        rw [hk, Option.some.inj h]
        exact List.mem_cons_self
      · exact List.mem_cons_of_mem _ (ih h)

/-- A property holds of all entries if it holds of those that are kept and of those that a later
entry of the same key replaces. -/
theorem forall_ofList_iff {p : α → Prop} (entries : List (String × α)) :
    ((∀ entry ∈ ofList entries, p entry.2) ∧
        entries.Pairwise fun entry later => later.1 = entry.1 → p entry.2) ↔
      ∀ entry ∈ entries, p entry.2 := by
  constructor
  · rintro ⟨hkept, hreplaced⟩ ⟨key, value⟩ hentry
    obtain ⟨front, back, rfl⟩ := List.append_of_mem hentry
    -- What is not kept was replaced by a later entry of its key.
    by_cases hlater : key ∈ back.map Prod.fst
    · obtain ⟨later, hmem, hkey⟩ := List.mem_map.mp hlater
      exact (List.pairwise_cons.mp (List.pairwise_append.mp hreplaced).2.1).1 later hmem hkey
    · exact hkept (key, value) (mem_of_find?_eq_some (find?_ofList_of_last hlater))
  · intro hall
    refine ⟨fun entry hentry => hall entry (mem_of_mem_ofList hentry), ?_⟩
    exact List.pairwise_of_forall_mem_list fun entry hentry _ _ _ => hall entry hentry

end Keyed

namespace Judgement

variable {ω : Type} {scorer : LiveScorer ω} {template : Template} {output : Payload}
  {world between after : ω}

/-- Criteria that are scored one after the other, each with the score that it is judged by. -/
inductive Graded (scorer : LiveScorer ω) (template : Template) (output : Payload) :
    ω → List (Criterion × Float) → ω → Prop
  | done (world : ω) : Graded scorer template output world [] world
  | next {world between after : ω} {criterion : Criterion} {score : Float}
      {graded : List (Criterion × Float)} :
      scorer template output criterion world = (.ok score, between) →
      Graded scorer template output between graded after →
      Graded scorer template output world ((criterion, clampUnit score) :: graded) after

/-- Of the criteria in their order, the first that cannot be scored gives this error. -/
def StopsWith (scorer : LiveScorer ω) (template : Template) (output : Payload)
    (criteria : List Criterion) (world : ω) (error : JudgeError) (after : ω) : Prop :=
  ∃ graded criterion rest between,
    criteria = graded.map Prod.fst ++ criterion :: rest ∧
    Graded scorer template output world graded between ∧
    scorer template output criterion between = (.error error, after)

theorem StopsWith.next {criterion : Criterion} {score : Float} {criteria : List Criterion}
    {error : JudgeError} (hscore : scorer template output criterion world = (.ok score, between))
    (h : StopsWith scorer template output criteria between error after) :
    StopsWith scorer template output (criterion :: criteria) world error after := by
  obtain ⟨graded, failing, rest, last, hcriteria, hgraded, herror⟩ := h
  refine ⟨(criterion, clampUnit score) :: graded, failing, rest, last, ?_, .next hscore hgraded,
    herror⟩
  rw [hcriteria]
  rfl

def scoreEntry (item : Criterion × Float) : String × Float := (item.1.name, item.2)

def markEntry (item : Criterion × Float) : String × Bool :=
  (item.1.name, decide (item.1.threshold ≤ item.2))

section Entries

variable {α : Type} {entry : Criterion × Float → String × α} {graded : List (Criterion × Float)}

theorem mem_keys_entries (hentry : ∀ item, (entry item).1 = item.1.name) (name : String) :
    name ∈ (Keyed.ofList (graded.map entry)).map Prod.fst ↔
      name ∈ (graded.map Prod.fst).map Criterion.name := by
  have hkeys : Prod.fst ∘ entry = Criterion.name ∘ Prod.fst := funext hentry
  rw [Keyed.mem_keys_ofList, List.map_map, List.map_map, hkeys]

theorem find?_entries_of_last (hentry : ∀ item, (entry item).1 = item.1.name)
    {front back : List (Criterion × Float)} {item : Criterion × Float}
    (hgraded : graded = front ++ item :: back)
    (hlast : ∀ later ∈ back, later.1.name ≠ item.1.name) :
    Keyed.find? item.1.name (Keyed.ofList (graded.map entry)) = some (entry item).2 := by
  have hback : (entry item).1 ∉ (back.map entry).map Prod.fst := by
    rw [List.map_map]
    intro hmem
    obtain ⟨later, hlater, hkey⟩ := List.mem_map.mp hmem
    exact hlast later hlater ((hentry later).symm.trans (hkey.trans (hentry item)))
  rw [hgraded, List.map_append, ← hentry item]
  exact Keyed.find?_ofList_of_last hback

end Entries

namespace Tally

def addAll (sofar : Tally) (graded : List (Criterion × Float)) : Tally :=
  graded.foldl (fun tally item => tally.add item.1 item.2) sofar

theorem scores_addAll (sofar : Tally) (graded : List (Criterion × Float)) :
    (sofar.addAll graded).scores = (graded.map scoreEntry).foldl
      (fun map entry => Keyed.insert entry.1 entry.2 map) sofar.scores := by
  induction graded generalizing sofar with
  | nil => rfl
  | cons item rest ih => exact ih (sofar.add item.1 item.2)

theorem marks_addAll (sofar : Tally) (graded : List (Criterion × Float)) :
    (sofar.addAll graded).marks = (graded.map markEntry).foldl
      (fun map entry => Keyed.insert entry.1 entry.2 map) sofar.marks := by
  induction graded generalizing sofar with
  | nil => rfl
  | cons item rest ih => exact ih (sofar.add item.1 item.2)

theorem failures_add_eq_nil_iff (sofar : Tally) (criterion : Criterion) (score : Float) :
    (sofar.add criterion score).failures = [] ↔
      sofar.failures = [] ∧ criterion.threshold ≤ score := by
  simp only [add]
  split <;> simp_all

theorem failures_addAll_eq_nil_iff (sofar : Tally) (graded : List (Criterion × Float)) :
    (sofar.addAll graded).failures = [] ↔
      sofar.failures = [] ∧ ∀ item ∈ graded, item.1.threshold ≤ item.2 := by
  induction graded generalizing sofar with
  | nil => simp [addAll]
  | cons item rest ih =>
      rw [List.forall_mem_cons, ← and_assoc, ← failures_add_eq_nil_iff]
      exact ih (sofar.add item.1 item.2)

end Tally

theorem tally_of_graded {graded : List (Criterion × Float)}
    (h : Graded scorer template output world graded between) (rest : List Criterion)
    (sofar : Tally) :
    tally scorer template output (graded.map Prod.fst ++ rest) sofar world =
      tally scorer template output rest (sofar.addAll graded) between := by
  induction h generalizing sofar with
  | done world => rfl
  | next hscore _ ih =>
      rw [List.map_cons, List.cons_append, tally, hscore]
      exact ih _

theorem tally_stops {criteria : List Criterion} {error : JudgeError}
    (h : StopsWith scorer template output criteria world error after) (sofar : Tally) :
    tally scorer template output criteria sofar world = (.error error, after) := by
  obtain ⟨graded, criterion, rest, between, rfl, hgraded, herror⟩ := h
  rw [tally_of_graded hgraded, tally, herror]

/-- Either all criteria are scored and counted, or counting stops at the first that cannot be. -/
theorem tally_cases (scorer : LiveScorer ω) (template : Template) (output : Payload)
    (criteria : List Criterion) (sofar : Tally) (world : ω) :
    (∃ graded after, Graded scorer template output world graded after ∧
        graded.map Prod.fst = criteria ∧
        tally scorer template output criteria sofar world = (.ok (sofar.addAll graded), after)) ∨
      ∃ error after, StopsWith scorer template output criteria world error after ∧
        tally scorer template output criteria sofar world = (.error error, after) := by
  induction criteria generalizing sofar world with
  | nil => exact .inl ⟨[], world, .done world, rfl, rfl⟩
  | cons criterion rest ih =>
      rw [tally]
      rcases hscore : scorer template output criterion world with ⟨_ | score, between⟩
      · rename_i error
        exact .inr ⟨error, between, ⟨[], criterion, rest, world, rfl, .done world, hscore⟩, rfl⟩
      · rcases ih (sofar.add criterion (clampUnit score)) between with
          ⟨graded, after, hgraded, hcriteria, htally⟩ | ⟨error, after, hstops, htally⟩
        · exact .inl ⟨_, after, .next hscore hgraded, congrArg (criterion :: ·) hcriteria, htally⟩
        · exact .inr ⟨error, after, hstops.next hscore, htally⟩

/-- What a judgement says of the criteria of its rubric and of their scores. -/
structure Explains (rubric : Rubric) (graded : List (Criterion × Float))
    (judgement : Judgement) : Prop where
  all : graded.map Prod.fst = rubric.criteria
  ordered : Keyed.Ordered judgement.scores ∧ Keyed.Ordered judgement.marks
  scored (name : String) :
    name ∈ judgement.scores.map Prod.fst ↔ name ∈ rubric.criteria.map Criterion.name
  marked (name : String) :
    name ∈ judgement.marks.map Prod.fst ↔ name ∈ rubric.criteria.map Criterion.name
  /-- Under a name stands the last criterion of that name. -/
  latest {front back : List (Criterion × Float)} {criterion : Criterion} {score : Float} :
    graded = front ++ (criterion, score) :: back →
    (∀ later ∈ back, later.1.name ≠ criterion.name) →
    Keyed.find? criterion.name judgement.scores = some score ∧
      Keyed.find? criterion.name judgement.marks = some (decide (criterion.threshold ≤ score))
  passed_iff : judgement.passed = true ↔ ∀ item ∈ graded, item.1.threshold ≤ item.2
  /-- The marks tell the outcome, but for a criterion that failed before another of its name. -/
  passed_iff_marks : judgement.passed = true ↔
    (∀ entry ∈ judgement.marks, entry.2 = true) ∧
      graded.Pairwise fun item later => later.1.name = item.1.name → item.1.threshold ≤ item.2
  distinct : (rubric.criteria.map Criterion.name).Nodup →
    (judgement.passed = true ↔ ∀ entry ∈ judgement.marks, entry.2 = true)

theorem explains_of_entries {rubric : Rubric} {graded : List (Criterion × Float)}
    {judgement : Judgement} (hall : graded.map Prod.fst = rubric.criteria)
    (hscores : judgement.scores = Keyed.ofList (graded.map scoreEntry))
    (hmarks : judgement.marks = Keyed.ofList (graded.map markEntry))
    (hpassed : judgement.passed = true ↔ ∀ item ∈ graded, item.1.threshold ≤ item.2) :
    Explains rubric graded judgement := by
  have hboth : judgement.passed = true ↔ (∀ entry ∈ judgement.marks, entry.2 = true) ∧
      graded.Pairwise fun item later =>
        later.1.name = item.1.name → item.1.threshold ≤ item.2 := by
    have hentries := Keyed.forall_ofList_iff (p := (· = true)) (graded.map markEntry)
    rw [List.pairwise_map, List.forall_mem_map] at hentries
    rw [hpassed, hmarks]
    simpa only [markEntry, decide_eq_true_eq] using hentries.symm
  refine {
    all := hall
    ordered := ⟨hscores ▸ Keyed.ordered_ofList _, hmarks ▸ Keyed.ordered_ofList _⟩
    scored := ?_
    marked := ?_
    latest := ?_
    passed_iff := hpassed
    passed_iff_marks := hboth
    distinct := ?_ }
  · rw [hscores, ← hall]
    exact mem_keys_entries fun _ => rfl
  · rw [hmarks, ← hall]
    exact mem_keys_entries fun _ => rfl
  · intro front back criterion score hgraded hlast
    rw [hscores, hmarks]
    exact ⟨find?_entries_of_last (fun _ => rfl) hgraded hlast,
      find?_entries_of_last (fun _ => rfl) hgraded hlast⟩
  · intro hdistinct
    rw [← hall, List.map_map, List.Nodup, List.pairwise_map] at hdistinct
    exact hboth.trans (and_iff_left (hdistinct.imp fun hne hname => absurd hname.symm hne))

theorem explains_judgement (template : Template) {rubric : Rubric}
    {graded : List (Criterion × Float)} (h : graded.map Prod.fst = rubric.criteria) :
    Explains rubric graded ((Tally.empty.addAll graded).judgement template rubric) := by
  refine explains_of_entries h (Tally.scores_addAll .empty graded)
    (Tally.marks_addAll .empty graded) ?_
  rw [Tally.judgement, List.isEmpty_iff, Tally.failures_addAll_eq_nil_iff]
  exact and_iff_right rfl

/-- Any answer but an error explains itself by the scores of all criteria, and there is an error
exactly when a criterion cannot be scored, namely the error of the first. -/
theorem byLive_explained (scorer : LiveScorer ω) (template : Template) (output : Payload)
    (rubric : Rubric) (world : ω) :
    let answer := byLive scorer template output rubric world
    (∀ judgement, answer.1 = .ok judgement →
      ∃ graded, Graded scorer template output world graded answer.2 ∧
        Explains rubric graded judgement) ∧
    ∀ error, answer.1 = .error error ↔
      StopsWith scorer template output rubric.criteria world error answer.2 := by
  intro answer
  rcases tally_cases scorer template output rubric.criteria .empty world with
    ⟨graded, after, hgraded, hcriteria, htally⟩ | ⟨error, after, hstops, htally⟩
  · have hanswer : answer = (.ok ((Tally.empty.addAll graded).judgement template rubric), after) := by
      simp only [answer, byLive, htally]
    rw [hanswer]
    refine ⟨?_, ?_⟩
    · rintro judgement ⟨⟩
      exact ⟨graded, hgraded, explains_judgement template hcriteria⟩
    · intro error
      refine iff_of_false nofun fun hstops => ?_
      rw [tally_stops hstops] at htally
      cases htally
  · have hanswer : answer = (.error error, after) := by
      simp only [answer, byLive, htally]
    rw [hanswer]
    refine ⟨nofun, fun other => ⟨?_, fun hother => ?_⟩⟩
    · rintro ⟨⟩
      exact hstops
    · rw [tally_stops hother] at htally
      cases htally
      rfl

/-- One criterion twice, asking for much and then for little. -/
def eagerThenCalm : Rubric where
  criteria := [{ name := "a", weight := 1, threshold := 0.9 },
    { name := "a", weight := 1, threshold := 0.1 }]
  totalWeight := 2

def plainTemplate : Template where
  id := "q"
  title := "Quest"
  description := ""
  difficulty := .moderate
  skills := []
  input := .null
  criteria := []

/-- The second criterion of a name hides that the first one failed. -/
theorem failure_hidden_by_name :
    Rubric.create eagerThenCalm.criteria = .ok eagerThenCalm ∧
      ∃ judgement, byRubric (.fixed 0.5) plainTemplate .null eagerThenCalm = .ok judgement ∧
        judgement.marks = [("a", true)] ∧ judgement.passed = false := by
  refine ⟨?_, _, rfl, ?_, ?_⟩
  · rfl
  · rfl
  · rfl

end Judgement

end QuestAcademy
