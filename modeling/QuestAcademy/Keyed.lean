namespace QuestAcademy.Keyed

variable {α β : Type}

def insert (key : String) (value : α) : List (String × α) → List (String × α)
  | [] => [(key, value)]
  | (k, v) :: rest =>
    if key = k then (key, value) :: rest
    else if key < k then (key, value) :: (k, v) :: rest
    else (k, v) :: insert key value rest

def find? (key : String) : List (String × α) → Option α
  | [] => none
  | (k, v) :: rest => if key = k then some v else find? key rest

/-- Later entries win over earlier ones of the same key. -/
def ofList (entries : List (String × α)) : List (String × α) :=
  entries.foldl (fun map entry => insert entry.1 entry.2 map) []

def mapValues (f : α → β) (entries : List (String × α)) : List (String × β) :=
  entries.map fun entry => (entry.1, f entry.2)

/-- Keys increase strictly from entry to entry. -/
def Ordered (entries : List (String × α)) : Prop :=
  (entries.map Prod.fst).Pairwise (· < ·)

theorem find?_insert (key other : String) (value : α) (map : List (String × α)) :
    find? other (insert key value map) = if other = key then some value else find? other map := by
  induction map with
  | nil => rfl
  | cons entry rest ih =>
    obtain ⟨k, v⟩ := entry
    by_cases hk : key = k
    · subst hk
      by_cases ho : other = key <;> simp [insert, find?, ho]
    · by_cases hlt : key < k
      · simp [insert, find?, hk, hlt]
      · by_cases ho : other = key
        · subst ho
          simp [insert, find?, hk, hlt, ih]
        · simp [insert, find?, hk, hlt, ih, ho]

end QuestAcademy.Keyed

namespace QuestAcademy.Names

def insert (name : String) : List String → List String
  | [] => [name]
  | n :: rest =>
    if name = n then n :: rest
    else if name < n then name :: n :: rest
    else n :: insert name rest

def ofList (names : List String) : List String :=
  names.foldl (fun set name => insert name set) []

def erase (name : String) (names : List String) : List String :=
  names.filter (· ≠ name)

theorem mem_insert (name other : String) (names : List String) :
    other ∈ insert name names ↔ other = name ∨ other ∈ names := by
  induction names with
  | nil => simp [insert]
  | cons n rest ih =>
    by_cases hn : name = n
    · subst hn
      simp [insert]
    · by_cases hlt : name < n
      · simp [insert, hn, hlt]
      · simp only [insert, hn, hlt, if_false, List.mem_cons, ih]
        exact or_left_comm

end QuestAcademy.Names
