import QuestAcademy.Json
import QuestAcademy.Proofs.AgentTable

namespace QuestAcademy

namespace Keyed

variable {α β : Type}

theorem mem_insert {entry : String × α} {key : String} {value : α} {entries : List (String × α)}
    (h : entry ∈ insert key value entries) : entry = (key, value) ∨ entry ∈ entries := by
  induction entries with
  | nil => exact .inl (List.mem_singleton.mp h)
  | cons first rest ih =>
      rw [insert] at h
      split at h
      · rcases List.mem_cons.mp h with hnew | hrest
        · exact .inl hnew
        · exact .inr (List.mem_cons_of_mem _ hrest)
      · split at h
        · exact List.mem_cons.mp h
        · rcases List.mem_cons.mp h with hfirst | hrest
          · exact .inr (hfirst ▸ List.mem_cons_self)
          · exact (ih hrest).imp_right (List.mem_cons_of_mem _)

theorem ordered_foldl_insert {map : List (String × α)} (h : Ordered map)
    (entries : List (String × α)) :
    Ordered (entries.foldl (fun map entry => insert entry.1 entry.2 map) map) ∧
      ∀ entry ∈ entries.foldl (fun map entry => insert entry.1 entry.2 map) map,
        entry ∈ map ∨ entry ∈ entries := by
  induction entries generalizing map with
  | nil => exact ⟨h, fun entry hmem => .inl hmem⟩
  | cons first rest ih =>
      obtain ⟨hordered, hmem⟩ := ih (ordered_insert first.1 first.2 h)
      refine ⟨hordered, fun entry hentry => ?_⟩
      rcases hmem entry hentry with hinserted | hrest
      · rcases mem_insert hinserted with rfl | hmap
        · exact .inr List.mem_cons_self
        · exact .inl hmap
      · exact .inr (List.mem_cons_of_mem _ hrest)

theorem ordered_nil : Ordered ([] : List (String × α)) :=
  List.Pairwise.nil

theorem ordered_ofList (entries : List (String × α)) : Ordered (ofList entries) :=
  (ordered_foldl_insert ordered_nil entries).1

theorem mem_of_mem_ofList {entry : String × α} {entries : List (String × α)}
    (h : entry ∈ ofList entries) : entry ∈ entries :=
  ((ordered_foldl_insert ordered_nil entries).2 entry h).resolve_left List.not_mem_nil

theorem insert_of_last {key : String} {map : List (String × α)}
    (h : ∀ other ∈ map.map Prod.fst, other < key) (value : α) :
    insert key value map = map ++ [(key, value)] := by
  induction map with
  | nil => rfl
  | cons first rest ih =>
      obtain ⟨hfirst, hrest⟩ := List.forall_mem_cons.mp h
      rw [insert, if_neg hfirst.ne', if_neg hfirst.not_gt, ih hrest]
      rfl

theorem foldl_insert_of_ordered {map entries : List (String × α)}
    (h : Ordered (map ++ entries)) :
    entries.foldl (fun map entry => insert entry.1 entry.2 map) map = map ++ entries := by
  induction entries generalizing map with
  | nil => exact (List.append_nil map).symm
  | cons first rest ih =>
      -- In order, each key comes after all that are in the map already, so none is replaced.
      have hlast : ∀ other ∈ map.map Prod.fst, other < first.1 := by
        intro other hother
        rw [Ordered, List.map_append] at h
        exact (List.pairwise_append.mp h).2.2 other hother first.1 List.mem_cons_self
      rw [List.append_cons] at h ⊢
      rw [List.foldl_cons, insert_of_last hlast]
      exact ih h

theorem ofList_of_ordered {entries : List (String × α)} (h : Ordered entries) :
    ofList entries = entries :=
  @foldl_insert_of_ordered α [] entries h

@[simp]
theorem ordered_mapValues (f : α → β) (entries : List (String × α)) :
    Ordered (mapValues f entries) ↔ Ordered entries := by
  simp [Ordered, mapValues, List.map_map, Function.comp_def]

theorem mapValues_inverse {f : α → β} {g : β → α} {entries : List (String × α)}
    (h : ∀ entry ∈ entries, g (f entry.2) = entry.2) :
    mapValues g (mapValues f entries) = entries := by
  have hsame : ∀ entry ∈ entries, (entry.1, g (f entry.2)) = id entry :=
    fun entry hmem => Prod.ext rfl (h entry hmem)
  rw [mapValues, mapValues, List.map_map]
  exact (List.map_congr_left hsame).trans (List.map_id entries)

end Keyed

namespace Reading

variable {α β : Type}

theorem exists_of_mem_mapM {read : α → Option β} {items : List α} {values : List β}
    (h : items.mapM read = some values) {value : β} (hmem : value ∈ values) :
    ∃ item ∈ items, read item = some value := by
  induction items generalizing values with
  | nil =>
      cases h
      cases hmem
  | cons item rest ih =>
      rw [List.mapM_cons] at h
      obtain ⟨first, hfirst, h⟩ := Option.bind_eq_some_iff.mp h
      obtain ⟨others, hothers, h⟩ := Option.bind_eq_some_iff.mp h
      cases h
      rcases List.mem_cons.mp hmem with rfl | hmem
      · exact ⟨item, List.mem_cons_self, hfirst⟩
      · obtain ⟨source, hsource, hread⟩ := ih hothers hmem
        exact ⟨source, List.mem_cons_of_mem _ hsource, hread⟩

theorem mapM_map {read : α → Option β} {write : β → α} {values : List β}
    (h : ∀ value ∈ values, read (write value) = some value) :
    (values.map write).mapM read = some values := by
  induction values with
  | nil => rfl
  | cons value rest ih =>
      obtain ⟨hvalue, hrest⟩ := List.forall_mem_cons.mp h
      rw [List.map_cons, List.mapM_cons, hvalue, ih hrest]
      rfl

end Reading

/-- The documents that are JSON: nothing in them is bare or tagged, integers have 64 bits and other
numbers are finite. Keys may be repeated. -/
inductive Document.IsJson : Document → Prop
  | null : IsJson null
  | bool (b : Bool) : IsJson (bool b)
  | int {i : Int} (hlow : -(Limit.signed : Int) - 1 ≤ i) (hhigh : i ≤ Limit.long) :
      IsJson (int i)
  | float {x : Float} (hfinite : x.isFinite = true) : IsJson (float x)
  | text (s : String) : IsJson (text s)
  | list {items : List Document} (hitems : ∀ item ∈ items, IsJson item) : IsJson (list items)
  | record {entries : List (Key × Document)} (hentries : ∀ entry ∈ entries, IsJson entry.2) :
      IsJson (record entries)
  | unusable : IsJson unusable

namespace Json

/-- The JSON values that there are with no integer above a limit: integers have 64 bits, other
numbers are finite, and the keys of objects are in order. -/
inductive Within (limit : Nat) : Json → Prop
  | null : Within limit null
  | bool (b : Bool) : Within limit (bool b)
  | int {i : Int} (hlow : -(Limit.signed : Int) - 1 ≤ i) (hhigh : i ≤ limit) :
      Within limit (int i)
  | float {x : Float} (hfinite : x.isFinite = true) : Within limit (float x)
  | text (s : String) : Within limit (text s)
  | list {items : List Json} (hitems : ∀ item ∈ items, Within limit item) :
      Within limit (list items)
  | object {members : List (String × Json)} (hordered : Keyed.Ordered members)
      (hmembers : ∀ member ∈ members, Within limit member.2) : Within limit (object members)

theorem number_of_isFinite {x : Float} (h : x.isFinite = true) : number x = float x :=
  if_pos h

theorem toItems_eq_map (items : List Json) : toItems items = items.map toDocument := by
  induction items with
  | nil => rfl
  | cons item rest ih => rw [toItems, ih, List.map_cons]

theorem toEntries_eq_map (members : List (String × Json)) :
    toEntries members = members.map fun member => (Key.text member.1, member.2.toDocument) := by
  induction members with
  | nil => rfl
  | cons member rest ih => rw [toEntries, ih, List.map_cons]

theorem ofItems?_eq_mapM (items : List Document) : ofItems? items = items.mapM ofDocument? := by
  induction items with
  | nil => rfl
  | cons item rest ih => rw [ofItems?, ih, List.mapM_cons]

/-- A member of an object as it stands in a document. -/
def ofMember? (entry : Key × Document) : Option (String × Json) := do
  return (← Reading.keyText entry.1, ← ofDocument? entry.2)

theorem ofEntries?_eq_mapM (entries : List (Key × Document)) :
    ofEntries? entries = entries.mapM ofMember? := by
  induction entries with
  | nil => rfl
  | cons entry rest ih =>
      obtain ⟨key, d⟩ := entry
      rw [ofEntries?, ih, List.mapM_cons, ofMember?]
      cases Reading.keyText key with
      | none => rfl
      | some name => cases ofDocument? d <;> rfl

theorem within_of_ofDocument? {d : Document} (hd : d.IsJson) {w : Json}
    (h : ofDocument? d = some w) : w.Within Limit.long := by
  induction hd generalizing w with
  | null =>
      cases h
      exact .null
  | bool b =>
      cases h
      exact .bool b
  | int hlow hhigh =>
      cases h
      exact .int hlow hhigh
  | @float x hfinite =>
      have hw : some (number x) = some w := h
      cases hw
      rw [number_of_isFinite hfinite]
      exact .float hfinite
  | text s =>
      cases h
      exact .text s
  | list hitems ih =>
      rw [ofDocument?, ofItems?_eq_mapM] at h
      obtain ⟨items, hmapM, rfl⟩ := Option.map_eq_some_iff.mp h
      refine .list fun item hmem => ?_
      obtain ⟨source, hsource, hread⟩ := Reading.exists_of_mem_mapM hmapM hmem
      exact ih source hsource hread
  | record hentries ih =>
      rw [ofDocument?, ofEntries?_eq_mapM] at h
      obtain ⟨members, hmapM, rfl⟩ := Option.map_eq_some_iff.mp h
      refine .object (Keyed.ordered_ofList members) fun member hmem => ?_
      obtain ⟨source, hsource, hread⟩ :=
        Reading.exists_of_mem_mapM hmapM (Keyed.mem_of_mem_ofList hmem)
      obtain ⟨key, hkey, hread⟩ := Option.bind_eq_some_iff.mp hread
      obtain ⟨value, hvalue, hread⟩ := Option.bind_eq_some_iff.mp hread
      cases hread
      exact ih source hsource hvalue
  | unusable => cases h

theorem ofDocument?_toDocument {limit : Nat} {w : Json} (h : w.Within limit) :
    ofDocument? w.toDocument = some w := by
  induction h with
  | null => rfl
  | bool b => rfl
  | int hlow hhigh => rfl
  | float hfinite => exact congrArg some (number_of_isFinite hfinite)
  | text s => rfl
  | list hitems ih =>
      rw [toDocument, ofDocument?, ofItems?_eq_mapM, toItems_eq_map, Reading.mapM_map ih]
      rfl
  | @object members hordered hmembers ih =>
      have hread : ∀ member ∈ members,
          ofMember? (Key.text member.1, member.2.toDocument) = some member := by
        intro member hmem
        rw [ofMember?, ih member hmem]
        rfl
      rw [toDocument, ofDocument?, ofEntries?_eq_mapM, toEntries_eq_map, Reading.mapM_map hread,
        Option.map_some, Keyed.ofList_of_ordered hordered]

theorem isJson_toDocument {w : Json} (h : w.Within Limit.long) : w.toDocument.IsJson := by
  induction h with
  | null => exact .null
  | bool b => exact .bool b
  | int hlow hhigh => exact .int hlow hhigh
  | float hfinite => exact .float hfinite
  | text s => exact .text s
  | list hitems ih =>
      rw [toDocument, toItems_eq_map]
      exact .list (List.forall_mem_map.mpr ih)
  | object hordered hmembers ih =>
      rw [toDocument, toEntries_eq_map]
      exact .record (List.forall_mem_map.mpr ih)

end Json

end QuestAcademy
