import QuestAcademy.Payload
import QuestAcademy.Proofs.JsonValues
import QuestAcademy.Proofs.WideIntegers

namespace QuestAcademy.Payload

/-- The payloads that there are and that JSON can tell: integers have 64 bits, the keys of maps are
in order, and all other numbers are finite. -/
inductive Encodable : Payload → Prop
  | null : Encodable null
  | bool (b : Bool) : Encodable (bool b)
  | int {i : Int} (hfits : Limit.holdsSigned i = true) : Encodable (int i)
  | float {x : Float} (hfinite : x.isFinite = true) : Encodable (float x)
  | text (s : String) : Encodable (text s)
  | list {items : List Payload} (hitems : ∀ item ∈ items, Encodable item) :
      Encodable (list items)
  | map {entries : List (String × Payload)} (hordered : Keyed.Ordered entries)
      (hentries : ∀ entry ∈ entries, Encodable entry.2) : Encodable (map entries)

theorem ofJsonItems_eq_map (items : List Json) : ofJsonItems items = items.map ofJson := by
  induction items with
  | nil => rfl
  | cons item rest ih => rw [ofJsonItems, ih, List.map_cons]

theorem ofMembers_eq_mapValues (members : List (String × Json)) :
    ofMembers members = Keyed.mapValues ofJson members := by
  induction members with
  | nil => rfl
  | cons member rest ih =>
      rw [ofMembers, ih]
      rfl

theorem toJsonItems_eq_map (items : List Payload) : toJsonItems items = items.map toJson := by
  induction items with
  | nil => rfl
  | cons item rest ih => rw [toJsonItems, ih, List.map_cons]

theorem toMembers_eq_mapValues (entries : List (String × Payload)) :
    toMembers entries = Keyed.mapValues toJson entries := by
  induction entries with
  | nil => rfl
  | cons entry rest ih =>
      rw [toMembers, ih]
      rfl

theorem ofDocument?_int (i : Int) :
    ofDocument? (.int i) =
      some (if Limit.holdsSigned i then int i else float (Decimal.ofInt i)) := by
  change ofMeaning? (.int i) = _
  simp only [ofMeaning?, nullOf, boolOf, intOf, floatOf]
  split <;> rfl

mutual

theorem ofDocument?_toDocument : (w : Json) → ofDocument? w.toDocument = some (ofJson w)
  | .null | .bool _ | .float _ | .text _ => rfl
  | .int i => ofDocument?_int i
  | .list items => by
      rw [Json.toDocument, ofDocument?, ofItems?_toItems items]
      rfl
  | .object members => by
      rw [Json.toDocument, ofDocument?, ofEntries?_toEntries members]
      rfl

theorem ofItems?_toItems :
    (items : List Json) → ofItems? (Json.toItems items) = some (ofJsonItems items)
  | [] => rfl
  | item :: rest => by
      rw [Json.toItems, ofItems?, ofDocument?_toDocument item, ofItems?_toItems rest]
      rfl

theorem ofEntries?_toEntries :
    (members : List (String × Json)) →
      ofEntries? (Json.toEntries members) = some (ofMembers members)
  | [] => rfl
  | (key, member) :: rest => by
      rw [Json.toEntries, ofEntries?, ofDocument?_toDocument member, ofEntries?_toEntries rest]
      rfl

end

theorem encodable_ofJson {limit : Nat} {w : Json} (h : w.Within limit) : (ofJson w).Encodable := by
  induction h with
  | null => exact .null
  | bool b => exact .bool b
  | @int i hlow hhigh =>
      rw [ofJson]
      -- An integer that is too large for a payload is rounded, and still is a number.
      split
      · exact .int ‹_›
      · exact .float (Decimal.isFinite_ofInt i)
  | float hfinite => exact .float hfinite
  | text s => exact .text s
  | list hitems ih =>
      rw [ofJson, ofJsonItems_eq_map]
      exact .list (List.forall_mem_map.mpr ih)
  | object hordered hmembers ih =>
      rw [ofJson, ofMembers_eq_mapValues,
        Keyed.ofList_of_ordered ((Keyed.ordered_mapValues _ _).mpr hordered)]
      exact .map ((Keyed.ordered_mapValues _ _).mpr hordered) (List.forall_mem_map.mpr ih)

theorem within_toJson {v : Payload} (h : v.Encodable) : v.toJson.Within Limit.signed := by
  induction h with
  | null => exact .null
  | bool b => exact .bool b
  | int hfits =>
      rw [Limit.holdsSigned, Bool.and_eq_true, decide_eq_true_eq, decide_eq_true_eq] at hfits
      exact .int hfits.1 hfits.2
  | float hfinite =>
      rw [toJson, Json.number_of_isFinite hfinite]
      exact .float hfinite
  | text s => exact .text s
  | list hitems ih =>
      rw [toJson, toJsonItems_eq_map]
      exact .list (List.forall_mem_map.mpr ih)
  | map hordered hentries ih =>
      rw [toJson, toMembers_eq_mapValues]
      exact .object ((Keyed.ordered_mapValues _ _).mpr hordered) (List.forall_mem_map.mpr ih)

theorem ofJson_toJson {v : Payload} (h : v.Encodable) : ofJson v.toJson = v := by
  induction h with
  | null => rfl
  | bool b => rfl
  | int hfits => exact if_pos hfits
  | float hfinite => rw [toJson, Json.number_of_isFinite hfinite, ofJson]
  | text s => rfl
  | list hitems ih =>
      rw [toJson, toJsonItems_eq_map, ofJson, ofJsonItems_eq_map, List.map_map]
      exact congrArg list ((List.map_congr_left ih).trans (List.map_id _))
  | map hordered hentries ih =>
      rw [toJson, toMembers_eq_mapValues, ofJson, ofMembers_eq_mapValues,
        Keyed.mapValues_inverse ih, Keyed.ofList_of_ordered hordered]

theorem toJson_ofJson {w : Json} (h : w.Within Limit.signed) : (ofJson w).toJson = w := by
  induction h with
  | null => rfl
  | bool b => rfl
  | int hlow hhigh =>
      rw [ofJson, if_pos (by simp [Limit.holdsSigned, hlow, hhigh]), toJson]
  | float hfinite => exact Json.number_of_isFinite hfinite
  | text s => rfl
  | list hitems ih =>
      rw [ofJson, ofJsonItems_eq_map, toJson, toJsonItems_eq_map, List.map_map]
      exact congrArg Json.list ((List.map_congr_left ih).trans (List.map_id _))
  | object hordered hmembers ih =>
      rw [ofJson, ofMembers_eq_mapValues,
        Keyed.ofList_of_ordered ((Keyed.ordered_mapValues _ _).mpr hordered), toJson,
        toMembers_eq_mapValues, Keyed.mapValues_inverse ih]

/-- Both ways from a JSON value lead to one payload, and every payload that they lead to can be
encoded. A payload that can be encoded is what either way makes of its JSON value, so an integer
does not become another number or the reverse; and without integers that are too large for a payload
the JSON value comes back as well. -/
theorem codecs_agree :
    (∀ w : Json, Payload.read .json w.toDocument = some (ofJson w)) ∧
      (∀ w : Json, w.Within Limit.long → (ofJson w).Encodable) ∧
      (∀ v : Payload, v.Encodable → v.toJson.Within Limit.signed ∧ ofJson v.toJson = v ∧
        Payload.read .json v.toDocument = some v) ∧
      ∀ w : Json, w.Within Limit.signed → (ofJson w).toJson = w := by
  refine ⟨ofDocument?_toDocument, fun w => encodable_ofJson,
    fun v hv => ⟨within_toJson hv, ofJson_toJson hv, ?_⟩, fun w => toJson_ofJson⟩
  rw [Payload.read, toDocument, ofDocument?_toDocument, ofJson_toJson hv]

def order : Json :=
  .object [("items", .list [.int (-3), .float 1.5, .bool true, .null, .object []]),
    ("prompt", .text "sort")]

theorem codecs_agree_order :
    Payload.read .json order.toDocument = some (ofJson order) ∧ (ofJson order).Encodable ∧
      (ofJson order).toJson = order ∧
      Payload.read .json (ofJson order).toDocument = some (ofJson order) := by
  have horder : ∀ limit, order.Within limit := by
    intro limit
    have hitems : ∀ item ∈ [.int (-3), .float 1.5, .bool true, .null, .object []],
        Json.Within limit item := by
      simp only [List.forall_mem_cons]
      exact ⟨.int (by decide) (by omega), .float (by decide +kernel), .bool true, .null,
        .object Keyed.ordered_nil nofun, nofun⟩
    refine .object (by unfold Keyed.Ordered; decide +kernel) ?_
    simp only [List.forall_mem_cons]
    exact ⟨.list hitems, .text "sort", nofun⟩
  obtain ⟨hagree, hencodable, hback, hvalue⟩ := codecs_agree
  have hcoded := hencodable order (horder Limit.long)
  exact ⟨hagree order, hcoded, hvalue order (horder Limit.signed), (hback _ hcoded).2.2⟩

end QuestAcademy.Payload
