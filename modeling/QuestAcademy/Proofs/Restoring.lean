import QuestAcademy.Proofs.JsonValues
import QuestAcademy.Proofs.WideIntegers

/-!
Whatever is read from JSON is written as JSON that it is read from again. This is shown reading by
reading: a reading is `Restoring` for a way to write when every value that it has from JSON is one
that it `Restores`, and a record is as soon as its fields are.
-/

namespace QuestAcademy

namespace Document.IsJson

theorem untagged {d : Document} (h : d.IsJson) : d.untagged = d := by
  cases h <;> rfl

theorem nat {n : Nat} (h : n ≤ Limit.long) : (Document.nat n).IsJson :=
  .int (by simp only [Limit.signed]; omega) (by exact_mod_cast h)

theorem fields {entries : List (String × Document)} (h : ∀ entry ∈ entries, entry.2.IsJson) :
    (Document.fields entries).IsJson :=
  .record (List.forall_mem_map.mpr h)

end Document.IsJson

namespace Reading

variable {α β : Type} {read : Reading α} {write : α → Document}

/-- What is written for the value is JSON, and is read as the value. -/
structure Restores (read : Reading α) (write : α → Document) (value : α) : Prop where
  isJson : (write value).IsJson
  read_write : read .json (write value) = some value

/-- Every value that is read from JSON is restored. -/
def Restoring (read : Reading α) (write : α → Document) : Prop :=
  ∀ ⦃d : Document⦄, d.IsJson → ∀ ⦃value : α⦄, read .json d = some value → Restores read write value

def orNull (write : α → Document) (value : Option α) : Document :=
  .orNull (value.map write)

def listed (write : α → Document) (values : List α) : Document :=
  .list (values.map write)

theorem restores_text (s : String) : Restores text .text s :=
  ⟨.text s, rfl⟩

theorem restoring_text : Restoring text .text :=
  fun _ _ s _ => restores_text s

theorem restores_bool (b : Bool) : Restores bool .bool b :=
  ⟨.bool b, rfl⟩

theorem restores_nat {limit : Nat} (hlimit : limit ≤ Limit.long) {n : Nat} (h : n ≤ limit) :
    Restores (nat limit) .nat n := by
  refine ⟨.nat (h.trans hlimit), ?_⟩
  exact if_pos ⟨Int.natCast_nonneg n, Int.ofNat_le.mpr h⟩

theorem le_of_nat {limit n : Nat} {d : Document} (hd : d.IsJson) (h : nat limit .json d = some n) :
    n ≤ limit := by
  unfold nat at h
  rw [hd.untagged] at h
  cases hd with
  | int =>
      obtain ⟨⟨hlow, hhigh⟩, hn⟩ := Option.ite_none_right_eq_some.mp h
      cases hn
      omega
  | _ => cases h

theorem restoring_nat {limit : Nat} (hlimit : limit ≤ Limit.long) : Restoring (nat limit) .nat :=
  fun _ hd _ h => restores_nat hlimit (le_of_nat hd h)

theorem restoring_byte : Restoring byte .nat :=
  restoring_nat (by decide)

theorem restoring_word : Restoring word .nat :=
  restoring_nat (by decide)

theorem restoring_long : Restoring long .nat :=
  restoring_nat (by decide)

theorem restoring_float : Restoring float .float := by
  intro d hd x h
  have hfinite : x.isFinite = true := by
    unfold float at h
    rw [hd.untagged] at h
    cases hd with
    | int =>
        cases h
        exact Decimal.isFinite_ofInt _
    | float hfinite =>
        cases h
        exact hfinite
    | _ => cases h
  exact ⟨.float hfinite, rfl⟩

theorem restores_choice {words : List (String × α)} {name : α → String}
    (h : ∀ value, words.lookup (name value) = some value) (value : α) :
    Restores (choice words) (fun value => .text (name value)) value :=
  ⟨.text _, h value⟩

theorem restores_list {values : List α} (h : ∀ value ∈ values, Restores read write value) :
    Restores (list read) (listed write) values := by
  refine ⟨.list (List.forall_mem_map.mpr fun value hmem => (h value hmem).isJson), ?_⟩
  exact mapM_map fun value hmem => (h value hmem).read_write

theorem restores_nil : Restores (list read) (listed write) [] :=
  restores_list (List.forall_mem_nil _)

theorem restoring_list (h : Restoring read write) : Restoring (list read) (listed write) := by
  intro d hd values hread
  obtain ⟨ds, hitems, hvalues⟩ := Option.bind_eq_some_iff.mp hread
  apply restores_list
  intro value hmem
  obtain ⟨item, hitem, hvalue⟩ := exists_of_mem_mapM hvalues hmem
  unfold items at hitems
  rw [hd.untagged] at hitems
  cases hd with
  | list hds =>
      cases hitems
      exact h (hds item hitem) hvalue
  | _ => cases hitems

theorem restores_texts (items : List String) : Restores (list text) Document.texts items :=
  restores_list fun s _ => restores_text s

/-- In JSON nothing but null stands for a missing value. -/
theorem optional_of_ne_null {d : Document} (hd : d.IsJson) (hnull : d ≠ .null) :
    optional read .json d = (read .json d).map some := by
  cases hd with
  | null => cases hnull rfl
  | _ => rfl

theorem restores_none : Restores (optional read) (orNull write) none :=
  ⟨.null, rfl⟩

theorem restores_some {value : α} (h : Restores read write value) (hnull : write value ≠ .null) :
    Restores (optional read) (orNull write) (some value) := by
  refine ⟨h.isJson, ?_⟩
  change optional read .json (write value) = _
  rw [optional_of_ne_null h.isJson hnull, h.read_write]
  rfl

theorem restoring_optional (h : Restoring read write)
    (hnull : ∀ ⦃d value⦄, d.IsJson → d ≠ .null → read .json d = some value → write value ≠ .null) :
    Restoring (optional read) (orNull write) := by
  intro d hd value hread
  by_cases hd' : d = .null
  · subst hd'
    cases hread
    exact restores_none
  · rw [optional_of_ne_null hd hd'] at hread
    obtain ⟨value, hvalue, rfl⟩ := Option.map_eq_some_iff.mp hread
    exact restores_some (h hd hvalue) (hnull hd hd' hvalue)

theorem restoring_optional_of_ne_null (h : Restoring read write)
    (hnull : ∀ value, write value ≠ .null) : Restoring (optional read) (orNull write) :=
  restoring_optional h fun _ value _ _ _ => hnull value

/-- Fields that were read from a record in JSON. -/
structure Fields.FromJson (fields : Fields) : Prop where
  form : fields.form = .json
  given : ∀ entry ∈ fields.given, entry.2.IsJson

theorem isJson_of_textEntries {d : Document} (hd : d.IsJson) {es : List (String × Document)}
    (h : textEntries d = some es) : ∀ entry ∈ es, entry.2.IsJson := by
  obtain ⟨given, hgiven, hes⟩ := Option.bind_eq_some_iff.mp h
  intro entry hmem
  obtain ⟨source, hsource, hentry⟩ := exists_of_mem_mapM hes hmem
  obtain ⟨key, -, hentry⟩ := Option.bind_eq_some_iff.mp hentry
  cases hentry
  unfold entries at hgiven
  rw [hd.untagged] at hgiven
  cases hd with
  | record hentries =>
      cases hgiven
      exact hentries source hsource
  | _ => cases hgiven

theorem given_of_fields {names : List String} {d : Document} (hd : d.IsJson) {found : Fields}
    (h : fields names .json d = some found) :
    ∃ all, (textEntries d = some all ∨ ∃ items, d = .list items ∧ all = names.zip items) ∧
      found.form = .json ∧ found.given = all.filter fun entry => names.contains entry.1 := by
  unfold fields at h
  rw [hd.untagged] at h
  cases hd with
  -- Only a list may stand for a record, with its items in the place of the fields.
  | @list items hitems =>
      simp only at h
      split at h
      · obtain ⟨-, h⟩ := Option.ite_none_right_eq_some.mp h
        cases h
        exact ⟨names.zip items, .inr ⟨items, rfl, rfl⟩, rfl, rfl⟩
      · cases h
  | _ =>
      obtain ⟨all, hall, h⟩ := Option.bind_eq_some_iff.mp h
      refine ⟨all, .inl hall, ?_⟩
      simp only [Option.ite_none_right_eq_some] at h
      obtain ⟨-, h⟩ := h
      cases h
      exact ⟨rfl, rfl⟩

theorem fromJson_of_fields {names : List String} {d : Document} (hd : d.IsJson) {found : Fields}
    (h : fields names .json d = some found) : found.FromJson := by
  obtain ⟨all, hall, hform, hgiven⟩ := given_of_fields hd h
  refine ⟨hform, fun entry hmem => ?_⟩
  rw [hgiven] at hmem
  have hentry := List.mem_of_mem_filter hmem
  rcases hall with hall | ⟨items, rfl, rfl⟩
  · exact isJson_of_textEntries hd hall entry hentry
  · cases hd with
    | list hitems => exact hitems entry.2 (List.of_mem_zip hentry).2

section Given

variable {found : Fields} {name : String}

theorem Fields.FromJson.isJson (hfound : found.FromJson) {d : Document}
    (h : found.given.lookup name = some d) : d.IsJson := by
  obtain ⟨before, after, hgiven, -⟩ := List.lookup_eq_some_iff.mp h
  exact hfound.given (name, d) (hgiven ▸ List.mem_append_right _ List.mem_cons_self)

theorem Fields.FromJson.restores_required (hfound : found.FromJson) (h : Restoring read write)
    {value : α} (hread : found.required name read = some value) : Restores read write value := by
  obtain ⟨d, hlookup, hvalue⟩ := Option.bind_eq_some_iff.mp hread
  rw [hfound.form] at hvalue
  exact h (hfound.isJson hlookup) hvalue

theorem Fields.FromJson.restores_withDefault (hfound : found.FromJson) (h : Restoring read write)
    {default value : α} (hdefault : Restores read write default)
    (hread : found.withDefault name default read = some value) : Restores read write value := by
  unfold Fields.withDefault at hread
  rw [hfound.form] at hread
  split at hread
  · rename_i d hlookup
    exact h (hfound.isJson hlookup) hread
  · cases hread
    exact hdefault

theorem Fields.FromJson.restores_optional (hfound : found.FromJson)
    (h : Restoring (Reading.optional read) (orNull write)) {value : Option α}
    (hread : found.optional name read = some value) :
    Restores (Reading.optional read) (orNull write) value :=
  hfound.restores_withDefault h restores_none hread

end Given

section Written

variable {entries : List (String × Document)}

theorem isJson_present {value : Option α} (h : Restores (optional read) (orNull write) value)
    (name : String) :
    ∀ entry ∈ Document.present name (value.map write), entry.2.IsJson := by
  cases value with
  | none => exact nofun
  | some value => exact List.forall_mem_singleton.mpr h.isJson

theorem textEntries_fields : textEntries (.fields entries) = some entries := by
  have hread : ∀ entry ∈ entries, (fun entry : Key × Document => do
      return (← keyText entry.1, entry.2)) (Key.text entry.1, entry.2) = some entry :=
    fun _ _ => rfl
  exact mapM_map hread

theorem fields_fields {names : List String} (hnames : (entries.map Prod.fst).Sublist names)
    (hnodup : names.Nodup) :
    fields names .json (.fields entries) = some ⟨.json, entries, false⟩ := by
  have hknown : (entries.filter fun entry => names.contains entry.1) = entries := by
    refine List.filter_eq_self.mpr fun entry hmem => ?_
    exact List.contains_iff_mem.mpr (hnames.subset (List.mem_map_of_mem hmem))
  have hfields : fields names .json (.fields entries) = (do
      let all ← textEntries (.fields entries)
      let given := all.filter fun entry => names.contains entry.1
      if (given.map Prod.fst).Nodup then some ⟨.json, given, given.length < all.length⟩
      else none) := rfl
  rw [hfields, textEntries_fields, Option.bind_eq_bind, Option.bind_some]
  simp only [hknown, if_pos (hnames.nodup hnodup), Nat.lt_irrefl, decide_false]

/-- A record that was written is read field by field from what was written. -/
theorem fields_bind {names : List String} (hnames : (entries.map Prod.fst).Sublist names)
    (hnodup : names.Nodup) (rest : Fields → Option α) :
    fields names .json (.fields entries) >>= rest = rest ⟨.json, entries, false⟩ := by
  rw [fields_fields hnames hnodup]
  rfl

theorem lookup_present (name other : String) (value : Option Document) :
    (Document.present name value).lookup other = if other = name then value else none := by
  cases value with
  | none => exact (ite_self none).symm
  | some d =>
      by_cases h : other = name
      · simp [Document.present, h]
      · simp [Document.present, List.lookup_cons, h, beq_false_of_ne h]

variable {name : String} {others : Bool}

theorem required_of_lookup {value : α} (h : Restores read write value)
    (hlookup : entries.lookup name = some (write value)) :
    Fields.required ⟨.json, entries, others⟩ name read = some value := by
  rw [Fields.required, hlookup]
  exact h.read_write

theorem withDefault_of_lookup {default value : α} (h : Restores read write value)
    (hlookup : entries.lookup name = some (write value)) :
    Fields.withDefault ⟨.json, entries, others⟩ name default read = some value := by
  rw [Fields.withDefault, hlookup]
  exact h.read_write

theorem optional_of_lookup {value : Option α} (h : Restores (optional read) (orNull write) value)
    (hlookup : entries.lookup name = value.map write ∨
      entries.lookup name = some (orNull write value)) :
    Fields.optional ⟨.json, entries, others⟩ name read = some value := by
  rcases hlookup with hlookup | hlookup
  · cases value with
    | none =>
        rw [Fields.optional, Fields.withDefault, hlookup]
        rfl
    | some value => exact withDefault_of_lookup h hlookup
  · exact withDefault_of_lookup h hlookup

end Written

end Reading

end QuestAcademy
