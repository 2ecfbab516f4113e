import Mathlib.Data.List.Basic
import QuestAcademy.InstanceKey

namespace QuestAcademy

/-- The words of a text: its longest stretches of letters and digits of the ASCII range. -/
def keyWords (cs : List Char) : List (List Char) :=
  (cs.splitOnP fun c => !c.isAlphanum).filter fun word => !word.isEmpty

/-- Words in lower case, with a single dash between one and the next. -/
def joinWords (words : List (List Char)) : List Char :=
  ['-'].intercalate (words.map fun word => word.map Char.toLower)

def KeyLetter (c : Char) : Prop :=
  ('a' ≤ c ∧ c ≤ 'z') ∨ ('0' ≤ c ∧ c ≤ '9')

/-- Keys that are not empty: letters, and dashes that stand alone between two of them. -/
inductive IsKey : List Char → Prop
  | single {c : Char} (hc : KeyLetter c) : IsKey [c]
  | letter {c : Char} {rest : List Char} (hc : KeyLetter c) (hrest : IsKey rest) : IsKey (c :: rest)
  | dash {c : Char} {rest : List Char} (hc : KeyLetter c) (hrest : IsKey rest) :
      IsKey (c :: '-' :: rest)

section Characters

variable {c : Char}

theorem isKeyChar_iff : isKeyChar c = true ↔
    (97 ≤ c.toNat ∧ c.toNat ≤ 122) ∨ (65 ≤ c.toNat ∧ c.toNat ≤ 90) ∨
      (48 ≤ c.toNat ∧ c.toNat ≤ 57) := by
  simp only [isKeyChar, Bool.or_eq_true, Bool.and_eq_true, decide_eq_true_eq, Char.le_def,
    UInt32.le_iff_toNat_le, or_assoc]
  rfl

theorem keyLetter_iff :
    KeyLetter c ↔ (97 ≤ c.toNat ∧ c.toNat ≤ 122) ∨ (48 ≤ c.toNat ∧ c.toNat ≤ 57) := by
  simp only [KeyLetter, Char.le_def, UInt32.le_iff_toNat_le]
  rfl

theorem isUpper_iff : 'A' ≤ c ∧ c ≤ 'Z' ↔ 65 ≤ c.toNat ∧ c.toNat ≤ 90 := by
  simp only [Char.le_def, UInt32.le_iff_toNat_le]
  rfl

theorem isKeyChar_eq (c : Char) : isKeyChar c = c.isAlphanum := by
  rw [Bool.eq_iff_iff, isKeyChar_iff]
  delta Char.isAlphanum Char.isAlpha Char.isUpper Char.isLower Char.isDigit
  simp only [Bool.or_eq_true, Bool.and_eq_true, decide_eq_true_eq, UInt32.le_iff_toNat_le,
    ge_iff_le]
  change _ ↔ (((65 ≤ c.toNat ∧ c.toNat ≤ 90) ∨ (97 ≤ c.toNat ∧ c.toNat ≤ 122)) ∨
    (48 ≤ c.toNat ∧ c.toNat ≤ 57))
  omega

theorem toNat_lowerCase (h : 'A' ≤ c ∧ c ≤ 'Z') : (lowerCase c).toNat = c.toNat + 32 := by
  have hrange := isUpper_iff.mp h
  have hvalid : (c.toNat + 32).isValidChar := .inl (by omega)
  rw [lowerCase, if_pos h, Char.ofNat, dif_pos hvalid]
  rfl

theorem lowerCase_eq (c : Char) : lowerCase c = c.toLower := by
  unfold Char.toLower
  split
  · rename_i hupper
    have hrange := isUpper_iff.mp hupper
    apply Char.toNat_inj.mp
    rw [toNat_lowerCase hupper]
    change c.toNat + 32 = (c.toNat + 32) % 4294967296
    omega
  · rename_i hupper
    exact if_neg hupper

theorem keyLetter_lowerCase (h : isKeyChar c = true) : KeyLetter (lowerCase c) := by
  rw [isKeyChar_iff] at h
  rw [keyLetter_iff]
  by_cases hupper : 'A' ≤ c ∧ c ≤ 'Z'
  · have hrange := isUpper_iff.mp hupper
    rw [toNat_lowerCase hupper]
    omega
  · have hrange := mt isUpper_iff.mpr hupper
    rw [lowerCase, if_neg hupper]
    omega

theorem KeyLetter.isKeyChar (h : KeyLetter c) : isKeyChar c = true := by
  rw [keyLetter_iff] at h
  rw [isKeyChar_iff]
  omega

theorem KeyLetter.lowerCase (h : KeyLetter c) : lowerCase c = c := by
  rw [keyLetter_iff] at h
  refine if_neg fun hupper => ?_
  have hrange := isUpper_iff.mp hupper
  omega

theorem KeyLetter.ne_dash (h : KeyLetter c) : c ≠ '-' := by
  rintro rfl
  rcases h with ⟨h, -⟩ | ⟨h, -⟩ <;> exact absurd h (by decide)

end Characters

section Words

def dashWords (words : List (List Char)) : List Char :=
  words.flatMap fun word => '-' :: word.map lowerCase

theorem joinWords_cons (word : List Char) (words : List (List Char)) :
    joinWords (word :: words) = word.map lowerCase ++ dashWords words := by
  induction words generalizing word with
  | nil => simp [joinWords, dashWords, lowerCase_eq]
  | cons next rest ih =>
      have hjoin : joinWords (word :: next :: rest) =
          word.map Char.toLower ++ ['-'] ++ joinWords (next :: rest) :=
        List.intercalate_cons_cons
      rw [hjoin, ih]
      simp [dashWords, lowerCase_eq]

/-- What is written for a text, by what was written before it: inside a word, where the first
stretch of the text continues it; behind a word, with a dash due; or nothing yet. -/
theorem keyChars_eq {first : List Char} {later : List (List Char)} {cs : List Char}
    (h : (cs.splitOnP fun c => !c.isAlphanum) = first :: later) :
    keyChars true false cs =
        first.map lowerCase ++ dashWords (later.filter fun word => !word.isEmpty) ∧
      keyChars true true cs = dashWords (keyWords cs) ∧
      ∀ due, keyChars false due cs = joinWords (keyWords cs) := by
  induction cs generalizing first later with
  | nil =>
      cases h
      exact ⟨rfl, rfl, fun _ => rfl⟩
  | cons c rest ih =>
      obtain ⟨front, back, hsplit⟩ := List.exists_cons_of_ne_nil
        (List.splitOnP_ne_nil (fun c => !c.isAlphanum) rest)
      obtain ⟨hinside, hdue, hnone⟩ := ih hsplit
      have hrest : keyWords rest = (front :: back).filter fun word => !word.isEmpty :=
        congrArg (List.filter _) hsplit
      have hwords : keyWords (c :: rest) = (first :: later).filter fun word => !word.isEmpty :=
        congrArg (List.filter _) h
      rw [List.splitOnP_cons_eq_if_modifyHead, hsplit, ← isKeyChar_eq] at h
      cases hkey : isKeyChar c with
      | true =>
          -- The character begins or continues the first word.
          rw [hkey] at h
          cases h
          simp [keyChars, hkey, hinside, hwords, joinWords_cons, dashWords]
      | false =>
          -- The character ends the word before it, and is in none.
          rw [hkey] at h
          cases h
          simp [keyChars, hkey, hdue, hnone, hrest, hwords]

theorem instanceKey_eq_joinWords (name : String) :
    instanceKey name = String.ofList (joinWords (keyWords name.toList)) := by
  obtain ⟨first, later, hsplit⟩ := List.exists_cons_of_ne_nil
    (List.splitOnP_ne_nil (fun c => !c.isAlphanum) name.toList)
  rw [instanceKey, (keyChars_eq hsplit).2.2 false]

end Words

section Dashes

variable {cs : List Char}

theorem isKey_cons_keyChars {c : Char} (hc : KeyLetter c) (due : Bool) (cs : List Char) :
    IsKey (c :: keyChars true due cs) := by
  induction cs generalizing c due with
  | nil => exact .single hc
  | cons d rest ih =>
      rw [keyChars]
      split
      · rename_i hkey
        cases due with
        | true => exact .dash hc (ih (keyLetter_lowerCase hkey) false)
        | false => exact .letter hc (ih (keyLetter_lowerCase hkey) false)
      · exact ih hc true

theorem isKey_keyChars (due : Bool) (cs : List Char) :
    keyChars false due cs = [] ∨ IsKey (keyChars false due cs) := by
  induction cs generalizing due with
  | nil => exact .inl rfl
  | cons c rest ih =>
      rw [keyChars, Bool.and_false]
      split
      · rename_i hkey
        exact .inr (isKey_cons_keyChars (keyLetter_lowerCase hkey) false rest)
      · exact ih true

theorem keyChars_eq_nil_iff (started due : Bool) (cs : List Char) :
    keyChars started due cs = [] ↔ ∀ c ∈ cs, isKeyChar c = false := by
  induction cs generalizing started due with
  | nil => simp [keyChars]
  | cons c rest ih =>
      rw [keyChars]
      cases hkey : isKeyChar c with
      | true =>
          refine iff_of_false ?_ fun hnone => ?_
          · rw [if_pos rfl]
            split <;> exact List.cons_ne_nil _ _
          · exact Bool.noConfusion (hkey.symm.trans (hnone c List.mem_cons_self))
      | false => simp [hkey, ih]

theorem IsKey.joined {front back : List Char} (hfront : IsKey front) (hback : IsKey back) :
    IsKey (front ++ '-' :: back) := by
  induction hfront with
  | single hc => exact .dash hc hback
  | letter hc _ ih => exact .letter hc ih
  | dash hc _ ih => exact .dash hc ih

theorem IsKey.exists_cons (h : IsKey cs) : ∃ c rest, cs = c :: rest ∧ KeyLetter c := by
  cases h with
  | single hc | letter hc | dash hc => exact ⟨_, _, rfl, hc⟩

theorem IsKey.mem (h : IsKey cs) : ∀ c ∈ cs, KeyLetter c ∨ c = '-' := by
  induction h with
  | single hc => simpa using .inl hc
  | letter hc hrest ih => simpa using ⟨.inl hc, ih⟩
  | dash hc hrest ih => simpa using ⟨.inl hc, ih⟩

theorem IsKey.head?_ne (h : IsKey cs) : cs.head? ≠ some '-' := by
  obtain ⟨c, rest, rfl, hc⟩ := h.exists_cons
  simpa using hc.ne_dash

theorem IsKey.getLast?_ne (h : IsKey cs) : cs.getLast? ≠ some '-' := by
  induction h with
  | single hc => simpa using hc.ne_dash
  | letter hc hrest ih =>
      obtain ⟨d, more, rfl, -⟩ := hrest.exists_cons
      rwa [List.getLast?_cons_cons]
  | dash hc hrest ih =>
      obtain ⟨d, more, rfl, -⟩ := hrest.exists_cons
      rwa [List.getLast?_cons_cons, List.getLast?_cons_cons]

theorem IsKey.not_infix (h : IsKey cs) : ¬ ['-', '-'] <:+: cs := by
  induction h with
  | single hc =>
      intro hinfix
      exact absurd hinfix.length_le (by simp)
  | letter hc hrest ih =>
      intro hinfix
      rcases List.infix_cons_iff.mp hinfix with hstart | hlater
      · exact hc.ne_dash (List.cons_prefix_cons.mp hstart).1.symm
      · exact ih hlater
  | dash hc hrest ih =>
      obtain ⟨d, more, rfl, hd⟩ := hrest.exists_cons
      intro hinfix
      rcases List.infix_cons_iff.mp hinfix with hstart | hlater
      · exact hc.ne_dash (List.cons_prefix_cons.mp hstart).1.symm
      · rcases List.infix_cons_iff.mp hlater with hstart | hlater
        · have hsecond := (List.cons_prefix_cons.mp hstart).2
          exact hd.ne_dash (List.cons_prefix_cons.mp hsecond).1.symm
        · exact ih hlater

theorem IsKey.keyChars_eq (h : IsKey cs) (started : Bool) : keyChars started false cs = cs := by
  induction h generalizing started with
  | single hc => simp [keyChars, hc.isKeyChar, hc.lowerCase]
  | letter hc hrest ih => simp [keyChars, hc.isKeyChar, hc.lowerCase, ih]
  | dash hc hrest ih =>
      obtain ⟨d, more, rfl, hd⟩ := hrest.exists_cons
      have hdash : isKeyChar '-' = false := by decide
      have hmore : lowerCase d :: keyChars true false more = d :: more := by
        simpa [keyChars, hd.isKeyChar] using ih true
      simp [keyChars, hc.isKeyChar, hc.lowerCase, hdash, hd.isKeyChar, hmore]

end Dashes

/-- What is true of the key of a name. -/
structure CanonicalKey (name key : String) : Prop where
  words : key = String.ofList (joinWords (keyWords name.toList))
  chars : ∀ c ∈ key.toList, ('a' ≤ c ∧ c ≤ 'z') ∨ ('0' ≤ c ∧ c ≤ '9') ∨ c = '-'
  start : key.toList.head? ≠ some '-'
  finish : key.toList.getLast? ≠ some '-'
  apart : ¬ ['-', '-'] <:+: key.toList
  empty_iff : key = "" ↔ ∀ c ∈ name.toList, c.isAlphanum = false
  fixed : instanceKey key = key

theorem instanceKey_eq_empty_iff (name : String) :
    instanceKey name = "" ↔ ∀ c ∈ name.toList, isKeyChar c = false := by
  rw [← keyChars_eq_nil_iff false false, instanceKey, String.ofList_eq_empty_iff]

theorem instanceKey_eq_self_iff (key : String) :
    instanceKey key = key ↔ key = "" ∨ IsKey key.toList := by
  constructor
  · intro hself
    rcases isKey_keyChars false key.toList with hnone | hkey
    · rw [instanceKey, hnone] at hself
      exact .inl hself.symm
    · rw [← hself, instanceKey, String.toList_ofList]
      exact .inr hkey
  · rintro (rfl | hkey)
    · rfl
    · rw [instanceKey, hkey.keyChars_eq, String.ofList_toList]

theorem isKey_instanceKey (name : String) :
    instanceKey name = "" ∨ IsKey (instanceKey name).toList := by
  rw [instanceKey, String.toList_ofList, String.ofList_eq_empty_iff]
  exact isKey_keyChars false name.toList

/-- The key of a name is the words of the name in lower case, joined by single dashes. -/
theorem instanceKey_canonical (name : String) : CanonicalKey name (instanceKey name) := by
  have hwords := instanceKey_eq_joinWords name
  have hempty : instanceKey name = "" ↔ ∀ c ∈ name.toList, c.isAlphanum = false := by
    simpa only [isKeyChar_eq] using instanceKey_eq_empty_iff name
  have hfixed := (instanceKey_eq_self_iff _).mpr (isKey_instanceKey name)
  rcases isKey_instanceKey name with hnone | hkey
  · rw [hnone] at hwords hempty hfixed ⊢
    exact ⟨hwords, by simp, by simp, by simp, by simp, hempty, hfixed⟩
  · exact ⟨hwords, fun c hc => or_assoc.mp (hkey.mem c hc), hkey.head?_ne, hkey.getLast?_ne,
      hkey.not_infix, hempty, hfixed⟩

example : instanceKey "--Señor  9, Foo_bar!" = "se-or-9-foo-bar" := by decide +kernel

end QuestAcademy
