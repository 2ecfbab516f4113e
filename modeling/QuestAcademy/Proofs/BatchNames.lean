import Mathlib.Data.List.Nodup
import QuestAcademy.Proofs.RosterReseeding
import QuestAcademy.Proofs.TraineeNames

namespace QuestAcademy

section Keys

theorem exists_keyChars_append (started due : Bool) (front : List Char) :
    ∃ later still, ∀ back, keyChars started due (front ++ back) =
      keyChars started due front ++ keyChars later still back := by
  induction front generalizing started due with
  | nil => exact ⟨started, due, fun _ => rfl⟩
  | cons c rest ih =>
      simp only [List.cons_append, keyChars]
      split
      · obtain ⟨later, still, hrest⟩ := ih true false
        refine ⟨later, still, fun back => ?_⟩
        rw [hrest]
        split <;> rfl
      · exact ih started true

theorem keyChars_keyText_append {word : List Char} (h : KeyText word) (back : List Char) :
    keyChars true false (word ++ back) = word ++ keyChars true false back := by
  induction word with
  | nil => rfl
  | cons c rest ih =>
      obtain ⟨hkey, hlower, -⟩ := h c List.mem_cons_self
      rw [List.cons_append, keyChars, hkey, hlower,
        ih fun other hother => h other (List.mem_cons_of_mem c hother)]
      rfl

/-- A number in a text stands in the key of the text as it is, between the same characters as any
other number would. -/
theorem exists_keyChars_around (front back : List Char) : ∃ before after, ∀ n,
    keyChars false false (front ++ Decimal.digits n ++ back) =
      before ++ Decimal.digits n ++ after := by
  obtain ⟨started, due, hfront⟩ := exists_keyChars_append false false front
  refine ⟨keyChars false false front ++ (if due && started then ['-'] else []),
    keyChars true false back, fun n => ?_⟩
  have hdigits := keyText_digits n
  obtain ⟨c, rest, hcons⟩ := List.exists_cons_of_ne_nil (Decimal.digits_ne_nil n)
  rw [hcons] at hdigits ⊢
  obtain ⟨hkey, hlower, -⟩ := hdigits c List.mem_cons_self
  have hrest := keyChars_keyText_append
    (fun other hother => hdigits other (List.mem_cons_of_mem c hother)) back
  rw [List.append_assoc, hfront, List.cons_append, keyChars, hkey, hlower, hrest]
  cases due <;> cases started <;> simp

end Keys

namespace AgentBatch

section Patterns

variable {cs : List Char}

theorem countMarks_drop_le (n : Nat) (cs : List Char) : countMarks (cs.drop n) ≤ countMarks cs := by
  induction cs generalizing n with
  | nil => rw [List.drop_nil]
  | cons c rest ih =>
      cases n with
      | zero => exact Nat.le_refl _
      | succ n => exact Nat.le_trans (ih n) (Nat.le_add_left _ _)

theorem fill_of_countMarks_eq_zero (filling : List Char) (h : countMarks cs = 0) :
    fill filling cs = cs := by
  induction cs with
  | nil => rw [fill]
  | cons c rest ih =>
      rw [countMarks] at h
      have hmark : ¬ numberMark.isPrefixOf (c :: rest) = true := by
        intro hmark
        rw [if_pos hmark] at h
        omega
      rw [fill, if_neg hmark, ih (by omega)]

theorem exists_fill_eq (h : countMarks cs = 1) :
    ∃ front back, ∀ filling, fill filling cs = front ++ filling ++ back := by
  induction cs with
  | nil => cases h
  | cons c rest ih =>
      rw [countMarks] at h
      by_cases hmark : numberMark.isPrefixOf (c :: rest) = true
      · rw [if_pos hmark] at h
        have hlater := countMarks_drop_le (numberMark.length - 1) rest
        refine ⟨[], rest.drop (numberMark.length - 1), fun filling => ?_⟩
        rw [fill, if_pos hmark, fill_of_countMarks_eq_zero filling (by omega)]
        rfl
      · rw [if_neg hmark, Nat.zero_add] at h
        obtain ⟨front, back, hrest⟩ := ih h
        refine ⟨c :: front, back, fun filling => ?_⟩
        rw [fill, if_neg hmark, hrest]
        rfl

end Patterns

variable {batch : AgentBatch}

theorem of_validate (h : batch.validate = .ok ()) :
    countMarks batch.pattern.toList = 1 ∧ 0 < batch.count := by
  unfold validate at h
  split at h
  · cases h
  · split at h
    · cases h
    · rename_i hmarks
      split at h
      · cases h
      · rename_i hcount
        exact ⟨not_not.mp hmarks, Nat.pos_of_ne_zero hcount⟩

/-- All keys of a batch are alike but for the number. -/
theorem exists_key_nameAt (h : countMarks batch.pattern.toList = 1) : ∃ before after, ∀ place,
    (instanceKey (batch.nameAt place)).toList =
      before ++ Decimal.digits (batch.ordinal place) ++ after := by
  obtain ⟨front, back, hfill⟩ := exists_fill_eq h
  obtain ⟨before, after, hkeys⟩ := exists_keyChars_around front back
  refine ⟨before, after, fun place => ?_⟩
  rw [instanceKey, nameAt, String.toList_ofList, String.toList_ofList, hfill, hkeys]

theorem key_nameAt_ne_empty (h : countMarks batch.pattern.toList = 1) (place : Nat) :
    instanceKey (batch.nameAt place) ≠ "" := by
  obtain ⟨before, after, hkeys⟩ := exists_key_nameAt h
  intro hempty
  have hkey := hkeys place
  rw [hempty] at hkey
  have hdigits := (List.append_eq_nil_iff.mp (List.append_eq_nil_iff.mp hkey.symm).1).2
  exact Decimal.digits_ne_nil _ hdigits

theorem ordinal_of_key (h : countMarks batch.pattern.toList = 1) {place other : Nat}
    (hkey : instanceKey (batch.nameAt place) = instanceKey (batch.nameAt other)) :
    batch.ordinal place = batch.ordinal other := by
  obtain ⟨before, after, hkeys⟩ := exists_key_nameAt h
  have hchars := congrArg String.toList hkey
  rw [hkeys, hkeys] at hchars
  exact Decimal.digits_injective (List.append_cancel_left (List.append_cancel_right hchars))

theorem ordinal_inj (hroom : batch.firstOrdinal + batch.count - 1 ≤ ordinalLimit)
    {place other : Nat} (hplace : place < batch.count) (hother : other < batch.count)
    (h : batch.ordinal place = batch.ordinal other) : place = other := by
  unfold ordinal at h
  omega

theorem nodup_keys (hmarks : countMarks batch.pattern.toList = 1)
    (hroom : batch.firstOrdinal + batch.count - 1 ≤ ordinalLimit) :
    (batch.names.map instanceKey).Nodup := by
  rw [names, List.map_map]
  refine List.Nodup.map_on ?_ List.nodup_range
  intro place hplace other hother hkey
  exact ordinal_inj hroom (List.mem_range.mp hplace) (List.mem_range.mp hother)
    (ordinal_of_key hmarks hkey)

/-- The agents of a batch do not get in each other's way. -/
structure Apart (batch : AgentBatch) : Prop where
  count : batch.names.length = batch.count
  names : batch.names.Nodup
  nonempty : ∀ name ∈ batch.names, instanceKey name ≠ ""
  keys : (batch.names.map instanceKey).Nodup

theorem apart_of_validate (hvalid : batch.validate = .ok ())
    (hroom : batch.firstOrdinal + batch.count - 1 ≤ ordinalLimit) : batch.Apart := by
  have hmarks := (of_validate hvalid).1
  have hkeys := nodup_keys hmarks hroom
  refine ⟨?_, hkeys.of_map _, ?_, hkeys⟩
  · rw [names, List.length_map, List.length_range]
  · intro name hname
    obtain ⟨place, -, rfl⟩ := List.mem_map.mp hname
    exact key_nameAt_ne_empty hmarks place

end AgentBatch

def AgentBatch.guards : AgentBatch :=
  { pattern := "7{n}1"
    count := 12
    level := Level.lowest
    skills := []
    modelSettings := none
    isNpc := false
    guildId := none
    firstOrdinal := 7 }

def RosterPlan.guards : RosterPlan :=
  { name := "guards", description := "", batches := [.guards], charters := [] }

namespace Roster

theorem placeNew_holds (space : String) {store : Store} (hworking : store.Working)
    (hnamed : store.Named) (idempotent : Bool) (batch : AgentBatch) (name : String) :
    let next := (placeNew (Store.access space) idempotent batch name store).2
    next.Working ∧ next.Named ∧ next.Holds name ∧
      ∀ key, key ≠ instanceKey name → next.agents.find? key = store.agents.find? key := by
  obtain ⟨errors, placed, hplace, hplaces⟩ := place_places space hworking hnamed batch name
  have hstored : placed.Holds name := by
    refine ⟨newcomer space store batch name, ?_, rfl⟩
    rw [hplaces.agent, if_pos rfl]
  have hothers : ∀ key, key ≠ instanceKey name →
      placed.agents.find? key = store.agents.find? key := by
    intro key hkey
    rw [hplaces.agent, if_neg hkey]
  cases idempotent with
  | false =>
      simp only [placeNew, Bool.false_eq_true, if_false, hplace]
      exact ⟨hplaces.working, hplaces.named, hstored, hothers⟩
  | true =>
      by_cases hholds : store.Holds name
      · obtain ⟨agent, -, -, hskipped⟩ := placeNew_of_holds space hworking hnamed batch hholds
        rw [hskipped]
        exact ⟨hworking, hnamed, hholds, fun _ _ => rfl⟩
      · rw [placeNew_of_not_holds space hworking hnamed batch hholds, hplace]
        exact ⟨hplaces.working, hplaces.named, hstored, hothers⟩

end Roster

namespace Environment

open Roster

variable {ω : Type} {env : Environment ω} {space : String} {view : StoreView ω} {total : Nat}
  {world after : ω} {idempotent : Bool}

theorem InMemory.seedAgents_holds (h : env.InMemory space view)
    {items : List (AgentBatch × String)} {done : Nat} {report final : Report}
    (hkeys : (items.map fun item => instanceKey item.2).Nodup)
    (hworks : view.works world) (hworking : (view.store world).Working)
    (hnamed : (view.store world).Named)
    (hseed : seedAgents env false idempotent total done items report world =
      (.ok (), final, after)) :
    (∀ item ∈ items, (view.store after).Holds item.2) ∧
      ∀ key, (∀ item ∈ items, instanceKey item.2 ≠ key) →
        (view.store after).agents.find? key = (view.store world).agents.find? key := by
  induction items generalizing done report world with
  | nil =>
      cases hseed
      exact ⟨by simp, fun _ _ => rfl⟩
  | cons item rest ih =>
      obtain ⟨batch, name⟩ := item
      obtain ⟨hcheck, hchecked⟩ := h.check world hworks
      rw [seedAgents] at hseed
      split at hseed
      · cases hseed
      · rename_i checked hanswer
        rw [hanswer] at hcheck hchecked
        obtain ⟨hreport, hreported⟩ :=
          h.report (placingEvent name (done + 1) total) checked hchecked
        obtain ⟨placement, placed, hcall, hmodel, hplaced⟩ :=
          h.placeNew idempotent batch name _ hreported
        simp only [Bool.false_eq_true, if_false, hcall] at hseed
        rw [hreport, hcheck] at hmodel
        obtain ⟨hnextWorking, hnextNamed, hholds, hothers⟩ :=
          placeNew_holds space hworking hnamed idempotent batch name
        rw [hmodel] at hnextWorking hnextNamed hholds hothers
        obtain ⟨hnew, hrest⟩ := List.nodup_cons.mp hkeys
        obtain ⟨hlater, hkept⟩ := ih hrest hplaced hnextWorking hnextNamed hseed
        have hapart : ∀ other ∈ rest, instanceKey other.2 ≠ instanceKey name := by
          intro other hother hkey
          exact hnew (List.mem_map.mpr ⟨other, hother, hkey⟩)
        refine ⟨?_, ?_⟩
        · intro other hother
          rcases List.mem_cons.mp hother with rfl | hmem
          · obtain ⟨agent, hagent, hname⟩ := hholds
            exact ⟨agent, (hkept _ hapart).trans hagent, hname⟩
          · exact hlater other hmem
        · intro key hfree
          rw [hkept key fun other hother => hfree other (List.mem_cons_of_mem _ hother)]
          exact hothers key (hfree (batch, name) List.mem_cons_self).symm

/-- A completed run leaves an agent of every name of its plan in the store, if no two of them have
the same key. -/
theorem InMemory.seed_holds (h : env.InMemory space view) {plan : RosterPlan} {report : Report}
    (hkeys : (plan.items.map fun item => instanceKey item.2).Nodup)
    (hworks : view.works world) (hworking : (view.store world).Working)
    (hnamed : (view.store world).Named)
    (hseed : seed env plan false idempotent world = (.ok report, after)) :
    ∀ item ∈ plan.items, (view.store after).Holds item.2 := by
  unfold seed at hseed
  simp only at hseed
  split at hseed
  · cases hseed
  · split at hseed
    · cases hseed
    · rename_i guildReport founded hguilds
      obtain ⟨hfounds, -, hfounded⟩ := h.seedGuilds_founds hworks hguilds
      split at hseed
      · cases hseed
      · rename_i final agentsDone hagents
        cases hseed
        exact (h.seedAgents_holds hkeys hfounded (hfounds.working hworking) (hfounds.named hnamed)
          hagents).1

end Environment

/-- The agents of a valid batch have names and keys of their own, as long as their numbers stay
within the limit. A run that places the batch therefore leaves every one of them in the store. -/
theorem AgentBatch.apart_and_held {batch : AgentBatch} (hvalid : batch.validate = .ok ())
    (hroom : batch.firstOrdinal + batch.count - 1 ≤ ordinalLimit) :
    batch.Apart ∧ ∀ {ω : Type} {env : Environment ω} {space : String} {view : StoreView ω}
      {plan : RosterPlan} {idempotent : Bool} {world after : ω} {report : Report},
      env.InMemory space view → plan.batches = [batch] → view.works world →
      (view.store world).Working → (view.store world).Named →
      Roster.seed env plan false idempotent world = (.ok report, after) →
      ∀ name ∈ batch.names, (view.store after).Holds name := by
  have hapart := apart_of_validate hvalid hroom
  refine ⟨hapart, ?_⟩
  intro ω env space view plan idempotent world after report h hplan hworks hworking hnamed hseed
    name hname
  have hitems : plan.items = batch.names.map fun name => (batch, name) := by
    rw [RosterPlan.items, hplan, List.flatMap_singleton]
  have hkeys : (plan.items.map fun item => instanceKey item.2).Nodup := by
    rw [hitems, List.map_map]
    exact hapart.keys
  refine h.seed_holds hkeys hworks hworking hnamed hseed (batch, name) ?_
  rw [hitems]
  exact List.mem_map_of_mem hname

/-- All twelve guards are stored beside the scout. -/
theorem AgentBatch.apart_and_held_guards :
    guards.Apart ∧ ∃ report after,
      Roster.seed Rehearsal.quiet .guards false false (Rehearsal.onStore .scouted) =
        (.ok report, after) ∧
      (report.agentsCreated, guards.nameAt 0, guards.nameAt 3) = (12, "771", "7101") ∧
      ∀ name ∈ guards.names, after.store.Holds name := by
  have hcounts : (Roster.seed Rehearsal.quiet .guards false false
      (Rehearsal.onStore .scouted)).1.toOption.map Report.agentsCreated = some 12 := by
    decide +kernel
  obtain ⟨report, after, hseed, hcount⟩ := exists_ok_of_map hcounts
  have hnamed : Store.scouted.Named := Store.wellKeyed_scouted.toNamed
  have hvalid : guards.validate = .ok () := by rfl
  obtain ⟨hapart, hheld⟩ := apart_and_held hvalid (by decide)
  refine ⟨hapart, report, after, hseed, ?_, hheld Rehearsal.inMemory_quiet rfl
    (Rehearsal.works_onStore .scouted) Store.working_scouted hnamed hseed⟩
  rw [hcount]
  decide +kernel

end QuestAcademy
