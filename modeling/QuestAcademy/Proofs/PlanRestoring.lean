import QuestAcademy.Plan
import QuestAcademy.Proofs.Restoring

namespace QuestAcademy

open Reading

namespace Json

theorem restoring_read : Restoring read toDocument :=
  fun _ hd _ h => ⟨isJson_toDocument (within_of_ofDocument? hd h),
    ofDocument?_toDocument (within_of_ofDocument? hd h)⟩

theorem restoring_optional : Restoring (optional read) (orNull toDocument) := by
  apply Reading.restoring_optional restoring_read
  intro d w hd hnull h hw
  -- Nothing but null and a number that is not finite becomes null, and neither is possible here.
  have hw : w = null := by
    cases w <;> cases hw
    rfl
  subst hw
  cases hd with
  | null => exact hnull rfl
  | @float x hfinite =>
      have hnumber : some (number x) = some null := h
      rw [number_of_isFinite hfinite] at hnumber
      cases hnumber
  | list | record =>
      obtain ⟨_, _, h⟩ := Option.map_eq_some_iff.mp h
      cases h
  | _ => cases h

end Json

namespace TraineeProfile

theorem restores {profile : TraineeProfile}
    (hsettings : Restores (optional Json.read) (orNull Json.toDocument) profile.modelSettings) :
    Restores read toDocument profile := by
  have hname := restores_text profile.name
  have hskills := restores_texts profile.skills
  constructor
  · refine .fields ?_
    simp only [List.forall_mem_append, List.forall_mem_cons]
    exact ⟨⟨hname.isJson, hskills.isJson, nofun⟩, isJson_present hsettings _⟩
  · rw [read, toDocument, fields_bind]
    · rw [required_of_lookup hname, withDefault_of_lookup hskills, optional_of_lookup hsettings]
      · rfl
      all_goals simp [lookup_present, List.lookup_cons]
    · cases profile.modelSettings <;> simp [Document.present]
    · decide

theorem restoring_read : Restoring read toDocument := by
  intro d hd profile h
  obtain ⟨found, hfields, h⟩ := Option.bind_eq_some_iff.mp h
  obtain ⟨name, -, h⟩ := Option.bind_eq_some_iff.mp h
  obtain ⟨skills, -, h⟩ := Option.bind_eq_some_iff.mp h
  obtain ⟨settings, hsettings, h⟩ := Option.bind_eq_some_iff.mp h
  cases h
  have hfound := fromJson_of_fields hd hfields
  exact restores (hfound.restores_optional Json.restoring_optional hsettings)

end TraineeProfile

namespace LevelTargets

def readCount (entry : String × Document) : Option (Tier × Nat) := do
  return (← Tier.words.lookup entry.1, ← Reading.word .json entry.2)

def writeCount (entry : Tier × Nat) : String × Document :=
  (entry.1.name, .nat entry.2)

def given (counts : Tier → Option Nat) : List (Tier × Nat) :=
  Tier.ascending.filterMap fun tier => (counts tier).map fun count => (tier, count)

def countsDocument (counts : Tier → Option Nat) : Document :=
  .fields ((given counts).map writeCount)

theorem toDocument_eq (targets : LevelTargets) :
    targets.toDocument = .fields [("min_level", .nat targets.minLevel),
      ("max_level", orNull .nat targets.maxLevel),
      ("tier_counts", countsDocument targets.tierCounts)] := by
  rw [countsDocument, given, List.map_filterMap]
  simp only [Option.map_map]
  rfl

theorem lookup_filterMap (counts : Tier → Option Nat) (tiers : List Tier) (tier : Tier) :
    (tiers.filterMap fun tier => (counts tier).map fun count => (tier, count)).lookup tier =
      if tier ∈ tiers then counts tier else none := by
  induction tiers with
  | nil => rfl
  | cons first rest ih =>
      rw [List.filterMap_cons]
      cases hfirst : counts first with
      | none =>
          simp only [Option.map_none, ih]
          by_cases htier : tier = first
          · simp [htier, hfirst]
          · simp [htier]
      | some count =>
          simp only [Option.map_some, List.lookup_cons, ih]
          by_cases htier : tier = first
          · simp [htier, hfirst]
          · simp [htier, beq_false_of_ne htier]

theorem lookup_reverse_given (counts : Tier → Option Nat) (tier : Tier) :
    (given counts).reverse.lookup tier = counts tier := by
  rw [given, ← List.filterMap_reverse, lookup_filterMap, if_pos (by cases tier <;> decide)]

theorem restores_counts {counts : Tier → Option Nat}
    (h : ∀ tier, ∀ count ∈ counts tier, count ≤ Limit.word) :
    Restores readCounts countsDocument counts := by
  have hcount : ∀ entry ∈ given counts, Restores Reading.word .nat entry.2 := by
    intro entry hmem
    obtain ⟨tier, -, htier⟩ := List.mem_filterMap.mp hmem
    obtain ⟨count, hcount, rfl⟩ := Option.map_eq_some_iff.mp htier
    exact restores_nat (by decide) (h tier count hcount)
  have hentry : ∀ entry ∈ given counts, readCount (writeCount entry) = some entry := by
    intro entry hmem
    rw [readCount, writeCount, (hcount entry hmem).read_write]
    cases entry with
    | mk tier count => cases tier <;> rfl
  constructor
  · exact .fields (List.forall_mem_map.mpr fun entry hmem => (hcount entry hmem).isJson)
  · have hread : readCounts .json (countsDocument counts) =
        ((given counts).map writeCount).mapM readCount >>= fun counts =>
          some fun tier => counts.reverse.lookup tier := by
      rw [readCounts, countsDocument, textEntries_fields]
      rfl
    rw [hread, mapM_map hentry]
    exact congrArg some (funext (lookup_reverse_given counts))

theorem restoring_counts : Restoring readCounts countsDocument := by
  intro d hd counts h
  obtain ⟨entries, hentries, h⟩ := Option.bind_eq_some_iff.mp h
  obtain ⟨given, hgiven, h⟩ := Option.bind_eq_some_iff.mp h
  cases h
  apply restores_counts
  intro tier count hcount
  obtain ⟨before, after, hsplit, -⟩ := List.lookup_eq_some_iff.mp hcount
  have hmem : (tier, count) ∈ given := by
    rw [← List.mem_reverse, hsplit]
    exact List.mem_append_right _ List.mem_cons_self
  obtain ⟨entry, hentry, hread⟩ := exists_of_mem_mapM hgiven hmem
  obtain ⟨_, -, hread⟩ := Option.bind_eq_some_iff.mp hread
  obtain ⟨_, hcount, hread⟩ := Option.bind_eq_some_iff.mp hread
  cases hread
  exact le_of_nat (isJson_of_textEntries hd hentries entry hentry) hcount

theorem restores {targets : LevelTargets} (hmin : Restores byte .nat targets.minLevel)
    (hmax : Restores (optional byte) (orNull .nat) targets.maxLevel)
    (hcounts : Restores readCounts countsDocument targets.tierCounts) :
    Restores read toDocument targets := by
  constructor
  · rw [toDocument_eq]
    refine .fields ?_
    simp only [List.forall_mem_cons]
    exact ⟨hmin.isJson, hmax.isJson, hcounts.isJson, nofun⟩
  · rw [read, toDocument_eq, fields_bind]
    · rw [withDefault_of_lookup hmin, optional_of_lookup hmax, withDefault_of_lookup hcounts]
      · rfl
      all_goals simp [List.lookup_cons]
    · simp
    · decide

theorem restores_noCounts : Restores readCounts countsDocument default.tierCounts :=
  restores_counts fun _ _ => nofun

theorem restores_default : Restores read toDocument default :=
  restores (restores_nat (by decide) (by decide)) restores_none restores_noCounts

theorem restoring_read : Restoring read toDocument := by
  intro d hd targets h
  obtain ⟨found, hfields, h⟩ := Option.bind_eq_some_iff.mp h
  obtain ⟨minLevel, hmin, h⟩ := Option.bind_eq_some_iff.mp h
  obtain ⟨maxLevel, hmax, h⟩ := Option.bind_eq_some_iff.mp h
  obtain ⟨counts, hcounts, h⟩ := Option.bind_eq_some_iff.mp h
  cases h
  have hfound := fromJson_of_fields hd hfields
  exact restores
    (hfound.restores_withDefault restoring_byte (restores_nat (by decide) (by decide)) hmin)
    (hfound.restores_optional (restoring_optional_of_ne_null restoring_byte fun _ => nofun) hmax)
    (hfound.restores_withDefault restoring_counts restores_noCounts hcounts)

end LevelTargets

theorem Strictness.restores (strictness : Strictness) : Restores read toDocument strictness :=
  restores_choice (fun strictness => by cases strictness <;> rfl) strictness

theorem SeedMode.restores (mode : SeedMode) : Restores read toDocument mode :=
  restores_choice (fun mode => by cases mode <;> rfl) mode

namespace SelectionMode

theorem restores_first : Restores read toDocument first :=
  ⟨.fields (List.forall_mem_singleton.mpr (.text _)), by rfl⟩

theorem restores_seeded {seed : Nat} (h : Restores Reading.long .nat seed) :
    Restores read toDocument (seeded seed) := by
  constructor
  · refine .fields ?_
    simp only [List.forall_mem_cons]
    exact ⟨.text _, h.isJson, nofun⟩
  · have hmode : Fields.required
        ⟨.json, [("mode", .text "seeded_random"), ("seed", .nat seed)], false⟩ "mode"
        (choice words) = some true := by
      rfl
    rw [read, toDocument, fields_bind (by simp) (by decide)]
    rw [hmode, Option.bind_eq_bind, Option.bind_some, if_pos rfl,
      required_of_lookup h (by simp [List.lookup_cons])]
    rfl

theorem restoring_read : Restoring read toDocument := by
  intro d hd mode h
  cases mode with
  | first => exact restores_first
  | seeded seed =>
      obtain ⟨found, hfields, h⟩ := Option.bind_eq_some_iff.mp h
      obtain ⟨isSeeded, -, h⟩ := Option.bind_eq_some_iff.mp h
      cases isSeeded with
      | true =>
          obtain ⟨given, hgiven, h⟩ := Option.bind_eq_some_iff.mp h
          cases h
          exact restores_seeded
            ((fromJson_of_fields hd hfields).restores_required restoring_long hgiven)
      | false =>
          simp only [Bool.false_eq_true, if_false] at h
          split at h <;> obtain ⟨_, -, h⟩ := Option.bind_eq_some_iff.mp h <;> cases h

end SelectionMode

namespace ArenaPlan

theorem restores {plan : ArenaPlan}
    (hprofiles : Restores (list TraineeProfile.read) (listed TraineeProfile.toDocument)
      plan.profiles)
    (htargets : Restores LevelTargets.read LevelTargets.toDocument plan.targets)
    (hquests : Restores word .nat plan.questsPerTrainee)
    (hmultiplier : Restores float .float plan.multiplier)
    (hfile : Restores (optional text) (orNull .text) plan.questFile)
    (hmentors : Restores word .nat plan.bootstrapMentors)
    (htrainees : Restores word .nat plan.traineesPerMentor)
    (hselection : Restores SelectionMode.read SelectionMode.toDocument plan.selection)
    (hconcurrency : Restores long .nat plan.concurrency) : Restores read toDocument plan := by
  have hdomain := restores_text plan.domain
  have hstrictness := plan.strictness.restores
  have hmentored := restores_bool plan.mentored
  constructor
  · refine .fields ?_
    simp only [List.forall_mem_append, List.forall_mem_cons]
    exact ⟨⟨⟨hprofiles.isJson, htargets.isJson, hquests.isJson, hmultiplier.isJson, hdomain.isJson,
      nofun⟩, isJson_present hfile _⟩, hstrictness.isJson, hmentors.isJson, hmentored.isJson,
      htrainees.isJson, hselection.isJson, hconcurrency.isJson, nofun⟩
  · rw [read, toDocument, fields_bind]
    · rw [withDefault_of_lookup hprofiles, withDefault_of_lookup htargets,
        withDefault_of_lookup hquests, withDefault_of_lookup hmultiplier,
        withDefault_of_lookup hdomain, optional_of_lookup hfile, withDefault_of_lookup hstrictness,
        withDefault_of_lookup hmentors, withDefault_of_lookup hmentored,
        withDefault_of_lookup htrainees, withDefault_of_lookup hselection,
        withDefault_of_lookup hconcurrency]
      · rfl
      all_goals simp [lookup_present, List.lookup_cons, List.lookup_append, listed]
    · cases plan.questFile <;> simp [Document.present]
    · decide

theorem restoring_read : Restoring read toDocument := by
  intro d hd plan h
  obtain ⟨found, hfields, h⟩ := Option.bind_eq_some_iff.mp h
  obtain ⟨profiles, hprofiles, h⟩ := Option.bind_eq_some_iff.mp h
  obtain ⟨targets, htargets, h⟩ := Option.bind_eq_some_iff.mp h
  obtain ⟨questsPerTrainee, hquests, h⟩ := Option.bind_eq_some_iff.mp h
  obtain ⟨multiplier, hmultiplier, h⟩ := Option.bind_eq_some_iff.mp h
  obtain ⟨domain, -, h⟩ := Option.bind_eq_some_iff.mp h
  obtain ⟨questFile, hfile, h⟩ := Option.bind_eq_some_iff.mp h
  obtain ⟨strictness, -, h⟩ := Option.bind_eq_some_iff.mp h
  obtain ⟨bootstrapMentors, hmentors, h⟩ := Option.bind_eq_some_iff.mp h
  obtain ⟨mentored, -, h⟩ := Option.bind_eq_some_iff.mp h
  obtain ⟨traineesPerMentor, htrainees, h⟩ := Option.bind_eq_some_iff.mp h
  obtain ⟨selection, hselection, h⟩ := Option.bind_eq_some_iff.mp h
  obtain ⟨concurrency, hconcurrency, h⟩ := Option.bind_eq_some_iff.mp h
  cases h
  have hfound := fromJson_of_fields hd hfields
  have hdefault : ∀ n ≤ Limit.word, Restores word .nat n := fun _ => restores_nat (by decide)
  exact restores
    (hfound.restores_withDefault (restoring_list TraineeProfile.restoring_read) restores_nil
      hprofiles)
    (hfound.restores_withDefault LevelTargets.restoring_read LevelTargets.restores_default htargets)
    (hfound.restores_withDefault restoring_word (hdefault 50 (by decide)) hquests)
    (hfound.restores_withDefault restoring_float ⟨.float (by decide +kernel), rfl⟩ hmultiplier)
    (hfound.restores_optional (restoring_optional_of_ne_null restoring_text fun _ => nofun) hfile)
    (hfound.restores_withDefault restoring_word (hdefault 0 (by decide)) hmentors)
    (hfound.restores_withDefault restoring_word (hdefault 3 (by decide)) htrainees)
    (hfound.restores_withDefault SelectionMode.restoring_read SelectionMode.restores_first
      hselection)
    (hfound.restores_withDefault restoring_long (restores_nat (by decide) (by decide)) hconcurrency)

end ArenaPlan

namespace AgentBatch

theorem restores {batch : AgentBatch} (hcount : Restores word .nat batch.count)
    (hlevel : Restores byte .nat batch.level)
    (hsettings : Restores (optional Json.read) (orNull Json.toDocument) batch.modelSettings)
    (hguild : Restores (optional text) (orNull .text) batch.guildId)
    (hfirst : Restores word .nat batch.firstOrdinal) : Restores read toDocument batch := by
  have hpattern := restores_text batch.pattern
  have hskills := restores_texts batch.skills
  have hnpc := restores_bool batch.isNpc
  constructor
  · refine .fields ?_
    simp only [List.forall_mem_append, List.forall_mem_cons]
    exact ⟨⟨⟨⟨⟨hpattern.isJson, hcount.isJson, hlevel.isJson, hskills.isJson, nofun⟩,
      isJson_present hsettings _⟩, hnpc.isJson, nofun⟩, isJson_present hguild _⟩,
      hfirst.isJson, nofun⟩
  · rw [read, toDocument, fields_bind]
    · rw [required_of_lookup hpattern, required_of_lookup hcount, required_of_lookup hlevel,
        withDefault_of_lookup hskills, optional_of_lookup hsettings, withDefault_of_lookup hnpc,
        optional_of_lookup hguild, withDefault_of_lookup hfirst]
      · rfl
      all_goals simp [lookup_present, List.lookup_cons, List.lookup_append]
    · cases batch.modelSettings <;> cases batch.guildId <;> simp [Document.present]
    · decide

theorem restoring_read : Restoring read toDocument := by
  intro d hd batch h
  obtain ⟨found, hfields, h⟩ := Option.bind_eq_some_iff.mp h
  obtain ⟨pattern, -, h⟩ := Option.bind_eq_some_iff.mp h
  obtain ⟨count, hcount, h⟩ := Option.bind_eq_some_iff.mp h
  obtain ⟨level, hlevel, h⟩ := Option.bind_eq_some_iff.mp h
  obtain ⟨skills, -, h⟩ := Option.bind_eq_some_iff.mp h
  obtain ⟨settings, hsettings, h⟩ := Option.bind_eq_some_iff.mp h
  obtain ⟨isNpc, -, h⟩ := Option.bind_eq_some_iff.mp h
  obtain ⟨guildId, hguild, h⟩ := Option.bind_eq_some_iff.mp h
  obtain ⟨firstOrdinal, hfirst, h⟩ := Option.bind_eq_some_iff.mp h
  cases h
  have hfound := fromJson_of_fields hd hfields
  exact restores (hfound.restores_required restoring_word hcount)
    (hfound.restores_required restoring_byte hlevel)
    (hfound.restores_optional Json.restoring_optional hsettings)
    (hfound.restores_optional (restoring_optional_of_ne_null restoring_text fun _ => nofun) hguild)
    (hfound.restores_withDefault restoring_word (restores_nat (by decide) (by decide)) hfirst)

end AgentBatch

namespace GuildCharter

theorem restores {charter : GuildCharter} (hlevel : Restores byte .nat charter.minLevel) :
    Restores read toDocument charter := by
  have hid := restores_text charter.id
  have hname := restores_text charter.name
  have hdescription := restores_text charter.description
  have hculture := restores_text charter.culture
  constructor
  · refine .fields ?_
    simp only [List.forall_mem_cons]
    exact ⟨hid.isJson, hname.isJson, hdescription.isJson, hculture.isJson, hlevel.isJson, nofun⟩
  · rw [read, toDocument, fields_bind]
    · rw [required_of_lookup hid, required_of_lookup hname, withDefault_of_lookup hdescription,
        withDefault_of_lookup hculture, withDefault_of_lookup hlevel]
      · rfl
      all_goals simp [List.lookup_cons]
    · simp
    · decide

theorem restoring_read : Restoring read toDocument := by
  intro d hd charter h
  obtain ⟨found, hfields, h⟩ := Option.bind_eq_some_iff.mp h
  obtain ⟨id, -, h⟩ := Option.bind_eq_some_iff.mp h
  obtain ⟨name, -, h⟩ := Option.bind_eq_some_iff.mp h
  obtain ⟨description, -, h⟩ := Option.bind_eq_some_iff.mp h
  obtain ⟨culture, -, h⟩ := Option.bind_eq_some_iff.mp h
  obtain ⟨minLevel, hlevel, h⟩ := Option.bind_eq_some_iff.mp h
  cases h
  have hfound := fromJson_of_fields hd hfields
  exact restores
    (hfound.restores_withDefault restoring_byte (restores_nat (by decide) (by decide)) hlevel)

end GuildCharter

namespace RosterPlan

theorem restores {plan : RosterPlan}
    (hbatches : Restores (list AgentBatch.read) (listed AgentBatch.toDocument) plan.batches)
    (hcharters : Restores (list GuildCharter.read) (listed GuildCharter.toDocument)
      plan.charters) :
    Restores read toDocument plan := by
  have hname := restores_text plan.name
  have hdescription := restores_text plan.description
  constructor
  · refine .fields ?_
    simp only [List.forall_mem_cons]
    exact ⟨hname.isJson, hdescription.isJson, hbatches.isJson, hcharters.isJson, nofun⟩
  · rw [read, toDocument, fields_bind]
    · rw [required_of_lookup hname, withDefault_of_lookup hdescription,
        withDefault_of_lookup hbatches, withDefault_of_lookup hcharters]
      · rfl
      all_goals simp [List.lookup_cons, listed]
    · simp
    · decide

theorem restoring_read : Restoring read toDocument := by
  intro d hd plan h
  obtain ⟨found, hfields, h⟩ := Option.bind_eq_some_iff.mp h
  obtain ⟨name, -, h⟩ := Option.bind_eq_some_iff.mp h
  obtain ⟨description, -, h⟩ := Option.bind_eq_some_iff.mp h
  obtain ⟨batches, hbatches, h⟩ := Option.bind_eq_some_iff.mp h
  obtain ⟨charters, hcharters, h⟩ := Option.bind_eq_some_iff.mp h
  cases h
  have hfound := fromJson_of_fields hd hfields
  exact restores
    (hfound.restores_withDefault (restoring_list AgentBatch.restoring_read) restores_nil hbatches)
    (hfound.restores_withDefault (restoring_list GuildCharter.restoring_read) restores_nil
      hcharters)

end RosterPlan

namespace SeedPlan

theorem restores {plan : SeedPlan}
    (harena : Restores (optional ArenaPlan.read) (orNull ArenaPlan.toDocument) plan.arena)
    (hroster : Restores (optional RosterPlan.read) (orNull RosterPlan.toDocument) plan.roster) :
    Restores read toDocument plan := by
  have hmode := plan.mode.restores
  have hdryRun := restores_bool plan.dryRun
  have hidempotent := restores_bool plan.idempotent
  constructor
  · refine .fields ?_
    simp only [List.forall_mem_append, List.forall_mem_cons]
    exact ⟨⟨⟨hmode.isJson, hdryRun.isJson, hidempotent.isJson, nofun⟩, isJson_present harena _⟩,
      isJson_present hroster _⟩
  · rw [read, toDocument, fields_bind]
    · rw [required_of_lookup hmode, withDefault_of_lookup hdryRun,
        withDefault_of_lookup hidempotent, optional_of_lookup harena, optional_of_lookup hroster]
      · rfl
      all_goals simp [lookup_present, List.lookup_cons, List.lookup_append]
    · cases plan.arena <;> cases plan.roster <;> simp [Document.present]
    · decide

theorem restoring_read : Restoring read toDocument := by
  intro d hd plan h
  obtain ⟨found, hfields, h⟩ := Option.bind_eq_some_iff.mp h
  obtain ⟨mode, -, h⟩ := Option.bind_eq_some_iff.mp h
  obtain ⟨dryRun, -, h⟩ := Option.bind_eq_some_iff.mp h
  obtain ⟨idempotent, -, h⟩ := Option.bind_eq_some_iff.mp h
  obtain ⟨arena, harena, h⟩ := Option.bind_eq_some_iff.mp h
  obtain ⟨roster, hroster, h⟩ := Option.bind_eq_some_iff.mp h
  cases h
  have hfound := fromJson_of_fields hd hfields
  exact restores
    (hfound.restores_optional
      (restoring_optional_of_ne_null ArenaPlan.restoring_read fun _ => nofun) harena)
    (hfound.restores_optional
      (restoring_optional_of_ne_null RosterPlan.restoring_read fun _ => nofun) hroster)

/-- Whatever JSON a plan was read from, the plan is written as JSON. It is read from that once more,
the same in every part, so there is as much wrong with it as before. -/
theorem reread_as_written {d : Document} (hd : d.IsJson) {plan : SeedPlan}
    (h : read .json d = some plan) :
    plan.toDocument.IsJson ∧ ∃ again, read .json plan.toDocument = some again ∧ again = plan ∧
      again.validate = plan.validate := by
  obtain ⟨hjson, hread⟩ := restoring_read hd h
  exact ⟨hjson, plan, hread, rfl, rfl⟩

def sketchedSettings : Document :=
  .fields [("model", .text "small"), ("limits", .list [.int 3, .float 0.5]), ("model", .null)]

def sketchedTargets : Document :=
  .fields [("max_level", .null), ("tier_counts", .fields [("expert", .int 4), ("expert", .int 1)])]

/-- A plan in which many fields are missing and some are null. -/
def sketch : Document :=
  .fields [("mode", .text "training_arena"), ("roster", .null), ("remark", .unusable),
    ("arena", .fields [("target_levels", sketchedTargets), ("xp_multiplier", .int 2),
      ("agents", .list [.fields [("name", .text "scout"), ("llm_config", sketchedSettings)]]),
      ("selection", .fields [("mode", .text "seeded_random"), ("seed", .int 7)])])]

theorem isJson_sketch : sketch.IsJson := by
  have hsmall : ∀ n ≤ 7, (Document.int (n : Nat)).IsJson := fun n h => .nat (h.trans (by decide))
  have hsettings : sketchedSettings.IsJson := by
    refine .fields ?_
    simp only [List.forall_mem_cons]
    refine ⟨.text _, .list ?_, .null, nofun⟩
    simp only [List.forall_mem_cons]
    exact ⟨hsmall 3 (by decide), .float (by decide +kernel), nofun⟩
  have htargets : sketchedTargets.IsJson := by
    refine .fields ?_
    simp only [List.forall_mem_cons]
    refine ⟨.null, .fields ?_, nofun⟩
    simp only [List.forall_mem_cons]
    exact ⟨hsmall 4 (by decide), hsmall 1 (by decide), nofun⟩
  have hagents : (Document.list [.fields [("name", .text "scout"),
      ("llm_config", sketchedSettings)]]).IsJson := by
    refine .list (List.forall_mem_singleton.mpr (.fields ?_))
    simp only [List.forall_mem_cons]
    exact ⟨.text _, hsettings, nofun⟩
  have hselection :
      (Document.fields [("mode", .text "seeded_random"), ("seed", .int 7)]).IsJson := by
    refine .fields ?_
    simp only [List.forall_mem_cons]
    exact ⟨.text _, hsmall 7 (by decide), nofun⟩
  refine .fields ?_
  simp only [List.forall_mem_cons]
  refine ⟨.text _, .null, .unusable, .fields ?_, nofun⟩
  simp only [List.forall_mem_cons]
  exact ⟨htargets, hsmall 2 (by decide), hagents, hselection, nofun⟩

theorem reread_as_written_sketch : ∃ plan, read .json sketch = some plan ∧
    (plan.idempotent, plan.arena.map fun arena => (arena.targets.tierCounts .expert,
      arena.questsPerTrainee, arena.selection)) = (true, some (some 1, 50, .seeded 7)) ∧
    plan.toDocument.IsJson ∧ read .json plan.toDocument = some plan := by
  have hread : (read .json sketch).map (fun plan => (plan.idempotent, plan.arena.map fun arena =>
      (arena.targets.tierCounts .expert, arena.questsPerTrainee, arena.selection))) =
        some (true, some (some 1, 50, .seeded 7)) := by
    decide +kernel
  obtain ⟨plan, hplan, hparts⟩ := Option.map_eq_some_iff.mp hread
  obtain ⟨hjson, again, hagain, rfl, -⟩ := reread_as_written isJson_sketch hplan
  exact ⟨again, hplan, hparts, hjson, hagain⟩

end SeedPlan

end QuestAcademy
