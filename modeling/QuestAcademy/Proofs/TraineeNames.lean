import Mathlib.Data.List.DropRight
import QuestAcademy.Proofs.ArenaCourse
import QuestAcademy.Proofs.CanonicalKeys

namespace QuestAcademy

variable {ω : Type}

theorem Decimal.digits_injective : Function.Injective Decimal.digits := by
  intro n m h
  have hvalue := congrArg Decimal.value? h
  rw [Decimal.value?_digits, Decimal.value?_digits] at hvalue
  exact Option.some.inj hvalue

theorem isKeyChar_digitChar (d : Nat) :
    isKeyChar (Decimal.digitChar d) = true ∧
      lowerCase (Decimal.digitChar d) = Decimal.digitChar d ∧ Decimal.digitChar d ≠ '-' := by
  unfold Decimal.digitChar
  split <;> decide

/-- Characters that a key takes as they are, dashes aside. -/
def KeyText (cs : List Char) : Prop :=
  ∀ c ∈ cs, isKeyChar c = true ∧ lowerCase c = c ∧ c ≠ '-'

theorem keyText_digits (n : Nat) : KeyText (Decimal.digits n) := by
  induction n using Nat.strongRecOn with
  | _ n ih =>
      rw [Decimal.digits]
      intro c hc
      split at hc
      · rw [List.mem_singleton.mp hc]
        exact isKeyChar_digitChar n
      · rcases List.mem_append.mp hc with hfront | hlast
        · exact ih (n / 10) (by omega) c hfront
        · rw [List.mem_singleton.mp hlast]
          exact isKeyChar_digitChar _

theorem KeyText.isKey {cs : List Char} (h : KeyText cs) (hsome : cs ≠ []) : IsKey cs := by
  induction cs with
  | nil => exact absurd rfl hsome
  | cons c rest ih =>
      obtain ⟨hkey, hlower, -⟩ := h c List.mem_cons_self
      have hc : KeyLetter c := hlower ▸ keyLetter_lowerCase hkey
      cases rest with
      | nil => exact .single hc
      | cons d more =>
          apply IsKey.letter hc
          apply ih _ (List.cons_ne_nil d more)
          exact fun other hother => h other (List.mem_cons_of_mem c hother)

theorem isKey_digits (n : Nat) : IsKey (Decimal.digits n) :=
  (keyText_digits n).isKey (Decimal.digits_ne_nil n)

/-- The part of a text behind its last dash. -/
def lastPart (cs : List Char) : List Char :=
  cs.rtakeWhile (· ≠ '-')

theorem lastPart_append {start last : List Char} (h : KeyText last) :
    lastPart (start ++ ['-'] ++ last) = last := by
  induction last using List.reverseRecOn with
  | nil =>
      rw [List.append_nil]
      exact List.rtakeWhile_concat_neg _ _ '-' (by decide)
  | append_singleton front c ih =>
      have hc : c ≠ '-' := (h c (List.mem_append_right front List.mem_cons_self)).2.2
      have hfront := ih fun other hother => h other (List.mem_append_left [c] hother)
      rw [← List.append_assoc]
      unfold lastPart at hfront ⊢
      rw [List.rtakeWhile_concat_pos _ _ c (by simpa using hc), hfront]

namespace TraineeProfile

/-- What a trainee is called, without its number. -/
def slug (profile : TraineeProfile) : String :=
  if instanceKey profile.name = "" then "trainee" else instanceKey profile.name

theorem isKey_slug (profile : TraineeProfile) : IsKey profile.slug.toList := by
  unfold slug
  split
  · exact ((instanceKey_eq_self_iff "trainee").mp (by decide +kernel)).resolve_left (by decide)
  · rename_i hsome
    exact (isKey_instanceKey profile.name).resolve_left hsome

theorem toList_traineeName (profile : TraineeProfile) (ordinal : Nat) :
    (profile.traineeName ordinal).toList =
      profile.slug.toList ++ '-' :: Decimal.digits ordinal := by
  simp only [traineeName, Decimal.text, String.toList_append, String.toList_ofList]
  rw [List.append_assoc]
  rfl

theorem isKey_traineeName (profile : TraineeProfile) (ordinal : Nat) :
    IsKey (profile.traineeName ordinal).toList := by
  rw [toList_traineeName]
  exact profile.isKey_slug.joined (isKey_digits ordinal)

theorem instanceKey_traineeName (profile : TraineeProfile) (ordinal : Nat) :
    instanceKey (profile.traineeName ordinal) = profile.traineeName ordinal :=
  (instanceKey_eq_self_iff _).mpr (.inr (profile.isKey_traineeName ordinal))

theorem lastPart_traineeName (profile : TraineeProfile) (ordinal : Nat) :
    lastPart (instanceKey (profile.traineeName ordinal)).toList = Decimal.digits ordinal := by
  rw [instanceKey_traineeName, toList_traineeName, List.append_cons]
  exact lastPart_append (keyText_digits ordinal)

theorem ordinal_inj {profile other : TraineeProfile} {ordinal otherOrdinal : Nat}
    (h : instanceKey (profile.traineeName ordinal) =
      instanceKey (other.traineeName otherOrdinal)) : ordinal = otherOrdinal := by
  apply Decimal.digits_injective
  rw [← profile.lastPart_traineeName, ← other.lastPart_traineeName, h]

end TraineeProfile

namespace Arena

variable {env : Environment ω} {plan : ArenaPlan} {dryRun idempotent : Bool}
  {session last : Session ω}

/-- The keys of the trainees of some profiles, the first of which is the next after so many. -/
def traineeKeys (done : Nat) (profiles : List TraineeProfile) : List String :=
  (profiles.zipIdx (done + 1)).map fun (profile, ordinal) =>
    instanceKey (profile.traineeName ordinal)

theorem nodup_traineeKeys (done : Nat) (profiles : List TraineeProfile) :
    (traineeKeys done profiles).Nodup := by
  have hplaces : (profiles.zipIdx (done + 1)).Pairwise fun one other => one.2 ≠ other.2 := by
    rw [← List.pairwise_map (f := Prod.snd) (R := (· ≠ ·)), List.zipIdx_map_snd]
    exact List.nodup_range'
  refine (List.pairwise_map (R := (· ≠ ·))).mpr (hplaces.imp ?_)
  intro one other hdiffer hsame
  exact hdiffer (TraineeProfile.ordinal_inj hsame)

/-- Where a trainee is stored and how far it is to come. -/
def post (trainee : Trainee) : String × Nat := (trainee.key, trainee.target)

theorem post_enlist (name : String) (target : Nat) (preparation : Preparation) :
    (enlist name target preparation session).trainees.map post =
      session.trainees.map post ++ [(instanceKey name, target)] := by
  cases preparation <;> exact List.map_append

theorem keys_enlist (name : String) (target : Nat) (preparation : Preparation) :
    (enlist name target preparation session).trainees.map Trainee.key =
      session.trainees.map Trainee.key ++ [instanceKey name] := by
  cases preparation <;> exact List.map_append

theorem post_prepare {done : Nat} {profiles : List (TraineeProfile × Nat)}
    (h : prepare env plan dryRun idempotent done profiles session = (.ok (), last)) :
    last.trainees.map post = session.trainees.map post ++
      (traineeKeys done (profiles.map Prod.fst)).map fun key =>
        (key, plan.targets.convergenceLevel) := by
  induction profiles generalizing done session with
  | nil =>
      cases h
      exact (List.append_nil _).symm
  | cons pair rest ih =>
      obtain ⟨profile, goal⟩ := pair
      rw [prepare] at h
      split at h
      · cases h
      · simp only at h
        split at h
        · cases h
        · rw [ih h, post_enlist, List.append_assoc]
          rfl

theorem post_eq_of_unmentored {trainees others : List Trainee}
    (h : trainees.map Trainee.unmentored = others.map Trainee.unmentored) :
    trainees.map post = others.map post := by
  have hposts := congrArg (List.map post) h
  rw [List.map_map, List.map_map] at hposts
  exact hposts

theorem post_ready {dryRun : Bool} {world : ω} {curriculum : Curriculum} {opening : Session ω}
    (h : ready env plan dryRun idempotent (.start dryRun world) = (.ok curriculum, opening)) :
    opening.trainees.map post = (traineeKeys 0 plan.profiles).map fun key =>
      (key, plan.targets.convergenceLevel) := by
  unfold ready at h
  split at h
  · cases h
  · split at h
    · cases h
    · simp only at h
      split at h
      · cases h
      · rename_i prepared hprepare
        have hprepared := post_prepare hprepare
        rw [List.map_fst_zip (length_tierGoals _ _)] at hprepared
        split at h
        · cases h
        · rename_i hmentored
          cases h
          refine Eq.trans ?_ hprepared
          split at hmentored
          · have hmentors := (ensureMentors_counts env plan dryRun prepared).1
            rw [hmentored] at hmentors
            exact post_eq_of_unmentored hmentors
          · cases hmentored
            rfl

theorem keys_ready {dryRun : Bool} {world : ω} {curriculum : Curriculum} {opening : Session ω}
    (h : ready env plan dryRun idempotent (.start dryRun world) = (.ok curriculum, opening)) :
    opening.trainees.map Trainee.key = traineeKeys 0 plan.profiles := by
  have hposts := congrArg (List.map Prod.fst) (post_ready h)
  rw [List.map_map, List.map_map] at hposts
  exact hposts.trans (List.map_id _)

end Arena

end QuestAcademy
