import QuestAcademy.Proofs.ArenaFrame
import QuestAcademy.Proofs.GuildJoining
import QuestAcademy.Proofs.RosterPlacement
import QuestAcademy.Proofs.TierAdvice

namespace QuestAcademy

variable {ω : Type}

namespace Training

section Keys

variable (env : Environment ω) (plan : ArenaPlan) (template : Template) (budget : Nat)
  {session : Session ω}

/-- The trainees that are to try a quest have these keys at their places. -/
def AtPlaces (keys : List String) (due : List (Trainee × Nat)) : Prop :=
  ∀ pair ∈ due, keys[pair.2]? = some pair.1.key

theorem key_refresh (store : StoreAccess ω) (trainee : Trainee) (world : ω) :
    (refresh store trainee world).1.key = trainee.key := by
  unfold refresh
  split <;> rfl

theorem keys_settle {trainee : Trainee} {place : Nat} (outcome : Except AttemptError Receipt)
    (hplace : (session.trainees.map Trainee.key)[place]? = some trainee.key) :
    (settle env template budget trainee place outcome session).2.trainees.map Trainee.key =
      session.trainees.map Trainee.key := by
  unfold settle
  split
  · rfl
  · obtain ⟨hlt, hkey⟩ := List.getElem?_eq_some_iff.mp hplace
    simp only [List.map_set, key_refresh]
    rw [← hkey, List.set_getElem_self]

theorem keys_roundInTurn {due : List (Trainee × Nat)}
    (hdue : AtPlaces (session.trainees.map Trainee.key) due) :
    (roundInTurn env plan template budget due session).2.trainees.map Trainee.key =
      session.trainees.map Trainee.key := by
  induction due generalizing session with
  | nil => rfl
  | cons pair rest ih =>
      obtain ⟨trainee, place⟩ := pair
      obtain ⟨hplace, hrest⟩ := List.forall_mem_cons.mp hdue
      rw [roundInTurn]
      cases hattempt : attempt env plan template trainee session.world with
      | mk outcome after =>
          have hsettled : (settle env template budget trainee place outcome
              { session with world := after }).2.trainees.map Trainee.key =
                session.trainees.map Trainee.key := keys_settle env template budget outcome hplace
          simp only
          split <;> rename_i heq <;> rw [heq] at hsettled
          · exact hsettled
          · exact (ih (hsettled ▸ hrest)).trans hsettled

theorem fst_attemptAll (due : List (Trainee × Nat)) (world : ω) :
    (attemptAll env plan template due world).1.map Prod.fst = due := by
  induction due generalizing world with
  | nil => rfl
  | cons pair rest ih => exact congrArg (List.cons pair) (ih _)

theorem keys_settleAll {outcomes : List ((Trainee × Nat) × Except AttemptError Receipt)}
    (hdue : AtPlaces (session.trainees.map Trainee.key) (outcomes.map Prod.fst)) :
    (settleAll env template budget outcomes session).2.trainees.map Trainee.key =
      session.trainees.map Trainee.key := by
  induction outcomes generalizing session with
  | nil => rfl
  | cons entry rest ih =>
      obtain ⟨⟨trainee, place⟩, outcome⟩ := entry
      obtain ⟨hplace, hrest⟩ := List.forall_mem_cons.mp hdue
      have hsettled := keys_settle env template budget outcome hplace
      rw [settleAll]
      split <;> rename_i heq <;> rw [heq] at hsettled
      · exact hsettled
      · exact (ih (hsettled ▸ hrest)).trans hsettled

theorem atPlaces_pending (trainees : List Trainee) :
    AtPlaces (trainees.map Trainee.key) (pending trainees) := by
  rintro ⟨trainee, place⟩ hpair
  have hplace := List.mem_zipIdx_iff_getElem?.mp (List.mem_filter.mp hpair).1
  rw [List.getElem?_map]
  exact congrArg (Option.map Trainee.key) hplace

theorem keys_round (session : Session ω) :
    (round env plan template budget (pending session.trainees) session).2.trainees.map
      Trainee.key = session.trainees.map Trainee.key := by
  have hdue := atPlaces_pending session.trainees
  unfold round
  split
  · exact keys_roundInTurn env plan template budget hdue
  · rw [← fst_attemptAll env plan template (pending session.trainees) session.world] at hdue
    simp only
    exact keys_settleAll env template budget hdue

theorem keys_rounds (fuel : Nat) (selector : Selector) (session : Session ω) :
    (rounds env plan budget fuel selector session).2.trainees.map Trainee.key =
      session.trainees.map Trainee.key := by
  induction fuel generalizing selector session with
  | zero => rfl
  | succ fuel ih =>
      rw [rounds]
      split
      · rfl
      · split
        · rfl
        · rename_i checked _
          simp only
          split
          · rfl
          · split
            · rfl
            · rename_i template _ _
              have hround := keys_round env plan template budget { session with world := checked }
              split <;> rename_i heq <;> rw [heq] at hround
              · exact hround
              · exact (ih _ _).trans hround

theorem keys_train (curriculum : Curriculum) (session : Session ω) :
    (train env plan curriculum session).2.trainees.map Trainee.key =
      session.trainees.map Trainee.key :=
  keys_rounds env plan _ _ _ session

end Keys

end Training

/-- The trainee bears the key under which it lies as its name, and has the id that belongs to it. -/
structure Trainee.Own (space : String) (trainee : Trainee) : Prop where
  canonical : instanceKey trainee.key = trainee.key
  name : trainee.agent.name = trainee.key
  id : trainee.agent.id = entityId space trainee.key

section Holding

variable {space key name : String} {before after : Store}

theorem Store.Holds.of_same (h : before.Holds name)
    (hsame : after.agents.find? (instanceKey name) = before.agents.find? (instanceKey name)) :
    after.Holds name := by
  obtain ⟨agent, hagent, hname⟩ := h
  exact ⟨agent, hsame.trans hagent, hname⟩

theorem Store.Holds.tended (h : before.Holds name) (htended : before.Tended space key after) :
    after.Holds name := by
  by_cases hkey : instanceKey name = key
  · obtain ⟨agent, hagent, hname⟩ := h
    have hown := htended.own
    rw [← hkey, hagent, Option.map_some] at hown
    obtain ⟨found, hfound, htraits⟩ := Option.map_eq_some_iff.mp hown
    exact ⟨found, hfound, (congrArg AgentTraits.name htraits).trans hname⟩
  · exact h.of_same (htended.others _ hkey)

variable {start : Store} {hall : Hall} {trainees : List Agent}

theorem Hall.Confined.others {agent : Agent} (h : hall.Confined space [agent] [] start)
    (hkey : key ≠ instanceKey agent.name) :
    hall.store.agents.find? key = start.agents.find? key := by
  cases h.may key with
  | same hsame => exact hsame
  | trainee hagent hown =>
      rw [List.mem_singleton.mp hagent] at hown
      exact absurd hown.symm hkey
  | mentor hagent => cases hagent

theorem Hall.Confined.holds {count first : Nat}
    (h : hall.Confined space [] (Mentors.recruits space count first) start)
    (hname : start.Holds name) (hcanonical : instanceKey name = name) : hall.store.Holds name := by
  cases h.may (instanceKey name) with
  | same hsame => exact hname.of_same hsame
  | trainee hagent => cases hagent
  | @mentor agent hagent hkey hnew =>
      obtain ⟨place, -, hmentor, -⟩ := Mentors.exists_of_mem_recruits hagent
      rw [hmentor, Mentors.instanceKey_mentorName, ← hmentor] at hkey
      exact ⟨agent, hnew, hkey.trans hcanonical⟩

end Holding

namespace Environment

variable {env : Environment ω} {view : HallView ω} {world after : ω} {dryRun idempotent : Bool}
  {session : Session ω} {plan : ArenaPlan}

/-- Every trainee is the agent of its own name, and unless the run is dry the store holds it. -/
structure Settled (env : Environment ω) (view : HallView ω) (dryRun : Bool)
    (session : Session ω) : Prop where
  keyed : (view.hall session.world).store.WellKeyed env.store.space
  numbered : (view.hall session.world).board.Numbered
  own : ∀ trainee ∈ session.trainees, trainee.Own env.store.space
  holds : dryRun = false → ∀ trainee ∈ session.trainees,
    (view.hall session.world).store.Holds trainee.key

theorem Settled.of_hall (h : env.Settled view dryRun session) {last : Session ω}
    (htrainees : last.trainees = session.trainees)
    (hhall : view.hall last.world = view.hall session.world) : env.Settled view dryRun last := by
  constructor
  · rw [hhall]
    exact h.keyed
  · rw [hhall]
    exact h.numbered
  · rw [htrainees]
    exact h.own
  · rw [htrainees, hhall]
    exact h.holds

section Preparing

variable (hosts : env.Hosts view)
include hosts

theorem Hosts.holds_prepareOne (hkeyed : (view.hall world).store.WellKeyed env.store.space)
    {profile : TraineeProfile} {name : String} {preparation : Arena.Preparation}
    (h : Arena.prepareOne env.store false idempotent profile name world =
      (.ok preparation, after)) : (view.hall after).store.Holds name := by
  cases Arena.prepares_of_prepareOne h with
  | @reused agent _ _ hfind =>
      have hlooked := hosts.hall_findByName name world
      rw [hfind] at hlooked
      obtain ⟨key, hkey⟩ := hosts.stored_of_findByName hfind
      have hname := StoreAccess.name_of_findByName hfind
      rw [show view.hall after = view.hall world from hlooked]
      refine ⟨agent, ?_, hname⟩
      rw [← hname, hkeyed.key key agent hkey]
      exact hkey
  | created _ hput => exact ⟨_, (hosts.puts hput).find?, rfl⟩

theorem Hosts.settled_unprepared (idempotent : Bool) (h : env.Settled view dryRun session)
    (profile : TraineeProfile) {name : String}
    (hnew : ∀ trainee ∈ session.trainees, trainee.key ≠ instanceKey name) :
    env.Settled view dryRun { session with
      world := (Arena.prepareOne env.store dryRun idempotent profile name session.world).2 } := by
  have hconfined : env.Confines view [Arena.newTrainee env.store profile name] []
      (view.hall session.world).store _ :=
    hosts.confines_prepareOne dryRun idempotent ⟨h.keyed, h.numbered, rfl, fun _ => .same rfl⟩
      profile name List.mem_cons_self
  refine ⟨hconfined.keyed, hconfined.numbered, h.own, ?_⟩
  intro hdry trainee htrainee
  have hcanonical := (h.own trainee htrainee).canonical
  refine (h.holds hdry trainee htrainee).of_same (hconfined.others ?_)
  rw [hcanonical]
  exact hnew trainee htrainee

theorem Hosts.settled_prepared (h : env.Settled view dryRun session) {profile : TraineeProfile}
    {ordinal : Nat} (target : Nat) {preparation : Arena.Preparation}
    (hnew : ∀ trainee ∈ session.trainees,
      trainee.key ≠ instanceKey (profile.traineeName ordinal))
    (hprepare : Arena.prepareOne env.store dryRun idempotent profile (profile.traineeName ordinal)
      session.world = (.ok preparation, after)) :
    env.Settled view dryRun (Arena.enlist (profile.traineeName ordinal) target preparation
      { session with world := after }) := by
  have hbeside : env.Settled view dryRun { session with world := after } := by
    have hunprepared := hosts.settled_unprepared idempotent h profile hnew
    rw [hprepare] at hunprepared
    exact hunprepared
  obtain ⟨hname, hid⟩ := hosts.named_prepareOne h.keyed hprepare
  have hcanonical := profile.instanceKey_traineeName ordinal
  refine ⟨?_, ?_, ?_, ?_⟩
  · rw [world_enlist]
    exact hbeside.keyed
  · rw [world_enlist]
    exact hbeside.numbered
  · rw [Arena.trainees_enlist]
    exact List.forall_mem_append.mpr ⟨hbeside.own, List.forall_mem_singleton.mpr
      ⟨congrArg instanceKey hcanonical, hname.trans hcanonical.symm, hid⟩⟩
  · rintro rfl
    have hholds := hosts.holds_prepareOne h.keyed hprepare
    rw [← hcanonical] at hholds
    rw [world_enlist, Arena.trainees_enlist]
    exact List.forall_mem_append.mpr
      ⟨hbeside.holds rfl, List.forall_mem_singleton.mpr hholds⟩

theorem Hosts.settled_prepare (done : Nat) (profiles : List (TraineeProfile × Nat))
    (hkeys : (session.trainees.map Trainee.key ++
      Arena.traineeKeys done (profiles.map Prod.fst)).Nodup)
    (h : env.Settled view dryRun session) :
    env.Settled view dryRun (Arena.prepare env plan dryRun idempotent done profiles session).2 := by
  induction profiles generalizing done session with
  | nil => exact h
  | cons pair rest ih =>
      obtain ⟨profile, goal⟩ := pair
      have hsplit : Arena.traineeKeys done (((profile, goal) :: rest).map Prod.fst) =
          instanceKey (profile.traineeName (done + 1)) ::
            Arena.traineeKeys (done + 1) (rest.map Prod.fst) := rfl
      rw [hsplit] at hkeys
      have hnew : ∀ trainee ∈ session.trainees,
          trainee.key ≠ instanceKey (profile.traineeName (done + 1)) := by
        intro trainee htrainee hsame
        refine List.disjoint_of_nodup_append hkeys (List.mem_map_of_mem htrainee) ?_
        rw [hsame]
        exact List.mem_cons_self
      rw [Arena.prepare]
      have hchecked := hosts.hall_check session.world
      split <;> rename_i heq <;> rw [heq] at hchecked
      · exact h.of_hall rfl hchecked
      · rename_i checked
        have hready : env.Settled view dryRun { session with
            world := env.report (Arena.preparingEvent (profile.traineeName (done + 1)) (done + 1)
              plan.profiles.length) checked } :=
          h.of_hall rfl ((hosts.hall_report _ checked).trans hchecked)
        simp only
        split <;> rename_i hprepare
        · have hunprepared := hosts.settled_unprepared idempotent hready profile hnew
          rw [hprepare] at hunprepared
          exact hunprepared
        · refine ih (done + 1) ?_ (hosts.settled_prepared hready _ hnew hprepare)
          rw [Arena.keys_enlist, List.append_assoc]
          exact hkeys

end Preparing

section Mentoring

variable (hosts : env.Hosts view)
include hosts

theorem Hosts.settled_ensureMentors (h : env.Settled view dryRun session) :
    env.Settled view dryRun (Arena.ensureMentors env plan dryRun session).2 := by
  have hconfined : env.Confines view [] (env.recruitedBy view plan session)
      (view.hall session.world).store (Arena.ensureMentors env plan dryRun session).2.world :=
    hosts.confines_ensureMentors ⟨h.keyed, h.numbered, rfl, fun _ => .same rfl⟩
  have hsame := (Arena.ensureMentors_counts env plan dryRun session).1
  refine ⟨hconfined.keyed, hconfined.numbered, ?_, ?_⟩
  · intro trainee htrainee
    obtain ⟨other, hother, hagent, hkey⟩ := Trainee.exists_of_unmentored hsame htrainee
    obtain ⟨hcanonical, hname, hid⟩ := h.own other hother
    rw [hkey] at hcanonical hname hid
    rw [hagent] at hname hid
    exact ⟨hcanonical, hname, hid⟩
  · intro hdry trainee htrainee
    obtain ⟨other, hother, -, hkey⟩ := Trainee.exists_of_unmentored hsame htrainee
    rw [← hkey]
    exact hconfined.holds (h.holds hdry other hother) (h.own other hother).canonical

end Mentoring

/-- The store holds the agents of some names. -/
structure Houses (env : Environment ω) (view : HallView ω) (names : List String) (world : ω) :
    Prop where
  keyed : (view.hall world).store.WellKeyed env.store.space
  numbered : (view.hall world).board.Numbered
  holds : ∀ name ∈ names, (view.hall world).store.Holds name

theorem Houses.of_hall {names : List String} (h : env.Houses view names world)
    (hhall : view.hall after = view.hall world) : env.Houses view names after := by
  constructor
  · rw [hhall]
    exact h.keyed
  · rw [hhall]
    exact h.numbered
  · rw [hhall]
    exact h.holds

section Trainings

variable (hosts : env.Hosts view)
include hosts

theorem Hosts.own_refresh (hkeyed : (view.hall world).store.WellKeyed env.store.space)
    {trainee : Trainee} (hown : trainee.Own env.store.space)
    (hholds : (view.hall world).store.Holds trainee.key) :
    (Training.refresh env.store trainee world).1.Own env.store.space := by
  unfold Training.refresh
  split
  · rename_i agent _ hget
    have hstored := hosts.stored_of_getAgent hget
    obtain ⟨found, hfound, hname⟩ := hholds
    rw [hown.canonical, hstored] at hfound
    cases hfound
    exact ⟨hown.canonical, hname, hkeyed.id _ agent hstored⟩
  · exact hown

theorem Hosts.keeps_houses (plan : ArenaPlan) (names : List String) :
    Training.Keeps env plan (env.Houses view names)
      fun trainee => trainee.Own env.store.space ∧ trainee.key ∈ names where
  check := fun h => h.of_hall (hosts.hall_check _)
  report := fun event _ h => h.of_hall (hosts.hall_report event _)
  attempt := by
    rintro template trainee world ⟨hown, -⟩ h
    have hkeyed : trainee.Keyed env.store.space := hown.id
    obtain ⟨htended, hnumbered⟩ := hosts.attempt_tends plan template hkeyed h.keyed h.numbered
    exact ⟨htended.keyed, hnumbered, fun name hname => (h.holds name hname).tended htended⟩
  refresh := by
    rintro trainee world ⟨hown, hmem⟩ h
    refine ⟨h.of_hall (hosts.hall_refresh trainee world),
      hosts.own_refresh h.keyed hown (h.holds _ hmem), ?_⟩
    rw [Training.key_refresh]
    exact hmem

theorem Hosts.settled_train (curriculum : Curriculum) (h : env.Settled view false session) :
    env.Settled view false (Training.train env plan curriculum session).2 := by
  have hkept : Training.Kept (env.Houses view (session.trainees.map Trainee.key))
      (fun trainee => trainee.Own env.store.space ∧
        trainee.key ∈ session.trainees.map Trainee.key) session := by
    refine ⟨⟨h.keyed, h.numbered, ?_⟩, ?_⟩
    · exact List.forall_mem_map.mpr (h.holds rfl)
    · exact fun trainee htrainee => ⟨h.own trainee htrainee, List.mem_map_of_mem htrainee⟩
  obtain ⟨hhouses, htrainees⟩ := (hosts.keeps_houses plan _).upholds.rounds
    (Training.budget plan session.trainees.length) (Training.budget plan session.trainees.length)
    (Selector.create curriculum plan.selection) hkept
  exact ⟨hhouses.keyed, hhouses.numbered, fun trainee htrainee => (htrainees trainee htrainee).1,
    fun _ trainee htrainee => hhouses.holds _ (htrainees trainee htrainee).2⟩

theorem Hosts.own_refreshAll {trainees : List Trainee}
    (hkeyed : (view.hall world).store.WellKeyed env.store.space)
    (hown : ∀ trainee ∈ trainees, trainee.Own env.store.space)
    (hholds : ∀ trainee ∈ trainees, (view.hall world).store.Holds trainee.key) :
    ∀ trainee ∈ (Arena.refreshAll env.store trainees world).1, trainee.Own env.store.space := by
  induction trainees generalizing world with
  | nil => exact List.forall_mem_nil _
  | cons trainee rest ih =>
      rw [List.forall_mem_cons] at hown hholds
      have hsame := hosts.hall_refresh trainee world
      have hfirst := hosts.own_refresh hkeyed hown.1 hholds.1
      rw [← hsame] at hkeyed hholds
      exact List.forall_mem_cons.mpr ⟨hfirst, ih hkeyed hown.2 hholds.2⟩

end Trainings

end Environment

namespace Arena

variable {env : Environment ω} {view : HallView ω} {plan : ArenaPlan}
  {dryRun idempotent : Bool} {world : ω} {session : Session ω}

def traineeNames (profiles : List TraineeProfile) : List String :=
  (profiles.zipIdx 1).map fun (profile, ordinal) => profile.traineeName ordinal

theorem exists_of_mem_traineeNames {profiles : List TraineeProfile} {name : String}
    (h : name ∈ traineeNames profiles) :
    ∃ (profile : TraineeProfile) (ordinal : Nat), name = profile.traineeName ordinal := by
  obtain ⟨⟨profile, ordinal⟩, -, rfl⟩ := List.mem_map.mp h
  exact ⟨profile, ordinal, rfl⟩

theorem traineeKeys_eq_names (profiles : List TraineeProfile) :
    traineeKeys 0 profiles = traineeNames profiles := by
  apply List.map_congr_left
  rintro ⟨profile, ordinal⟩ -
  exact profile.instanceKey_traineeName ordinal

/-- The session in which all trainees have been read once more, as a run does in the end. -/
def reread (store : StoreAccess ω) (session : Session ω) : Session ω :=
  { session with
    trainees := (refreshAll store session.trainees session.world).1
    world := (refreshAll store session.trainees session.world).2 }

section Keys

theorem keys_refreshAll (store : StoreAccess ω) (trainees : List Trainee) (world : ω) :
    (refreshAll store trainees world).1.map Trainee.key = trainees.map Trainee.key := by
  induction trainees generalizing world with
  | nil => rfl
  | cons trainee rest ih =>
      rw [refreshAll, List.map_cons, List.map_cons, ih, Training.key_refresh]

theorem names_preparePhase (env : Environment ω) (plan : ArenaPlan) (dryRun idempotent : Bool)
    (world : ω) :
    (preparePhase env plan dryRun idempotent (.start dryRun world)).2.trainees.map
        (fun trainee => (trainee.agent.name, trainee.key)) <+:
      (traineeNames plan.profiles).map fun name => (name, name) := by
  have hseats := (@seats_preparePhase ω env plan dryRun idempotent world).1.map
    fun seat => (seat.1, seat.2.1)
  rw [List.map_map, seats, List.map_map] at hseats
  rw [traineeNames, List.map_map]
  refine Eq.mp (congrArg (_ <+: ·) (List.map_congr_left ?_)) hseats
  rintro ⟨profile, ordinal⟩ -
  simp [TraineeProfile.instanceKey_traineeName]

theorem keys_ensureMentors (session : Session ω) :
    (ensureMentors env plan dryRun session).2.trainees.map Trainee.key =
      session.trainees.map Trainee.key := by
  have hposts := post_eq_of_unmentored (ensureMentors_counts env plan dryRun session).1
  have hkeys := congrArg (List.map Prod.fst) hposts
  rw [List.map_map, List.map_map] at hkeys
  exact hkeys

end Keys

end Arena

namespace Environment

open Arena

variable {env : Environment ω} {view : HallView ω} {plan : ArenaPlan} {names : List String}
  {dryRun idempotent : Bool} {world : ω} {session : Session ω}

/-- The trainees are those of the first so many names, in order, and each has a record of its own.
-/
structure OwnRecords (env : Environment ω) (view : HallView ω) (names : List String)
    (dryRun : Bool) (session : Session ω) : Prop extends env.Settled view dryRun session where
  keys : session.trainees.map Trainee.key <+: names

theorem OwnRecords.of_hall (h : env.OwnRecords view names dryRun session) {last : Session ω}
    (htrainees : last.trainees = session.trainees)
    (hhall : view.hall last.world = view.hall session.world) :
    env.OwnRecords view names dryRun last := by
  refine ⟨h.toSettled.of_hall htrainees hhall, ?_⟩
  rw [htrainees]
  exact h.keys

section Running

variable (hosts : env.Hosts view)
include hosts

theorem Hosts.ownRecords_ensureMentors (h : env.OwnRecords view names dryRun session) :
    env.OwnRecords view names dryRun (ensureMentors env plan dryRun session).2 := by
  refine ⟨hosts.settled_ensureMentors h.toSettled, ?_⟩
  rw [keys_ensureMentors]
  exact h.keys

theorem Hosts.ownRecords_train (plan : ArenaPlan) (curriculum : Curriculum)
    (h : env.OwnRecords view names false session) :
    env.OwnRecords view names false (Training.train env plan curriculum session).2 := by
  refine ⟨hosts.settled_train curriculum h.toSettled, ?_⟩
  rw [Training.keys_train]
  exact h.keys

theorem Hosts.ownRecords_reread (h : env.OwnRecords view names false session) :
    env.OwnRecords view names false (reread env.store session) := by
  have hhall : view.hall (reread env.store session).world = view.hall session.world :=
    hosts.hall_refreshAll session.trainees session.world
  have hkeys : (reread env.store session).trainees.map Trainee.key =
      session.trainees.map Trainee.key := keys_refreshAll _ _ _
  have hread : env.Settled view false
      { session with world := (reread env.store session).world } := h.toSettled.of_hall rfl hhall
  refine ⟨⟨hread.keyed, hread.numbered, ?_, ?_⟩, ?_⟩
  · exact hosts.own_refreshAll h.keyed h.own (h.holds rfl)
  · intro _ trainee htrainee
    have hkey : trainee.key ∈ session.trainees.map Trainee.key := by
      rw [← hkeys]
      exact List.mem_map_of_mem htrainee
    obtain ⟨other, hother, hsame⟩ := List.mem_map.mp hkey
    rw [← hsame]
    exact hread.holds rfl other hother
  · rw [hkeys]
    exact h.keys

variable (hkeyed : (view.hall world).store.WellKeyed env.store.space)
  (hnumbered : (view.hall world).board.Numbered)
include hkeyed hnumbered

theorem Hosts.ownRecords_preparePhase :
    env.OwnRecords view (traineeNames plan.profiles) dryRun
      (preparePhase env plan dryRun idempotent (.start dryRun world)).2 := by
  have hopening : env.Settled view dryRun (.start dryRun world) :=
    ⟨hkeyed, hnumbered, List.forall_mem_nil _, fun _ => List.forall_mem_nil _⟩
  have hkeys := (names_preparePhase env plan dryRun idempotent world).map Prod.snd
  simp only [List.map_map, Function.comp_def, List.map_id'] at hkeys
  refine ⟨hosts.settled_prepare 0 _ ?_ hopening, hkeys⟩
  rw [List.map_fst_zip (length_tierGoals _ _)]
  exact nodup_traineeKeys 0 plan.profiles

theorem Hosts.ownRecords_ready :
    env.OwnRecords view (traineeNames plan.profiles) dryRun
      (ready env plan dryRun idempotent (.start dryRun world)).2 := by
  have hopening : env.OwnRecords view (traineeNames plan.profiles) dryRun (.start dryRun world) :=
    ⟨⟨hkeyed, hnumbered, List.forall_mem_nil _, fun _ => List.forall_mem_nil _⟩,
      List.nil_prefix⟩
  have hchecked := hosts.hall_check world
  unfold ready
  split <;> rename_i heq <;> rw [show env.check world = _ from heq] at hchecked
  · exact hopening.of_hall rfl hchecked
  · rename_i checked
    split
    · exact hopening.of_hall rfl hchecked
    · rw [← show view.hall checked = view.hall world from hchecked] at hkeyed hnumbered
      have hprepared : env.OwnRecords view (traineeNames plan.profiles) dryRun
          (preparePhase env plan dryRun idempotent (.start dryRun checked)).2 :=
        hosts.ownRecords_preparePhase hkeyed hnumbered
      unfold preparePhase at hprepared
      simp only [Session.start] at hprepared ⊢
      split <;> rename_i hprepare <;> rw [hprepare] at hprepared
      · exact hprepared
      · rename_i prepared
        have hmentored : env.OwnRecords view (traineeNames plan.profiles) dryRun
            (if plan.mentored then ensureMentors env plan dryRun prepared
              else (.ok (), prepared)).2 := by
          split
          · exact hosts.ownRecords_ensureMentors hprepared
          · exact hprepared
        split <;> rename_i hmentor <;> rw [hmentor] at hmentored <;> exact hmentored

theorem Hosts.ownRecords_phases :
    env.OwnRecords view (traineeNames plan.profiles) dryRun
      (phases env plan dryRun idempotent (.start dryRun world)).2 := by
  have hready : env.OwnRecords view (traineeNames plan.profiles) dryRun
      (ready env plan dryRun idempotent (.start dryRun world)).2 :=
    hosts.ownRecords_ready hkeyed hnumbered
  rw [phases_eq]
  split <;> rename_i heq <;> rw [heq] at hready
  · exact hready
  · split
    · exact hready
    · rename_i curriculum _ hdry
      rw [Bool.not_eq_true] at hdry
      subst hdry
      have htrained := hosts.ownRecords_train plan curriculum hready
      split <;> rename_i htrain <;> rw [htrain] at htrained <;> exact htrained

end Running

end Environment

namespace Arena

/-- The trainees of some profiles are told apart by their names, and no run confuses them. -/
structure TraineesApart (profiles : List TraineeProfile) : Prop where
  distinct : (traineeNames profiles).Nodup
  nonempty : ∀ name ∈ traineeNames profiles, name ≠ ""
  canonical : ∀ name ∈ traineeNames profiles, instanceKey name = name
  /-- Whatever is stored, a profile becomes an agent of its own name or is not prepared. -/
  prepared : ∀ {ω : Type} (env : Environment ω) (plan : ArenaPlan), plan.profiles = profiles →
    ∀ (dryRun idempotent : Bool) (world : ω),
      (preparePhase env plan dryRun idempotent (.start dryRun world)).2.trainees.map
          (fun trainee => (trainee.agent.name, trainee.key)) <+:
        (traineeNames profiles).map fun name => (name, name)
  /-- However the phases end, every trainee has a record of its own, which it is read from. -/
  recorded : ∀ {ω : Type} {env : Environment ω} {view : HallView ω}, env.Hosts view →
    ∀ plan : ArenaPlan, plan.profiles = profiles → ∀ (dryRun idempotent : Bool) (world : ω),
      (view.hall world).store.WellKeyed env.store.space → (view.hall world).board.Numbered →
        let outcome := phases env plan dryRun idempotent (.start dryRun world)
        env.OwnRecords view (traineeNames profiles) dryRun outcome.2 ∧
          (outcome.1 = .ok () → outcome.2.trainees.length = profiles.length) ∧
          (dryRun = false →
            env.OwnRecords view (traineeNames profiles) false (reread env.store outcome.2))

theorem length_trainees_phases {env : Environment ω} {plan : ArenaPlan} {dryRun idempotent : Bool}
    {world : ω} {last : Session ω}
    (h : phases env plan dryRun idempotent (.start dryRun world) = (.ok (), last)) :
    last.trainees.length = plan.profiles.length := by
  rw [phases_eq] at h
  split at h
  · cases h
  · rename_i curriculum opening hready
    have hopening := (ready_counts env plan dryRun idempotent hready).1
    split at h
    · cases h
      exact hopening
    · have hkeys := congrArg List.length (Training.keys_train env plan curriculum opening)
      rw [List.length_map, List.length_map] at hkeys
      split at h <;> rename_i htrain <;> rw [htrain] at hkeys <;> cases h
      exact hkeys.trans hopening

/-- The trainees of a run never collide, whatever their profiles are called. -/
theorem trainees_apart (profiles : List TraineeProfile) : TraineesApart profiles where
  distinct := by
    rw [← traineeKeys_eq_names]
    exact nodup_traineeKeys 0 profiles
  nonempty := by
    intro name hname hempty
    obtain ⟨profile, ordinal, rfl⟩ := exists_of_mem_traineeNames hname
    obtain ⟨c, rest, hcons, -⟩ := (profile.isKey_traineeName ordinal).exists_cons
    rw [hempty] at hcons
    cases hcons
  canonical := by
    intro name hname
    obtain ⟨profile, ordinal, rfl⟩ := exists_of_mem_traineeNames hname
    exact profile.instanceKey_traineeName ordinal
  prepared := by
    rintro ω env plan rfl dryRun idempotent world
    exact names_preparePhase env plan dryRun idempotent world
  recorded := by
    rintro ω env view hosts plan rfl dryRun idempotent world hkeyed hnumbered
    have hrecords : env.OwnRecords view (traineeNames plan.profiles) dryRun
        (phases env plan dryRun idempotent (.start dryRun world)).2 :=
      hosts.ownRecords_phases hkeyed hnumbered
    refine ⟨hrecords, ?_, ?_⟩
    · intro hok
      exact length_trainees_phases (Prod.ext hok rfl)
    · rintro rfl
      exact hosts.ownRecords_reread hrecords

/-- Namesakes, a name that looks like that of another trainee, and one without a key. -/
theorem trainees_apart_namesakes :
    let plan := { ArenaPlan.default with
      profiles := ["scout", "Scout", "scout-1", "???"].map fun name =>
        { name, skills := [], modelSettings := none }
      questsPerTrainee := 1 }
    let names := ["scout-1", "scout-2", "scout-1-3", "trainee-4"]
    let after := (run Rehearsal.quiet plan false true (Rehearsal.onStore .empty)).2
    TraineesApart plan.profiles ∧ traineeNames plan.profiles = names ∧
      after.store.agents.order.map Prod.snd = names ∧
      after.store.agents.toList.map Agent.name = names := by
  intro plan names after
  exact ⟨trainees_apart plan.profiles, by decide +kernel⟩

end Arena

end QuestAcademy
