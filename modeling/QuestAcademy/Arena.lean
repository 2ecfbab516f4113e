import QuestAcademy.Mentors
import QuestAcademy.Roster
import QuestAcademy.Training

namespace QuestAcademy

inductive MentorError
  | lookup (error : StoreError)
  | spawn (text : String)
  | halted (halt : Halt)

def MentorError.message : MentorError → String
  | lookup error => "Mentor lookup failed: " ++ error.message
  | spawn text => "Mentor spawn failed: " ++ text
  | halted halt => "Mentor bootstrap cancelled: " ++ halt.message

/-- No new mentor is fit to be one. -/
def MentorError.noneCreated : MentorError :=
  .spawn "no mentor could be created"

namespace Arena

variable {ω : Type}

def preparingEvent (name : String) (current total : Nat) : ProgressEvent :=
  .create .agents current total "Preparing trainee" (some name) none

def newTrainee (store : StoreAccess ω) (profile : TraineeProfile) (name : String) : Agent :=
  let id := store.agentId (instanceKey name)
  { (Agent.create id name Level.lowest).withSkills profile.skills with
    modelSettings := profile.modelSettings }

inductive Preparation
  | reused (agent : Agent)
  | created (agent : Agent)

/-- Finds or creates the trainee of a profile. In a dry run nothing is looked up or written. -/
def prepareOne (store : StoreAccess ω) (dryRun idempotent : Bool) (profile : TraineeProfile)
    (name : String) (world : ω) : Except StoreError Preparation × ω :=
  let agent := newTrainee store profile name
  if dryRun then (.ok (.created agent), world)
  else
    let found : Except StoreError (Option Agent) × ω :=
      if idempotent then store.findByName name world else (.ok none, world)
    match found with
    | (.error e, world) => (.error e, world)
    | (.ok (some agent), world) => (.ok (.reused agent), world)
    | (.ok none, world) =>
      match store.putAgent (instanceKey name) agent world with
      | (.error e, world) => (.error e, world)
      | (.ok (), world) => (.ok (.created agent), world)

def enlist (name : String) (target : Nat) (preparation : Preparation) (session : Session ω) :
    Session ω :=
  let trainee (agent : Agent) : Trainee :=
    { agent, key := instanceKey name, target, mentor := none }
  match preparation with
  | .reused agent =>
    { session with
      trainees := session.trainees ++ [trainee agent]
      report := { session.report with agentsSkipped := session.report.agentsSkipped + 1 } }
  | .created agent =>
    { session with
      trainees := session.trainees ++ [trainee agent]
      report := { session.report with agentsCreated := session.report.agentsCreated + 1 } }

/-- Prepares the trainees of the profiles that are left, each with the goal that it is advised;
`done` is how many were prepared before. All trainees have the same target, whatever their goals. -/
def prepare (env : Environment ω) (plan : ArenaPlan) (dryRun idempotent : Bool) :
    Nat → List (TraineeProfile × Nat) → Session ω → Except SeedError Unit × Session ω
  | _, [], session => (.ok (), session)
  | done, (profile, _) :: rest, session =>
    match env.check session.world with
    | (.error halt, world) => (.error (.halted halt), { session with world })
    | (.ok (), world) =>
      let name := profile.traineeName (done + 1)
      let world := env.report (preparingEvent name (done + 1) plan.profiles.length) world
      match prepareOne env.store dryRun idempotent profile name world with
      | (.error e, world) => (.error (.creation name e), { session with world })
      | (.ok preparation, world) =>
        prepare env plan dryRun idempotent (done + 1) rest
          (enlist name plan.targets.convergenceLevel preparation { session with world })

/-- Creates new mentors by a roster of their own and tells their ids. Only those that turn out to be
qualified count; in a dry run all do. -/
def spawnMentors (env : Environment ω) (plan : ArenaPlan) (dryRun : Bool) (excluded : List String)
    (session : Session ω) : Except MentorError (List String) × Session ω :=
  match env.store.listAgents session.world with
  | (.error e, world) => (.error (.lookup e), { session with world })
  | (.ok stored, world) =>
    let taken := stored.map (fun agent => agent.name)
      ++ session.trainees.map fun trainee => trainee.agent.name
    let roster := Mentors.roster plan.bootstrapMentors (Mentors.nextOrdinal taken)
    match Roster.seed env roster dryRun true world with
    | (.error failure, world) =>
      let error := match failure.error with
        | .halted halt => MentorError.halted halt
        | other => .spawn other.message
      (.error error, { session with world })
    | (.ok spawned, world) =>
      let session := { session with report := session.report.absorb spawned, world }
      let ids := spawned.agents.map fun agent => agent.id
      if dryRun then
        (if ids.isEmpty then .error .noneCreated else .ok ids, session)
      else
        match Mentors.find env.store excluded session.world with
        | (.error e, world) => (.error (.lookup e), { session with world })
        | (.ok qualified, world) =>
          let ids := ids.filter fun id => qualified.any fun agent => agent.id = id
          (if ids.isEmpty then .error .noneCreated else .ok ids, { session with world })

def resolveMentors (env : Environment ω) (plan : ArenaPlan) (dryRun : Bool) (session : Session ω) :
    Except MentorError (List String) × Session ω :=
  let excluded := session.trainees.map fun trainee => trainee.agent.id
  match Mentors.find env.store excluded session.world with
  | (.error e, world) => (.error (.lookup e), { session with world })
  | (.ok found, world) =>
    let session := { session with world }
    if !found.isEmpty then (.ok (found.map fun agent => agent.id), session)
    else if plan.bootstrapMentors = 0 then (.ok [], session)
    else spawnMentors env plan dryRun excluded session

def assignMentors (plan : ArenaPlan) (mentors : List String) (trainees : List Trainee) :
    List Trainee :=
  (trainees.zip (Mentors.assign trainees.length mentors plan.traineesPerMentor)).map
    fun (trainee, mentor) => { trainee with mentor }

/-- Gives the trainees mentors. Except for the end of the permit, a failure is noted and the run
goes on without mentors. -/
def ensureMentors (env : Environment ω) (plan : ArenaPlan) (dryRun : Bool) (session : Session ω) :
    Except SeedError Unit × Session ω :=
  match resolveMentors env plan dryRun session with
  | (.error (.halted halt), session) => (.error (.halted halt), session)
  | (.error e, session) =>
    (.ok (), { session with report := session.report.noteError e.message })
  | (.ok [], session) => (.ok (), session)
  | (.ok mentors, session) =>
    (.ok (), { session with trainees := assignMentors plan mentors session.trainees })

/-- The phases of a run: templates, trainees, mentors, and the training unless it is a dry run. -/
def phases (env : Environment ω) (plan : ArenaPlan) (dryRun idempotent : Bool)
    (session : Session ω) : Except SeedError Unit × Session ω :=
  match env.check session.world with
  | (.error halt, world) => (.error (.halted halt), { session with world })
  | (.ok (), world) =>
    match (TemplateSource.choose plan.domain plan.questFile).load env.folder with
    | .error e => (.error (.templates e), { session with world })
    | .ok curriculum =>
      let profiles := plan.profiles.zip (plan.targets.tierGoals plan.profiles.length)
      match prepare env plan dryRun idempotent 0 profiles { session with world } with
      | (.error e, session) => (.error e, session)
      | (.ok (), session) =>
        let mentored : Except SeedError Unit × Session ω :=
          if plan.mentored then ensureMentors env plan dryRun session else (.ok (), session)
        match mentored with
        | (.error e, session) => (.error e, session)
        | (.ok (), session) =>
          if dryRun then (.ok (), session)
          else
            match Training.train env plan curriculum session with
            | (.error halt, session) => (.error (.halted halt), session)
            | (.ok (), session) => (.ok (), session)

def refreshAll (store : StoreAccess ω) : List Trainee → ω → List Trainee × ω
  | [], world => ([], world)
  | trainee :: rest, world =>
    let (trainee, world) := Training.refresh store trainee world
    let (more, world) := refreshAll store rest world
    (trainee :: more, world)

/-- The report with the trainees before all other agents. -/
def withTrainees (report : Report) (trainees : List Trainee) : Report :=
  { report with agents := (trainees.map fun trainee => trainee.agent.summary) ++ report.agents }

def run (env : Environment ω) (plan : ArenaPlan) (dryRun idempotent : Bool) (world : ω) :
    Except Failure Report × ω :=
  let report := Report.start .trainingArena dryRun
  match plan.validate with
  | .error fault => (.error (report.fail (.plan fault)), world)
  | .ok () =>
    match phases env plan dryRun idempotent { trainees := [], report, world } with
    | (.error e, session) =>
      (.error ((withTrainees session.report session.trainees).fail e), session.world)
    | (.ok (), session) =>
      let (trainees, world) :=
        if dryRun then (session.trainees, session.world)
        else refreshAll env.store session.trainees session.world
      (.ok (withTrainees session.report trainees), world)

def outcome (env : Environment ω) (plan : ArenaPlan) (dryRun idempotent : Bool) (world : ω) :
    Option (Except Failure Report × ω) :=
  Report.outcome [plan.profiles.length] (run env plan dryRun idempotent world)

end Arena

/-- Runs the task of a plan. A plan that is not valid fails before anything else is done. -/
def SeedPlan.run {ω : Type} (env : Environment ω) (plan : SeedPlan) (world : ω) :
    Except Failure Report × ω :=
  match plan.task with
  | .error fault => (.error ((Report.start plan.mode plan.dryRun).fail (.plan fault)), world)
  | .ok (.train arena) => Arena.run env arena plan.dryRun plan.idempotent world
  | .ok (.place roster) => Roster.seed env roster plan.dryRun plan.idempotent world

def SeedPlan.outcome {ω : Type} (env : Environment ω) (plan : SeedPlan) (world : ω) :
    Option (Except Failure Report × ω) :=
  match plan.task with
  | .error _ => some (plan.run env world)
  | .ok (.train arena) => Arena.outcome env arena plan.dryRun plan.idempotent world
  | .ok (.place roster) => Roster.outcome env roster plan.dryRun plan.idempotent world

end QuestAcademy
