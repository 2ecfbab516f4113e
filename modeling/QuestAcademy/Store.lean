import QuestAcademy.Agent
import QuestAcademy.Guild

/-!
The store of agents and guilds. `StoreAccess` is what a run may ask of any store; `Store` is one
that is kept in memory and whose reads and writes of agents can be switched off.
-/

namespace QuestAcademy

inductive StoreError
  | noAgent (key : String)
  | noAgentId (id : String)
  | noGuild (id : String)
  | writesDisabled (key : String)
  | readsDisabled
  | injected (call : String) (number : Nat)
  deriving DecidableEq

namespace StoreError

def message : StoreError → String
  | noAgent key => "Not found: agent " ++ key
  | noAgentId id => "Not found: " ++ id
  | noGuild id => "Not found: guild " ++ id
  | writesDisabled key => "Write failed: agent writes disabled (" ++ key ++ ")"
  | readsDisabled => "Store backend error: reads disabled"
  | injected call number =>
    "Store backend error: injected " ++ call ++ " #" ++ Decimal.text number

/-- The store works, but what was asked for is not there. -/
def isNotFound : StoreError → Bool
  | noAgent _ | noAgentId _ | noGuild _ => true
  | writesDisabled _ | readsDisabled | injected _ _ => false

end StoreError

/-- What may be asked of a store that is part of a world. Each call answers and says what the world
is like afterwards. -/
structure StoreAccess (ω : Type) where
  space : String
  putAgent : String → Agent → ω → Except StoreError Unit × ω
  getAgent : String → ω → Except StoreError Agent × ω
  /-- All agents, in an order that does not change. -/
  listAgents : ω → Except StoreError (List Agent) × ω
  putGuild : String → Guild → ω → Except StoreError Unit × ω
  getGuild : String → ω → Except StoreError Guild × ω
  updateGuild : String → (Guild → Guild) → ω → Except StoreError Unit × ω

namespace StoreAccess

variable {ω : Type}

def agentId (store : StoreAccess ω) (key : String) : String :=
  entityId store.space key

def findByName (store : StoreAccess ω) (name : String) (world : ω) :
    Except StoreError (Option Agent) × ω :=
  match store.listAgents world with
  | (.error e, world) => (.error e, world)
  | (.ok agents, world) => (.ok (agents.find? fun agent => agent.name = name), world)

def getById (store : StoreAccess ω) (id : String) (world : ω) : Except StoreError Agent × ω :=
  match store.listAgents world with
  | (.error e, world) => (.error e, world)
  | (.ok agents, world) =>
    match agents.find? fun agent => agent.id = id with
    | some agent => (.ok agent, world)
    | none => (.error (.noAgentId id), world)

end StoreAccess

/-- Agents by key, with the order in which the keys first came. -/
structure AgentTable where
  byKey : List (String × Agent)
  order : List (Nat × String)
  next : Nat

namespace AgentTable

def empty : AgentTable := ⟨[], [], 0⟩

def find? (table : AgentTable) (key : String) : Option Agent :=
  Keyed.find? key table.byKey

/-- Puts an agent under a key. A key that is new comes last in the order; another keeps its place.
-/
def put (table : AgentTable) (key : String) (agent : Agent) : AgentTable :=
  let numbered :=
    match table.find? key with
    | some _ => table
    | none =>
      { table with order := table.order ++ [(table.next, key)], next := table.next + 1 }
  { numbered with byKey := Keyed.insert key agent numbered.byKey }

def toList (table : AgentTable) : List Agent :=
  table.order.filterMap fun entry => table.find? entry.2

def size (table : AgentTable) : Nat := table.byKey.length

end AgentTable

structure Store where
  agents : AgentTable
  guilds : List (String × Guild)
  writesDisabled : Bool
  readsDisabled : Bool

namespace Store

def defaultSpace : String := "guildhall"

def empty : Store :=
  { agents := .empty, guilds := [], writesDisabled := false, readsDisabled := false }

def putAgent (key : String) (agent : Agent) (store : Store) : Except StoreError Unit × Store :=
  if store.writesDisabled then (.error (.writesDisabled key), store)
  else (.ok (), { store with agents := store.agents.put key agent })

def getAgent (key : String) (store : Store) : Except StoreError Agent × Store :=
  if store.readsDisabled then (.error .readsDisabled, store)
  else
    match store.agents.find? key with
    | some agent => (.ok agent, store)
    | none => (.error (.noAgent key), store)

def listAgents (store : Store) : Except StoreError (List Agent) × Store :=
  if store.readsDisabled then (.error .readsDisabled, store)
  else (.ok store.agents.toList, store)

def putGuild (id : String) (guild : Guild) (store : Store) : Except StoreError Unit × Store :=
  (.ok (), { store with guilds := Keyed.insert id guild store.guilds })

def getGuild (id : String) (store : Store) : Except StoreError Guild × Store :=
  match Keyed.find? id store.guilds with
  | some guild => (.ok guild, store)
  | none => (.error (.noGuild id), store)

def updateGuild (id : String) (change : Guild → Guild) (store : Store) :
    Except StoreError Unit × Store :=
  match Keyed.find? id store.guilds with
  | some guild => (.ok (), { store with guilds := Keyed.insert id (change guild) store.guilds })
  | none => (.error (.noGuild id), store)

/-- The store by itself as a world; its ids begin with the given text. -/
def access (space : String) : StoreAccess Store :=
  { space, putAgent, getAgent, listAgents, putGuild, getGuild, updateGuild }

end Store

structure StoreConfig where
  space : String

namespace StoreConfig

def read : Reading StoreConfig := fun form d => do
  let fields ← Reading.fields ["namespace"] form d
  return { space := ← fields.required "namespace" Reading.text }

def toDocument (config : StoreConfig) : Document :=
  .fields [("namespace", .text config.space)]

end StoreConfig

end QuestAcademy
