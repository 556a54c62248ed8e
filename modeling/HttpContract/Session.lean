import HttpContract.Contract
import HttpContract.Draft.Request
import HttpContract.Draft.Response

/-!
Sessions in which contracts are put together. All that takes part in one is known by its number:
the consumers with their finished interactions, the providers, the states that interactions begin
with, and the drafts of requests and responses. Finishing an interaction copies both of its drafts.
-/
namespace HttpContract

namespace Session

structure Defaults where
  request : Option Nat
  response : Option Nat

structure ConsumerEntry where
  name : Option String
  config : Config
  interactions : List Interaction

structure ProviderEntry where
  consumer : Nat
  name : Option String
  defaults : Defaults

/-- What an interaction belongs to. A detached draft belongs to no consumer. -/
structure Origin where
  consumer : Option Nat
  consumerName : Option String
  providerName : Option String
  defaults : Defaults

structure StatesEntry where
  origin : Origin
  states : List ProviderState

structure RequestEntry where
  origin : Origin
  description : Option String
  states : List ProviderState
  /-- Has its path been given? -/
  hasPath : Bool
  draft : RequestDraft

structure ResponseEntry where
  consumer : Option Nat
  request : Option Nat
  defaults : Defaults
  draft : ResponseDraft

end Session

structure Session where
  consumers : List Session.ConsumerEntry
  providers : List Session.ProviderEntry
  states : List Session.StatesEntry
  requests : List Session.RequestEntry
  responses : List Session.ResponseEntry

namespace Session

def empty : Session := ⟨[], [], [], [], []⟩

inductive Handle
  | consumer (n : Nat)
  | provider (n : Nat)
  | states (n : Nat)
  | request (n : Nat)
  | response (n : Nat)
  deriving DecidableEq

def settings? (s : Session) : Handle → Option Config
  | .consumer n => s.consumers[n]?.map ConsumerEntry.config
  | .request n => s.requests[n]?.map fun e => e.draft.part.config
  | .response n => s.responses[n]?.map fun e => e.draft.part.config
  | _ => none

inductive Outcome
  | handle (h : Handle)
  | contract (c : Contract)

abbrev Run (α : Type) := Editing Session α

def find {α : Type} (entries : Session → List α) (n : Nat) : Run α := do
  match (entries (← get))[n]? with
  | some a => return a
  | none => throw .unknownHandle

def addProvider (e : ProviderEntry) : Run Outcome := do
  let s ← get
  set { s with providers := s.providers ++ [e] }
  return .handle (.provider s.providers.length)

def addStates (e : StatesEntry) : Run Outcome := do
  let s ← get
  set { s with states := s.states ++ [e] }
  return .handle (.states s.states.length)

def addRequest (e : RequestEntry) : Run Outcome := do
  let s ← get
  set { s with requests := s.requests ++ [e] }
  return .handle (.request s.requests.length)

def addResponse (e : ResponseEntry) : Run Outcome := do
  let s ← get
  set { s with responses := s.responses ++ [e] }
  return .handle (.response s.responses.length)

/-! ## Beginning requests and responses -/

def newRequestDraft (config : Config) (default : Option Nat) : Run RequestDraft := do
  match default with
  | none => return .ofConfig config
  | some n => return .ofRequest config (← find requests n).draft.build

def present {α : Type} (entries : Session → List α) : Option Nat → Run Unit
  | none => return
  | some n => do let _ ← find entries n

def newResponseDraft (config : Config) (default : Option Nat) : Run ResponseDraft := do
  match default with
  | none => return .ofConfig config
  | some n => return .ofResponse config (← find responses n).draft.build

def configOf (consumer : Option Nat) : Run Config := do
  match consumer with
  | none => return .standard
  | some n => return (← find consumers n).config

def beginRequest (origin : Origin) (description : Option String) (states : List ProviderState) :
    Run Outcome := do
  let config ← configOf origin.consumer
  let draft ← newRequestDraft config origin.defaults.request
  addRequest ⟨origin, description, states, false, draft⟩

def originOf (p : ProviderEntry) : Run Origin := do
  let consumer ← find consumers p.consumer
  return ⟨some p.consumer, consumer.name, p.name, p.defaults⟩

/-! ## Finishing interactions -/

def attachment (r : ResponseEntry) : Run (Nat × RequestEntry) := do
  match r.consumer, r.request with
  | some consumer, some request => return (consumer, ← find requests request)
  | _, _ => throw .detachedDefaults

def interactionOf (q : RequestEntry) (r : ResponseEntry) : Interaction :=
  ⟨q.description, q.states, q.draft.build, r.draft.build⟩

def withInteraction (s : Session) (consumer : Nat) (i : Interaction) : Session :=
  { s with consumers := s.consumers.modify consumer fun c =>
      { c with interactions := c.interactions ++ [i] } }

def store (r : ResponseEntry) : Run (Nat × RequestEntry) := do
  let (consumer, q) ← attachment r
  let _ ← find consumers consumer
  modify fun s => s.withInteraction consumer (interactionOf q r)
  return (consumer, q)

/-! ## Operations -/

/-- One operation on a session. States and requests follow a provider, states that are there, or a
response, which is finished first. -/
inductive Operation
  | newConsumer (name : Option String) (config : Config)
  | requestDefaults (config : Config)
  | responseDefaults (config : Config)
  | newResponse (consumer request : Option Nat) (defaults : Defaults)
  | hasContractWith (consumer : Nat) (provider : Option String)
  | useRequestDefaults (provider : Nat) (request : Option Nat)
  | useResponseDefaults (provider : Nat) (response : Option Nat)
  | given (place : Handle) (name : String) (parameters : Value)
  | uponReceiving (place : Handle) (description : Option String)
  | editRequest (request : Nat) (edit : RequestEdit)
  | editPath (request : Nat) (edit : PathEdit)
  | respond (request : Nat)
  | editResponse (response : Nat) (edit : ResponseEdit)
  | finish (response : Nat)

def newConsumer (name : Option String) (config : Config) : Run Outcome := do
  let s ← get
  let e : ConsumerEntry := ⟨name, config, []⟩
  set { s with consumers := s.consumers ++ [e] }
  return .handle (.consumer s.consumers.length)

def setProvider (n : Nat) (f : ProviderEntry → ProviderEntry) : Run Outcome := do
  let _ ← find providers n
  modify fun s => { s with providers := s.providers.modify n f }
  return .handle (.provider n)

/-- A state is added to the states that are there, or is the first of an interaction; a response is
finished first. -/
def given (place : Handle) (name : String) (parameters : Value) : Run Outcome := do
  match place with
  | .provider n =>
    let origin ← originOf (← find providers n)
    let state ← ProviderState.create name parameters
    addStates ⟨origin, [state]⟩
  | .states n =>
    let _ ← find states n
    let state ← ProviderState.create name parameters
    modify fun s => { s with states := s.states.modify n fun e =>
      { e with states := e.states ++ [state] } }
    return .handle (.states n)
  -- The interaction stays stored if the state is refused.
  | .response n =>
    let r ← find responses n
    let (consumer, q) ← store r
    let state ← ProviderState.create name parameters
    addStates ⟨⟨some consumer, q.origin.consumerName, q.origin.providerName, r.defaults⟩, [state]⟩
  | _ => throw .unknownHandle

/-- A request that is begun after a finished response repeats the request before it. -/
def uponReceiving (place : Handle) (description : Option String) : Run Outcome := do
  match place with
  | .provider n =>
    let origin ← originOf (← find providers n)
    beginRequest origin description []
  | .states n =>
    let e ← find states n
    beginRequest e.origin description e.states
  | .response n =>
    let r ← find responses n
    let (consumer, q) ← store r
    addRequest ⟨⟨some consumer, q.origin.consumerName, q.origin.providerName, r.defaults⟩,
      description, q.states, true, .ofRequest q.draft.part.config q.draft.build⟩
  | _ => throw .unknownHandle

def setRequest (n : Nat) (draft : RequestDraft) : Run Unit :=
  modify fun s => { s with requests := s.requests.modify n fun q => { q with draft := draft } }

def setResponse (n : Nat) (draft : ResponseDraft) : Run Unit :=
  modify fun s => { s with responses := s.responses.modify n fun r => { r with draft := draft } }

def editRequest (n : Nat) (edit : RequestEdit) : Run Outcome := do
  let q ← find requests n
  -- An edit that fails keeps what it has done so far.
  let (answer, draft) := Editing.perform edit.run q.draft
  setRequest n draft
  let _ ← answer
  return .handle (.request n)

/-- The first edit of a path makes another request, and leaves this one without a path. -/
def editPath (n : Nat) (edit : PathEdit) : Run Outcome := do
  let q ← find requests n
  if q.hasPath then
    let (answer, draft) := Editing.perform edit.run q.draft
    setRequest n draft
    let _ ← answer
    return .handle (.request n)
  else
    let (answer, draft) :=
      Editing.perform edit.run (.ofRequest q.draft.part.config q.draft.build)
    let _ ← answer
    addRequest { q with hasPath := true, draft := draft }

def respond (n : Nat) : Run Outcome := do
  let q ← find requests n
  if !q.hasPath then throw .missingPath
  let draft ← newResponseDraft q.draft.part.config q.origin.defaults.response
  addResponse ⟨q.origin.consumer, some n, q.origin.defaults, draft⟩

def editResponse (n : Nat) (edit : ResponseEdit) : Run Outcome := do
  let r ← find responses n
  let (answer, draft) := Editing.perform edit.run r.draft
  setResponse n draft
  let _ ← answer
  return .handle (.response n)

def finish (n : Nat) : Run Outcome := do
  let r ← find responses n
  let (consumer, q) ← store r
  let c ← find consumers consumer
  return .contract ⟨q.origin.consumerName, q.origin.providerName, c.interactions,
    Contract.metadataOf c.config.specification⟩

def Operation.run : Operation → Run Outcome
  | newConsumer name config => Session.newConsumer name config
  | requestDefaults config =>
    addRequest ⟨⟨none, none, none, none, none⟩, none, [], false, .ofConfig config⟩
  | responseDefaults config => addResponse ⟨none, none, ⟨none, none⟩, .ofConfig config⟩
  | newResponse consumer request defaults => do
    present requests request
    present requests defaults.request
    let draft ← newResponseDraft (← configOf consumer) defaults.response
    addResponse ⟨consumer, request, defaults, draft⟩
  | hasContractWith consumer provider => do
    let _ ← find consumers consumer
    addProvider ⟨consumer, provider, ⟨none, none⟩⟩
  | useRequestDefaults provider request => do
    present requests request
    setProvider provider fun p => { p with defaults := { p.defaults with request := request } }
  | useResponseDefaults provider response => do
    present responses response
    setProvider provider fun p => { p with defaults := { p.defaults with response := response } }
  | given place name parameters => Session.given place name parameters
  | uponReceiving place description => Session.uponReceiving place description
  | editRequest request edit => Session.editRequest request edit
  | editPath request edit => Session.editPath request edit
  | respond request => Session.respond request
  | editResponse response edit => Session.editResponse response edit
  | finish response => Session.finish response

def step (s : Session) (operation : Operation) : Result Outcome × Session :=
  Editing.perform operation.run s

def after (s : Session) (operations : List Operation) : Session :=
  operations.foldl (fun s operation => (s.step operation).2) s

end Session

end HttpContract
