import HttpContract.Config
import HttpContract.Message
import HttpContract.Value.Members

/-!
Contracts between one consumer and one provider: the interactions that were agreed on, each with the
states it asks of the provider.
-/
namespace HttpContract

structure ProviderState where
  name : String
  parameters : List (Value × Value)

namespace ProviderState

def readParameters (v : Value) : Result (List (Value × Value)) :=
  if v.isTrue then v.toEntries else .ok []

def create (name : String) (parameters : Value) : Result ProviderState := do
  let entries ← readParameters parameters
  if Value.entriesCopyable entries then return ⟨name, entries⟩ else throw .unsuitableType

end ProviderState

structure Interaction where
  description : Option String
  states : List ProviderState
  request : Request
  response : Response

structure Contract where
  consumer : Option String
  provider : Option String
  interactions : List Interaction
  /-- A map or its pairs. -/
  metadata : Value

namespace Contract

def interactionFor (c : Contract) (description : Option String) : Option Interaction :=
  c.interactions.find? fun i => i.description == description

def metadataOf (specification : String) : Value :=
  .record [("pactSpecification", .record [("version", .text specification)])]

end Contract

end HttpContract
