import HttpContract.Config
import HttpContract.Editing
import HttpContract.Message
import HttpContract.Value.MediaType

/-!
What requests and responses have in common while they are put together: headers, a body, and the
rules and generators for both.
-/
namespace HttpContract

structure PartDraft where
  config : Config
  headers : Fields
  body : Body
  rules : RuleSet
  generators : GeneratorSet
  /-- The patterns that examples have been made after. -/
  asked : List String

namespace PartDraft

def ofConfig (c : Config) : PartDraft := ⟨c, [], .missing, [], [], []⟩

/-- A header by which the body is declared goes to the end and replaces all its spellings. -/
def declare (p : PartDraft) (mediaType : String) : PartDraft :=
  { p with headers := (p.headers.filter fun e => !Fields.isContentType e.1)
      ++ [(Fields.contentType, [mediaType])] }

def setHeaders (p : PartDraft) (entries : Keyed String String) : PartDraft :=
  { p with headers := entries.foldl (fun h e => Keyed.put h e.1 [e.2]) p.headers }

def addRule (p : PartDraft) (category key : String) (rule : Rule) : PartDraft :=
  { p with rules := RuleSet.change p.rules category fun m => RuleGroups.addRule m key rule .all }

def setHeaderRule (p : PartDraft) (name : String) (rule : Rule) : PartDraft :=
  { p with rules := RuleSet.change p.rules "header" fun m => RuleGroups.setRule m name rule .all }

/-- The header with this one value. One that declares the body replaces all its spellings. -/
def setMatchedHeader (p : PartDraft) (name value : String) : PartDraft :=
  if Fields.isContentType name then p.declare value
  else { p with headers := Keyed.put p.headers name [value] }

def exampleFor (pattern : String) : Option String → Editing PartDraft String
  | some s => return s
  | none => do
    let p ← get
    set { p with asked := p.asked ++ [pattern] }
    p.config.examples p.asked pattern

def matchHeader (name pattern : String) (shown : Option String) : Editing PartDraft Unit := do
  let s ← exampleFor pattern shown
  modify fun p => p.setHeaderRule name (.regex pattern (some s))
  modify fun p => p.setMatchedHeader name s

def headerFromState (p : PartDraft) (name expression shown : String) : PartDraft :=
  { p with
    generators := p.generators.add .header name (.providerState expression .text)
    headers := Keyed.put p.headers name [shown] }

end PartDraft

end HttpContract
