import HttpContract.Draft.BodySource
import HttpContract.Query

/-!
Requests while they are put together.
-/
namespace HttpContract

structure RequestDraft where
  part : PartDraft
  method : String
  path : String
  query : Fields

namespace RequestDraft

def ofConfig (c : Config) : RequestDraft := ⟨.ofConfig c, "GET", "/", []⟩

def ofRequest (c : Config) (r : Request) : RequestDraft :=
  ⟨⟨c, r.headers, r.body, r.rules, r.generators, []⟩, r.method, r.path, r.query⟩

def build (d : RequestDraft) : Request :=
  .ofParts d.method d.path d.query d.part.headers d.part.body d.part.rules d.part.generators

def addRule (d : RequestDraft) (category key : String) (rule : Rule) : RequestDraft :=
  { d with part := d.part.addRule category key rule }

def addGenerator (d : RequestDraft) (place : Place) (key expression : String) : RequestDraft :=
  { d with part := { d.part with
      generators := d.part.generators.add place key (.providerState expression .text) } }

def setParameter (d : RequestDraft) (name value : String) : RequestDraft :=
  { d with query := Keyed.put d.query name [value] }

def onPart {α : Type} (x : Editing PartDraft α) : Editing RequestDraft α :=
  x.within part fun d p => { d with part := p }

end RequestDraft

inductive RequestEdit
  | part (e : PartEdit)
  | method (s : String)
  | query (s : String)
  | matchQuery (name pattern : String) (shown : Option String)
  | queryFromState (name expression shown : String)

def RequestEdit.run : RequestEdit → Editing RequestDraft Unit
  | part e => RequestDraft.onPart (e.run .request)
  | method s => modify fun d => { d with method := Text.upperText s }
  | query s => modify fun d => { d with query := Query.read s }
  | matchQuery name pattern shown => do
    let s ← RequestDraft.onPart (PartDraft.exampleFor pattern shown)
    modify fun d => (d.addRule "query" name (.regex pattern (some s))).setParameter name s
  | queryFromState name expression shown =>
    modify fun d => (d.addGenerator .query name expression).setParameter name shown

inductive PathEdit
  | path (s : String)
  | matchPath (pattern : String) (shown : Option String)
  | pathFromState (expression shown : String)

def PathEdit.run : PathEdit → Editing RequestDraft Unit
  | path s => modify fun d => { d with path := s }
  | matchPath pattern shown => do
    let s ← RequestDraft.onPart (PartDraft.exampleFor pattern shown)
    modify fun d => { d.addRule "path" "" (.regex pattern (some s)) with path := s }
  | pathFromState expression shown =>
    modify fun d => { d.addGenerator .path "" expression with path := shown }

end HttpContract
