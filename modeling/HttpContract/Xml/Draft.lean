import HttpContract.Annotations
import HttpContract.Encoding.Text
import HttpContract.Xml.Printer

/-!
XML documents put together element by element. A rule stands under the dotted path of its element,
followed by the name of an attribute or by a mark for text; children of the same tag are counted,
and templates are marked by a star.
-/
namespace HttpContract.Xml

/-- An element that is worked on. `counts` holds, for each tag, the number of the last child. -/
structure Node where
  element : Element
  path : List String
  counts : Keyed String Int

mutual

inductive Step
  | attribute (name : String) (e : Example)
  | attributes (entries : List (String × Example))
  | text (e : Example)
  | element (tag : String) (content : Content)
  | eachLike (tag : String) (count : Int) (steps : List Step)
  | namespaceOf (name uri : String)
  /-- A step that could not be made out. -/
  | refused (fault : Error)

inductive Content
  | nothing
  | example (e : Example)
  | steps (steps : List Step)

end

/-- How far a document has got, and what went wrong in the step before, if anything did. -/
structure Progress where
  node : Node
  annotations : Annotations
  fault : Option Error

def ruleKey (path key : List String) : String := ".".intercalate (path ++ key)

namespace Progress

/-- Notes the rule of an example, then puts its text in place; a value without a text is left. -/
def fillIn (p : Progress) (key : String) (e : Example) (place : String → Element → Element) :
    Progress :=
  let annotations := p.annotations.note key e
  match e.value.plainText with
  | .ok s =>
    { p with annotations := annotations
             node := { p.node with element := place s p.node.element } }
  | .error fault => { p with annotations := annotations, fault := some fault }

def attributeStep (p : Progress) (name : String) (e : Example) : Progress :=
  p.fillIn (ruleKey p.node.path ["@" ++ name]) e fun s element =>
    element.setAttribute name (.text s)

def attributesStep (p : Progress) : List (String × Example) → Progress
  | [] => p
  | (name, e) :: rest =>
    let next := p.attributeStep name e
    if next.fault.isSome then next else next.attributesStep rest

def textStep (p : Progress) (e : Example) : Progress :=
  p.fillIn (ruleKey p.node.path ["#text"]) e fun s element => element.setText s

def count (p : Progress) (tag : String) (n : Int) : Progress :=
  let last := (Keyed.get? p.node.counts tag).getD (-1)
  { p with node := { p.node with counts := Keyed.put p.node.counts tag (last + n) } }

def child (p : Progress) (tag : String) (mark : String) : Progress :=
  { p with node := ⟨.ofTag tag, p.node.path ++ [tag, mark], []⟩ }

def adopt (p inner : Progress) : Progress :=
  { inner with node := { p.node with element := p.node.element.append inner.node.element } }

/-- A child that is filled at the place its number tells. It is there before its number is
written. -/
def numbered (p : Progress) (tag : String) (fill : Progress → Progress) : Progress :=
  let index := (Keyed.get? p.node.counts tag).getD 0
  match Value.integerShown index with
  | .ok mark => p.adopt (fill (p.child tag (String.ofList mark)))
  | .error fault => p.adopt { p.child tag "" with fault := some fault }

def appendCopies (p : Progress) (e : Element) : Nat → Progress
  | 0 => p
  | n + 1 =>
    ({ p with node := { p.node with element := p.node.element.append e } }).appendCopies e n

end Progress

mutual

def Step.run (p : Progress) : Step → Progress
  | .attribute name e => p.attributeStep name e
  | .attributes entries => p.attributesStep entries
  | .text e => p.textStep e
  | .element tag content => (p.count tag 1).numbered tag fun child => content.fill child
  | .eachLike tag count steps =>
    let p := p.count tag count
    let inner := Step.runAll (p.child tag "*") steps
    let whole := p.adopt inner
    if whole.fault.isSome then whole
    else whole.appendCopies inner.node.element (count - 1).toNat
  | .namespaceOf name uri =>
    { p with node := { p.node with element := p.node.element.setAttribute name (.text uri) } }
  | .refused fault => { p with fault := some fault }

def Content.fill (p : Progress) : Content → Progress
  | .nothing => p
  | .example e => p.textStep e
  | .steps steps => Step.runAll p steps

/-- Runs steps up to the first that fails; what that one has done so far stays. -/
def Step.runAll (p : Progress) : List Step → Progress
  | [] => p
  | step :: rest =>
    let next := step.run p
    if next.fault.isSome then next else Step.runAll next rest

end

def Progress.begin (tag : String) : Progress :=
  ⟨⟨.ofTag tag, ["$", tag], []⟩, .none, none⟩

def text (e : Element) : Result String := do
  return String.ofList (← Encoding.decodeText "utf-8" (← serialize "utf-8" e))

structure Draft where
  element : Element
  annotations : Annotations

def Draft.ofSteps (tag : String) (steps : List Step) : Result Draft :=
  let p := Step.runAll (.begin tag) steps
  match p.fault with
  | some fault => .error fault
  | none => .ok ⟨p.node.element, p.annotations⟩

end HttpContract.Xml
