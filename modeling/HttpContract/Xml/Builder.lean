import HttpContract.Encoding.Text
import HttpContract.Xml.Draft

/-!
XML documents that are built as a whole. Each build begins with a new root; the rules of earlier
builds stay. Elements are put in place once they are complete.
-/
namespace HttpContract.Xml

structure Outline where
  root : String
  namespaceUri : Option String
  namespaces : Keyed String String
  version : Option String
  charset : Option String

/-- One step of building an element. Attributes set by themselves keep their values; those of a new
element become text. -/
inductive BuildStep
  | setAttributes (entries : List (String × Value))
  | appendElement (name : String) (attributes : List (String × Example)) (steps : List BuildStep)
  | eachLike (name : String) (count : Int) (attributes : List (String × Example))
      (steps : List BuildStep)
  | text (e : Example)

structure Builder where
  outline : Outline
  root : Option Element
  annotations : Annotations

structure Building where
  element : Element
  annotations : Annotations
  fault : Option Error

namespace Building

def setAttributes (b : Building) : List (String × Value) → Building
  | [] => b
  | (name, v) :: rest =>
    ({ b with element := b.element.setAttribute name v }).setAttributes rest

def dress (key : String → List String) (b : Building) : List (String × Example) → Building
  | [] => b
  | (name, e) :: rest =>
    let b := { b with annotations := b.annotations.note (".".intercalate (key name)) e }
    match e.value.plainText with
    | .ok s => ({ b with element := b.element.setAttribute name (.text s) }).dress key rest
    | .error fault => { b with fault := some fault }

def setText (b : Building) (path : List String) (e : Example) : Building :=
  let b := { b with annotations := b.annotations.note (ruleKey path ["#text"]) e }
  match e.value.plainText with
  | .ok s => { b with element := b.element.setText s }
  | .error fault => { b with fault := some fault }

def adopt (b inner : Building) : Building :=
  match inner.fault with
  | some fault => { b with annotations := inner.annotations, fault := some fault }
  | none => ⟨b.element.append inner.element, inner.annotations, none⟩

def appendCopies (b : Building) (e : Element) : Nat → Building
  | 0 => b
  | n + 1 =>
    if Value.elementCopyable e then
      ({ b with element := b.element.append e }).appendCopies e n
    else { b with fault := some .unsuitableType }

end Building

mutual

def BuildStep.run (path : List String) (b : Building) : BuildStep → Building
  | .setAttributes entries => b.setAttributes entries
  | .text e => b.setText path e
  | .appendElement name attributes steps =>
    let key (a : String) := path ++ [name, "@" ++ a]
    let inner := Building.dress key ⟨.ofTag name, b.annotations, none⟩ attributes
    b.adopt (if inner.fault.isSome then inner else BuildStep.runAll (path ++ [name]) inner steps)
  | .eachLike name count attributes steps =>
    let key (a : String) := path ++ [name, "['@" ++ a ++ "']"]
    let inner := Building.dress key ⟨.ofTag name, b.annotations, none⟩ attributes
    let inner :=
      if inner.fault.isSome then inner else BuildStep.runAll (path ++ [name]) inner steps
    let b := b.adopt inner
    if b.fault.isSome then b else b.appendCopies inner.element (count - 1).toNat

def BuildStep.runAll (path : List String) (b : Building) : List BuildStep → Building
  | [] => b
  | step :: rest =>
    let next := step.run path b
    if next.fault.isSome then next else BuildStep.runAll path next rest

end

namespace Builder

def ofOutline (outline : Outline) : Builder := ⟨outline, none, .none⟩

def emptyRoot (o : Outline) : Element :=
  let root := match o.namespaceUri with
    | some uri => (Element.ofTag ("ns:" ++ o.root)).setAttribute "xmlns:ns" (.text uri)
    | none => .ofTag o.root
  o.namespaces.foldl (fun e n => e.setAttribute ("xmlns:" ++ n.1) (.text n.2)) root

def build (b : Builder) (steps : List BuildStep) : Result Builder :=
  let done := BuildStep.runAll ["$", b.outline.root] ⟨emptyRoot b.outline, b.annotations, none⟩ steps
  match done.fault with
  | some fault => .error fault
  | none => .ok ⟨b.outline, some done.element, done.annotations⟩

/-- The first declaration of version 1.0 in the bytes tells this version instead. -/
def withVersion (version : String) (bytes : List UInt8) : Result (List UInt8) := do
  if version = "1.0" then return bytes
  let ascii (s : String) : List UInt8 := s.toList.map fun c => UInt8.ofNat c.toNat
  let shown ← Encoding.encodeText (fun _ => .unencodable) "ascii" version.toList
  return Text.replaceFirst (ascii "version='1.0'") (ascii "version='" ++ shown ++ ascii "'") bytes

def charset (b : Builder) (wanted : Option String) : String :=
  match wanted, b.outline.charset with
  | some "", some "" | some "", none | none, some "" | none, none => "utf-8"
  | some "", some c | none, some c => c
  | some c, _ => c

/-- The bytes of the document. What was never built is an empty root. -/
def bytes (b : Builder) (wanted : Option String) : Result (List UInt8) := do
  let root := b.root.getD (emptyRoot b.outline)
  let plain ← serialize (b.charset wanted) root
  match b.outline.version with
  | none => return plain
  | some version => withVersion version plain

def text (b : Builder) : Result String := do
  let s ← Encoding.decodeText "utf-8" (← b.bytes (some "utf-8"))
  return String.ofList s

end Builder

end HttpContract.Xml
