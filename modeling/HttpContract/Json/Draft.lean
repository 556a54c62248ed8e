import HttpContract.Annotations
import HttpContract.Encoding.Text
import HttpContract.Json.Printer

/-!
JSON documents put together step by step. A document is a list of nodes, the root first; a node is
worked on by its number, and every node stands behind the one that holds it. Examples leave their
rules under the path of their place.
-/
namespace HttpContract.Json

inductive Entry
  | value (v : Value)
  | node (n : Nat)
  | copies (count n : Nat)

inductive Contents
  | object (fields : Keyed String Entry)
  | array (items : List Entry)

structure Node where
  path : String
  /-- The node that holds this one; the root is its own. -/
  parent : Nat
  contents : Contents

def Entry.toValue (node : Nat → Value) : Entry → Value
  | value v => v
  | .node n => node n
  | copies count n => .list (List.replicate count (node n))

def Contents.toValue (node : Nat → Value) : Contents → Value
  | object fields => .record (fields.map fun e => (e.1, e.2.toValue node))
  | array items => .list (items.map (Entry.toValue node))

def valuesFrom (first : Nat) : List Node → List Value
  | [] => []
  | n :: rest =>
    let later := valuesFrom (first + 1) rest
    n.contents.toValue (fun i => later.getD (i - (first + 1)) .null) :: later

structure Draft where
  nodes : List Node
  annotations : Annotations
  /-- What examples are made by after patterns. -/
  examples : Regex.Maker
  /-- The patterns that examples have been made after. -/
  asked : List String

inductive Root
  | object
  | array

/-- A name that stands after a point as it is: a letter or an underscore first, then letters,
digits, underscores and hyphens. One line break at the end does not count. -/
def isIdentifier (name : List Char) : Bool :=
  let isFirst (c : Char) : Bool := Text.isAsciiLetter c || c = '_'
  match if name.getLast? = some '\n' then name.dropLast else name with
  | [] => false
  | c :: rest => isFirst c && rest.all fun c => isFirst c || Text.isAsciiDigit c || c = '-'

def childPath (parent name : String) : String :=
  if isIdentifier name.toList then parent ++ "." ++ name else parent ++ "['" ++ name ++ "']"

def itemPath (parent : String) (items : List Entry) : String :=
  parent ++ "[" ++ toString items.length ++ "]"

inductive Step
  | put (name : String) (e : Example)
  /-- The example is made after the pattern. -/
  | putSample (name pattern : String)
  | putNull (name : String)
  | openObject (name : String)
  | openArray (name : String)
  | eachLike (name : String) (count : Int)
  | minLike (name : String) (size : Int) (count : Option Int)
  | maxLike (name : String) (size count : Int)
  | append (e : Example)
  | appendSample (pattern : String)
  | appendObject
  | closeNode
  | close

namespace Draft

def begin (c : Config) (root : Root) : Draft :=
  let contents := match root with
    | .object => Contents.object []
    | .array => Contents.array []
  ⟨[⟨"$", 0, contents⟩], .none, c.examples, []⟩

def isObject (d : Draft) (here : Nat) : Bool :=
  match d.nodes[here]?.map Node.contents with
  | some (.object _) => true
  | _ => false

def value (d : Draft) : Value := (valuesFrom 0 d.nodes).headD .null

def setContents (d : Draft) (here : Nat) (contents : Contents) : Draft :=
  { d with nodes := d.nodes.modify here fun n => { n with contents := contents } }

def addRule (d : Draft) (path : String) (rule : Rule) : Draft :=
  { d with annotations := d.annotations.addRule path rule }

def note (d : Draft) (path : String) (e : Example) : Draft :=
  { d with annotations := d.annotations.note path e }

def addNode (d : Draft) (n : Node) : Draft := { d with nodes := d.nodes ++ [n] }

def setField (d : Draft) (here : Nat) (fields : Keyed String Entry) (name : String) (e : Entry) :
    Draft :=
  d.setContents here (.object (Keyed.put fields name e))

def addItem (d : Draft) (here : Nat) (items : List Entry) (e : Entry) : Draft :=
  d.setContents here (.array (items ++ [e]))

def template (d : Draft) (here : Nat) (path : String) (fields : Keyed String Entry) (name : String)
    (rule : Rule) (count : Int) : Draft × Nat :=
  let d := d.addRule path rule
  ((d.setField here fields name (.copies (max count 1).toNat d.nodes.length)).addNode
    ⟨path ++ "[*]", here, .object []⟩, d.nodes.length)

/-- The number of copies that a list with a least size shows. -/
def minCount (size : Int) (count : Option Int) : Int :=
  max size (match count with
    | none | some 0 => size
    | some n => n)

def objectStep? (d : Draft) (here : Nat) (path : String) (fields : Keyed String Entry) :
    Step → Option (Draft × Nat)
  | .put name e =>
    some ((d.note (childPath path name) e).setField here fields name (.value e.value), here)
  | .putNull name =>
    some ((d.addRule (childPath path name) .null).setField here fields name (.value .null), here)
  | .openObject name =>
    some ((d.setField here fields name (.node d.nodes.length)).addNode
      ⟨childPath path name, here, .object []⟩, d.nodes.length)
  | .openArray name =>
    some ((d.setField here fields name (.node d.nodes.length)).addNode
      ⟨childPath path name, here, .array []⟩, d.nodes.length)
  | .eachLike name count => some (d.template here (childPath path name) fields name .type count)
  | .minLike name size count =>
    some (d.template here (childPath path name) fields name (.minType size) (minCount size count))
  | .maxLike name size count =>
    some (d.template here (childPath path name) fields name (.maxType size) (min size count))
  | _ => none

def arrayStep? (d : Draft) (here : Nat) (path : String) (items : List Entry) :
    Step → Option (Draft × Nat)
  | .append e => some ((d.note (itemPath path items) e).addItem here items (.value e.value), here)
  | .appendObject =>
    some ((d.addItem here items (.node d.nodes.length)).addNode
      ⟨itemPath path items, here, .object []⟩, d.nodes.length)
  | _ => none

def step? (d : Draft) (here : Nat) (step : Step) : Option (Draft × Nat) :=
  match d.nodes[here]?, step with
  | none, _ => none
  | some n, .closeNode => some (d, n.parent)
  | some _, .close => some (d, 0)
  | some ⟨path, _, .object fields⟩, step => d.objectStep? here path fields step
  | some ⟨path, _, .array items⟩, step => d.arrayStep? here path items step

/-- A step with an example that is made after a pattern. What was begun in vain may be referred to
later. -/
def sampleStep? (d : Draft) (here : Nat) (pattern : String) (step : Example → Step) :
    Option (Result Nat × Draft) :=
  let after := { d with asked := d.asked ++ [pattern] }
  match d.examples d.asked pattern with
  | .error e => some (.error e, after)
  | .ok s => (after.step? here (step (.sampled pattern s))).map fun (next, there) => (.ok there, next)

/-- Takes any step at a node: the node to go on with, unless no example can be made, and the
document after it. -/
def attempt? (d : Draft) (here : Nat) : Step → Option (Result Nat × Draft)
  | .putSample name pattern => d.sampleStep? here pattern (.put name)
  | .appendSample pattern => d.sampleStep? here pattern .append
  | step => (d.step? here step).map fun (next, there) => (.ok there, next)

def text (d : Draft) : Result String := Json.text d.value

def bytes (d : Draft) (charset : String) : Result (List UInt8) := do
  let s ← d.text
  Encoding.encodeText (.jsonEncoding charset) charset s.toList

end Draft

end HttpContract.Json
