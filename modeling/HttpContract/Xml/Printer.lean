import HttpContract.Value.Text

/-!
The XML text of elements. Children stand on lines of their own, two spaces deeper than their parent,
where there is nothing but white space around them. Names in braces belong to a namespace; the
prefixes of namespaces are declared at the root.
-/
namespace HttpContract.Xml

def escaped (c : Char) : List Char :=
  if c = '&' then "&amp;".toList
  else if c = '<' then "&lt;".toList
  else if c = '>' then "&gt;".toList
  else [c]

def escapedAttribute (c : Char) : List Char :=
  if c = '\x22' then "&quot;".toList
  else if c = '\r' then "&#13;".toList
  else if c = '\n' then "&#10;".toList
  else if c = '\t' then "&#09;".toList
  else escaped c

def lineBreak (level : Nat) : String := String.ofList ('\n' :: List.replicate (2 * level) ' ')

def fill (level : Nat) (s : Option String) : Option String :=
  if (Text.trim (s.getD "").toList).isEmpty then some (lineBreak level) else s

def setTail (tail : Option String) : Element → Element
  | .mk tag attributes text _ children => .mk tag attributes text tail children

mutual

/-- The element with line breaks around its children; `level` is its own depth. -/
def indented (level : Nat) : Element → Element
  | .mk tag attributes text tail [] => .mk tag attributes text tail []
  | .mk tag attributes text tail (c :: rest) =>
    .mk tag attributes (fill (level + 1) text) tail (indentedChildren level (c :: rest))

/-- The last child is followed by the end of its parent, which stands less deep. -/
def indentedChildren (level : Nat) : List Element → List Element
  | [] => []
  | [c] => [setTail (fill level c.tail) (indented (level + 1) c)]
  | c :: rest => setTail (fill (level + 1) c.tail) (indented (level + 1) c)
      :: indentedChildren level rest

end

mutual

def names : Element → List String
  | .mk tag attributes _ _ children => tag :: attributes.map Prod.fst ++ namesOfAll children

def namesOfAll : List Element → List String
  | [] => []
  | e :: rest => names e ++ namesOfAll rest

end

def wellKnown : List (String × String × String) :=
  [("www.w3.org", "XML/1998/namespace", "xml"), ("www.w3.org", "1999/xhtml", "html"),
    ("www.w3.org", "1999/02/22-rdf-syntax-ns#", "rdf"), ("schemas.xmlsoap.org", "wsdl/", "wsdl"),
    ("www.w3.org", "2001/XMLSchema", "xs"), ("www.w3.org", "2001/XMLSchema-instance", "xsi"),
    ("purl.org", "dc/elements/1.1/", "dc")]

def wellKnownPrefix? (uri : String) : Option String :=
  (wellKnown.find? fun e => String.join ["http:", "//", e.1, "/", e.2.1] == uri).map fun e => e.2.2

def splitName (name : String) : Except XmlFault (Option (String × String)) :=
  match name.toList with
  | '\x7b' :: rest =>
    let tag := (rest.reverse.takeWhile (· ≠ '\x7d')).reverse
    if tag.length = rest.length then .error .openNamespace
    else .ok (some (String.ofList (rest.take (rest.length - tag.length - 1)), String.ofList tag))
  | _ => .ok none

abbrev Prefixes := Keyed String String

/-- Without a well-known prefix, a namespace gets one by the number of those before it. The prefix
`xml` needs no declaration. -/
def addName (known : Prefixes) (name : String) : Except XmlFault Prefixes := do
  match ← splitName name with
  | none => return known
  | some (uri, _) =>
    match Keyed.get? known uri, wellKnownPrefix? uri with
    | some _, _ | none, some "xml" => return known
    | none, some p => return Keyed.put known uri p
    | none, none => return Keyed.put known uri ("ns" ++ toString known.length)

def qualified (known : Prefixes) (name : String) : Except XmlFault (List Char) := do
  match ← splitName name with
  | none => return name.toList
  | some (uri, tag) => return ((Keyed.get? known uri).getD "xml").toList ++ ':' :: tag.toList

def attributeForm (name value : List Char) : List Char :=
  ' ' :: name ++ ['=', '\x22'] ++ value ++ ['\x22']

def declarations (known : Prefixes) : List (List Char) :=
  (known.mergeSort fun a b => a.2 ≤ b.2).map fun e =>
    attributeForm ("xmlns:".toList ++ e.2.toList) (e.1.toList.flatMap escapedAttribute)

def shown (v : Value) : Except XmlFault (List Char) := v.shown.mapError fun _ => .longInteger

def notText (v : Value) : Except XmlFault (List Char) := do
  let s ← shown v
  throw (.notText (String.ofList s) v.typeName)

def isMark : Value → Bool
  | .text s => ["&", "<", ">", "\x22", "\r", "\n", "\t"].contains s
  | _ => false

/-- The value of an attribute. Collections are written as they are, unless a member of theirs is a
mark by itself. -/
def attributeText : Value → Except XmlFault (List Char)
  | .text s => .ok (s.toList.flatMap escapedAttribute)
  | .list items => if items.any isMark then notText (.list items) else shown (.list items)
  | .tuple items => if items.any isMark then notText (.tuple items) else shown (.tuple items)
  | .map entries =>
    if entries.any fun e => isMark e.1 then notText (.map entries) else shown (.map entries)
  | .element e => shown (.element e)
  | v => notText v

def attributeTexts (known : Prefixes) :
    List (String × Value) → Except XmlFault (List (List Char))
  | [] => .ok []
  | (name, v) :: rest => do
    let value ← attributeText v
    let name ← qualified known name
    let others ← attributeTexts known rest
    return attributeForm name value :: others

def content (s : Option String) : List Char := (s.getD "").toList.flatMap escaped

mutual

/-- The element and what follows it, part by part; `declared` is put among the attributes. -/
def render (known : Prefixes) (declared : List (List Char)) :
    Element → Except XmlFault (List (List Char))
  | .mk tag attributes text tail children => do
    let name ← qualified known tag
    let given ← attributeTexts known attributes
    let inner ← renderAll known children
    let start := ('<' :: name) :: declared ++ given
    let body := ['>'] :: content text :: inner ++ ['<' :: '/' :: name ++ ['>']]
    return start ++ (if children.isEmpty && (text.getD "").isEmpty then [" />".toList] else body)
      ++ [content tail]

def renderAll (known : Prefixes) : List Element → Except XmlFault (List (List Char))
  | [] => .ok []
  | e :: rest => do
    let first ← render known [] e
    let others ← renderAll known rest
    return first ++ others

end

def document (charset : String) (e : Element) : Except XmlFault (List (List Char)) := do
  let e := indented 0 e
  let known ← (names e).foldlM addName []
  let body ← render known (declarations known) e
  return ("<?xml version='1.0' encoding='".toList ++ charset.toList ++ "'?>\n".toList) :: body

def reference (c : Char) : List Char := '&' :: '#' :: Number.digitsOf c.toNat ++ [';']

/-- The bytes of a document; characters that the charset lacks are written as references. A name
that asks for no encoding at all is of no use here. -/
def encodeDocument (charset : String) (e : Element) : Except XmlFault (List UInt8) := do
  let charset := if charset = "" then "us-ascii" else charset
  if Text.lower charset.toList == "unicode".toList then throw .unbuffered
  let encoding ← (Encoding.findText charset).mapError .lookup
  encoding.checkReplacing.mapError .encoding
  let parts ← document charset e
  return encoding.encodeParts reference parts

def serialize (charset : String) (e : Element) : Result (List UInt8) :=
  if !Value.elementCopyable e then .error .unsuitableType
  else if charset = "unicode" then .error .unsuitableType
  else (encodeDocument charset e).mapError (.xml e.tag)

end HttpContract.Xml
