import HttpContract.Draft.Part
import HttpContract.Json.Draft
import HttpContract.Text.QuoteStyle
import HttpContract.Value.Members
import HttpContract.Xml.Builder

/-!
Setting the body of a part from a value or a document. The media type is the one that is asked for,
or else that of the headers, or else one that suits the body; it decides the charset.
-/
namespace HttpContract

/-- A document, closed: its rules and generators, and the bytes it has in a charset. One that has no
content has none. -/
structure Content where
  isXml : Bool
  annotations : Annotations
  encode : String → Result (Option (List UInt8))

namespace Content

def ofJson (d : Json.Draft) : Content :=
  ⟨false, d.annotations, fun charset => some <$> d.bytes charset⟩

def ofXml (d : Xml.Draft) : Content :=
  ⟨true, d.annotations, fun charset => some <$> Xml.serialize charset d.element⟩

def suited (c : Content) : String :=
  if c.isXml then MediaType.applicationXml else MediaType.applicationJson

end Content

inductive BodySource
  | value (v : Value)
  /-- What a function without parameters has returned. -/
  | produced (v : Value)
  /-- A function that cannot be called without an argument. -/
  | callback
  | json (d : Json.Draft)
  | xml (d : Xml.Draft)
  /-- Any other document; closing it may fail. -/
  | content (closed : Result Content)
  | built (b : Xml.Builder)
  /-- A tree of elements, which may be without a root. -/
  | tree (root : Option Element)

inductive PartKind
  | request
  | response
  deriving DecidableEq

def jsonTypePattern : String := "application/json(;\\s?charset=[\\w\\-]+)?"

namespace PartDraft

def negotiate (suited : String) (wanted : Option Value) :
    Editing PartDraft (MediaType × String) := do
  let p ← get
  match wanted, p.headers.contentType? with
  | some v, _ =>
    let m ← v.toMediaType
    return (m, m.charset p.config.defaultCharset)
  | none, some header =>
    let m ← MediaType.ofText header
    return (m, m.charset p.config.defaultCharset)
  | none, none =>
    let m ← MediaType.ofText suited
    return (m, p.config.defaultCharset)

/-- Declares a body where nothing does. Responses allow for any charset of JSON. -/
def declareDefault (kind : PartKind) (mediaType : String) : Editing PartDraft Unit :=
  if kind = .response ∧ mediaType = MediaType.applicationJson then
    matchHeader Fields.contentType jsonTypePattern (some mediaType)
  else modify fun p => p.declare mediaType

/-- The header that declares a body is replaced if a media type was asked for, and is added if there
is none. -/
def declareAs (kind : PartKind) (m : MediaType) (explicit : Bool) : Editing PartDraft Unit := do
  if explicit then modify fun p => p.declare m.text
  else
    let p ← get
    match p.headers.contentType? with
    | some _ => return
    | none => declareDefault kind m.text

def annotate : Option Annotations → Editing PartDraft Unit
  | none => return
  | some a => do
    modify fun p => { p with rules := RuleSet.mergeCategory p.rules "body" a.rules }
    modify fun p => { p with generators := p.generators.merge a.generators }

def commit (kind : PartKind) (body : Body) (m : MediaType) (explicit : Bool)
    (annotations : Option Annotations) : Editing PartDraft Unit := do
  declareAs kind m explicit
  annotate annotations
  modify fun p => { p with body := body }

def setBodyAs (kind : PartKind) (suited : String) (wanted : Option Value)
    (annotations : Option Annotations) (encode : String → Result (Option (List UInt8))) :
    Editing PartDraft Unit := do
  -- All that can fail comes before the header, the rules and the body are changed.
  let (m, charset) ← negotiate suited wanted
  let bytes ← encode charset
  commit kind (.encoded bytes m) m wanted.isSome annotations

def encodeBody (charset s : String) : Result (List UInt8) :=
  Encoding.encodeText (.bodyEncoding charset) charset s.toList

/-- Text without a media type is encoded by the settings alone and declares nothing. -/
def setTextBody (kind : PartKind) (s : String) (wanted : Option Value) :
    Editing PartDraft Unit := do
  match wanted with
  | none =>
    let p ← get
    let bytes ← encodeBody p.config.defaultCharset s
    set { p with body := .ofBytes bytes none }
  | some _ =>
    setBodyAs kind MediaType.applicationJson wanted none fun charset =>
      some <$> encodeBody charset s

def encodeJson (v : Value) (charset : String) : Result (List UInt8) := do
  encodeBody charset (← Json.text v)

def setContent (kind : PartKind) (c : Content) (wanted : Option Value) :
    Editing PartDraft Unit :=
  setBodyAs kind c.suited wanted (some c.annotations) c.encode

def setTree (kind : PartKind) (root : Option Element) (wanted : Option Value) :
    Editing PartDraft Unit :=
  setBodyAs kind MediaType.applicationXml wanted none fun charset =>
    match root with
    | some e => some <$> Xml.serialize charset e
    | none => .error .unknownHandle

def setValueBody (kind : PartKind) (v : Value) (wanted : Option Value) :
    Editing PartDraft Unit :=
  match v with
  | .null => throw (.absentBody .given)
  | .text s => setTextBody kind s wanted
  | .element e => setTree kind (some e) wanted
  | .map _ | .list _ =>
    setBodyAs kind MediaType.applicationJson wanted none fun charset => some <$> encodeJson v charset
  | v => throw (.unsupportedBody v.typeName)

def setProducedBody (kind : PartKind) (v : Value) (wanted : Option Value) :
    Editing PartDraft Unit :=
  match v with
  | .null => throw (.absentBody .produced)
  | .text s => setTextBody kind s wanted
  | v => throw (.unsupportedProduct v.typeName)

def setBody (kind : PartKind) (source : BodySource) (wanted : Option Value) :
    Editing PartDraft Unit :=
  match source with
  | .value v => setValueBody kind v wanted
  | .produced v => setProducedBody kind v wanted
  | .callback => throw .unsuitableType
  | .json d => setContent kind (.ofJson d) wanted
  | .xml d => setContent kind (.ofXml d) wanted
  | .content (.ok c) => setContent kind c wanted
  | .content (.error e) => throw e
  | .built b =>
    setBodyAs kind MediaType.applicationXml wanted (some b.annotations) fun charset =>
      some <$> b.bytes (some charset)
  | .tree root => setTree kind root wanted

def setQuotedBody (kind : PartKind) (v : Value) (wanted : Option Value) :
    Editing PartDraft Unit :=
  match v with
  | .null => throw (.absentBody .quoted)
  | .text s => setBody kind (.value (.text (Text.withDoubleQuotes s))) wanted
  | _ => throw .unsuitableType

/-- Bytes as an example of a body that only has to be of the same media type. -/
def setBinaryBody (shown wanted : Value) : Editing PartDraft Unit := do
  let m ← wanted.toMediaType
  let bytes ← shown.toBytes
  modify fun p => { p with body := .ofBytes bytes (some m) }
  modify fun p => p.declare m.text
  -- The rules of the body before stay beside this one.
  modify fun p => p.addRule "body" "$" (.mediaType m.text)

end PartDraft

inductive PartEdit
  | headers (entries : Keyed String String)
  | matchHeader (name pattern : String) (shown : Option String)
  | headerFromState (name expression shown : String)
  | body (source : BodySource) (wanted : Option Value)
  | quotedBody (v : Value) (wanted : Option Value)
  | binaryBody (shown wanted : Value)

def PartEdit.run (kind : PartKind) : PartEdit → Editing PartDraft Unit
  | headers entries => modify fun p => p.setHeaders entries
  | matchHeader name pattern shown => PartDraft.matchHeader name pattern shown
  | headerFromState name expression shown =>
    modify fun p => p.headerFromState name expression shown
  | body source wanted => PartDraft.setBody kind source wanted
  | quotedBody v wanted => PartDraft.setQuotedBody kind v wanted
  | binaryBody shown wanted => PartDraft.setBinaryBody shown wanted

end HttpContract
