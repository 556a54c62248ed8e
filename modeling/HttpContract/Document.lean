import HttpContract.Contract
import HttpContract.Encoding.Base64
import HttpContract.Json.Reader
import HttpContract.Value.MediaType

/-!
Contracts as documents: records of plain values. A field without a value is left out. Text bodies
are written as text, or as JSON if they are declared as such, and all other bodies as base64.
-/
namespace HttpContract.Document

def fields (entries : List (String × Value)) : Value :=
  .record (entries.filter fun e => match e.2 with | .null => false | _ => true)

def orNull (v : Value) : Value := if v.isTrue then v else .null

def refuse {α : Type} (part : DocumentPart) (location : List String) (objection : Objection) :
    Result α :=
  .error (.invalidDocument part [⟨location, objection⟩])

/-! ## Bodies -/

def declaredType (b : Body) (headers : Fields) : Result (Option MediaType) :=
  match b.mediaType, headers.contentType? with
  | some m, _ => .ok (some m)
  | none, none => .ok none
  | none, some s =>
    match MediaType.ofText s with
    | .ok m => .ok (some m)
    | .error .unusableValue => .error .unusableValue
    | .error _ => .ok none

def base64Value (bytes : List UInt8) : Value := .text (String.ofList (Encoding.base64 bytes))

/-- Text declared as JSON stands for its value, if it has one. -/
def textValue (m : Option MediaType) (s : List Char) : Value :=
  match m with
  | some m => if m.isJson then (Json.read s).getD (.text (String.ofList s))
    else .text (String.ofList s)
  | none => .text (String.ofList s)

def bytesValue (m : Option MediaType) (default : String) (bytes : List UInt8) : Result Value :=
  match m with
  | some m =>
    if m.isText then decoded (some m) (m.charset default) else .ok (base64Value bytes)
  | none => decoded none default
where
  /-- What stands for no text is written as base64. -/
  decoded (m : Option MediaType) (charset : String) : Result Value :=
    match Encoding.decodeText charset bytes with
    | .ok s => .ok (textValue m s)
    | .error .undecodable => .ok (base64Value bytes)
    | .error e => .error e

def bodyValue (b : Body) (headers : Fields) (default : String) : Result Value :=
  match b.content with
  | .missing | .null => .ok .null
  | .empty => .ok (.text "")
  | .present bytes => do
    let m ← declaredType b headers
    bytesValue m default bytes

/-! ## Messages -/

def headersValue (headers : Fields) : Value :=
  orNull (.record (headers.map fun e => (e.1, .text (", ".intercalate e.2))))

def queryValue (query : Fields) : Value :=
  orNull (.record (query.map fun e => (e.1, .list (e.2.map .text))))

def ofRequest (r : Request) (default : String) : Result Value := do
  let body ← bodyValue r.body r.headers default
  return fields [("method", .text r.method), ("path", .text r.path),
    ("query", queryValue r.query), ("headers", headersValue r.headers), ("body", body),
    ("matchingRules", orNull (RuleSet.document r.rules)),
    ("generators", orNull (GeneratorSet.document r.generators))]

def plainInteger (s : List Char) : Except Objection Int :=
  let (negative, rest) := match s with
    | '-' :: rest => (true, rest)
    | rest => (false, rest)
  let digits := rest.takeWhile Text.isAsciiDigit
  if digits.head? = some '0' then
    if rest = ['0'] then .ok 0 else .error .unreadInteger
  -- The sign counts as a digit.
  else if Number.digitLimit < (if negative then digits.length + 1 else digits.length) then
    .error .longInteger
  else if digits.isEmpty || digits.length < rest.length then .error .unreadInteger
  else .ok (if negative then -(Number.ofDigits digits : Int) else Number.ofDigits digits)

/-- What remains of a number after the zeros in front of it, with the underscores between them; a
zero that nothing or a point follows stays. A sign may come first, or after such zeros. -/
def afterZeros (s : List Char) : Option (List Char) :=
  match s with
  | [] => none
  | '0' :: _ =>
    let zeros := s.takeWhile fun c => c = '0' || c = '_'
    match s.drop zeros.length with
    | [] => some (zeros.drop (zeros.length - 1))
    | '.' :: rest => some (zeros.drop (zeros.length - 1) ++ '.' :: rest)
    | c :: rest => if Text.isAsciiDigit c || c = '-' then some (c :: rest) else none
  | c :: _ => if Text.isAsciiDigit c || c = '-' then some s else none

def withoutZeroFraction (s : List Char) : List Char :=
  match Text.cutAt '.' s with
  | (whole, some zeros) => if !zeros.isEmpty && zeros.all (· = '0') then whole else s
  | (_, none) => s

def withoutUnderscores (s : List Char) : List Char :=
  if (Text.splitAt '_' s).any List.isEmpty then s else s.filter (· ≠ '_')

/-- An integer that is written plainly, or with white space around, zeros in front, single
underscores within, and a point and zeros behind. -/
def readStatus (s : List Char) : Except Objection Int :=
  match plainInteger s with
  | .ok n => .ok n
  | .error .longInteger => .error .longInteger
  | .error _ =>
    match afterZeros (Text.trimWhile Text.isNumberBlank s) with
    | none => .error .unreadInteger
    | some rest => plainInteger (withoutUnderscores (withoutZeroFraction rest))

def isWord (n : Int) : Bool := -(Nat.pow 2 63 : Int) ≤ n && n < (Nat.pow 2 63 : Int)

def statusOfReal (x : Number.Real64) : Except Objection Int :=
  match x.truncate with
  | none => .error .notFinite
  | some n =>
    if x.form ≠ Number.intForm n then .error .fraction
    -- Of binary numbers the least integer of 64 bits is refused, too.
    else if isWord n && isWord (n - 1) then .ok n
    else .error .longInteger

def statusOfDecimal (d : Number.Decimal) : Except Objection Int :=
  match d.truncate with
  | none => .error .notFinite
  | some n => if d.isWhole then .ok n else .error .fraction

def status : Value → Except Objection Int
  | .int n => .ok n
  | .bool b => .ok (if b then 1 else 0)
  | .real x => statusOfReal x
  | .decimal d => statusOfDecimal d
  | .text s => readStatus s.toList
  | .bytes b =>
    match Encoding.strict (Encoding.utf8Decode none b) with
    | some s => readStatus s
    | none => .error .unreadInteger
  | _ => .error .notInteger

def ofResponse (r : Response) (default : String) : Result Value := do
  let body ← bodyValue r.body r.headers default
  match status r.status with
  | .error objection => refuse .response ["status"] objection
  | .ok n =>
    return fields [("status", .int n), ("headers", headersValue r.headers), ("body", body),
      ("matchingRules", orNull (RuleSet.document r.rules)),
      ("generators", orNull (GeneratorSet.document r.generators))]

/-! ## Maps of any values -/

def keyName : Value → String
  | .bool b => if b then "1" else "0"
  | .int n =>
    if isWord n then String.ofList (Number.integerText n) else shownKey (.int n)
  | .text s => s
  | v => shownKey v
where
  shownKey (v : Value) : String :=
    match v.shown with
    | .ok s => String.ofList s
    | .error _ => "<unprintable " ++ v.typeName ++ " object>"

def readKey : Value → Except Objection String
  | .text s => .ok s
  | .bytes b =>
    match Encoding.strict (Encoding.utf8Decode none b) with
    | some s => .ok (String.ofList s)
    | none => .error .undecodableText
  | _ => .error .notText

def readEntries (field : String) :
    List (Value × Value) → Keyed String Value × List Complaint
  | [] => ([], [])
  | (k, v) :: rest =>
    let (known, complaints) := readEntries field rest
    match readKey k with
    | .ok name => ((name, v) :: known, complaints)
    | .error objection => (known, ⟨[field, keyName k, "[key]"], objection⟩ :: complaints)

def entriesValue (part : DocumentPart) (field : String) (entries : List (Value × Value)) :
    Result Value :=
  match readEntries field entries with
  | (known, []) => .ok (.record (Keyed.putAll [] known))
  | (_, complaints) => .error (.invalidDocument part complaints)

/-! ## Contracts -/

def ofState (s : ProviderState) : Result Value := do
  let parameters ←
    if s.parameters.isEmpty then pure .null else entriesValue .state "params" s.parameters
  return fields [("name", .text s.name), ("params", parameters)]

def ofInteraction (i : Interaction) (default : String) : Result Value := do
  let states ← i.states.mapM ofState
  let request ← ofRequest i.request default
  let response ← ofResponse i.response default
  match i.description with
  | none => refuse .interaction ["description"] .notText
  | some description =>
    return fields [("description", .text description), ("providerStates", orNull (.list states)),
      ("request", request), ("response", response)]

def ofParty (name : Option String) : Result Value :=
  match name with
  | none => refuse .party ["name"] .notText
  | some name =>
    if (Text.trim name.toList).isEmpty then refuse .party ["name"] .blankName
    else .ok (.record [("name", .text name)])

/-- The document of a contract; bodies without a charset of their own are decoded with this one. -/
def ofContract (c : Contract) (default : String) : Result Value := do
  let consumer ← ofParty c.consumer
  let provider ← ofParty c.provider
  let interactions ← c.interactions.mapM fun i => ofInteraction i default
  let metadata ← c.metadata.toEntries
  if !Value.entriesCopyable metadata then throw .unsuitableType
  let metadata ← entriesValue .contract "metadata" metadata
  return .record [("consumer", consumer), ("provider", provider),
    ("interactions", .list interactions), ("metadata", metadata)]

end HttpContract.Document
