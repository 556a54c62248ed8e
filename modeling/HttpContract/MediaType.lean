import HttpContract.Error
import HttpContract.Keyed
import HttpContract.Text.Blank
import HttpContract.Text.Case
import HttpContract.Text.Split

/-!
Media types as `Content-Type` headers carry them: a type and a subtype, then parameters. The text of
a media type that is read is kept as it was given, but for the white space around it. One that is put
together by hand may have any text.
-/
namespace HttpContract

namespace MediaType

def isTokenChar (c : Char) : Bool :=
  Text.isAsciiLetter c || Text.isAsciiDigit c
    || ['!', '#', '$', '&', '^', '_', '.', '+', '-'].contains c

def isToken (s : List Char) : Bool := !s.isEmpty && s.all isTokenChar

def isEssence (s : List Char) : Bool :=
  match Text.cutAt '/' s with
  | (main, some sub) => isToken main && (isToken sub || sub == ['*'])
  | _ => false

def unquoted (s : List Char) : List Char :=
  if 2 ≤ s.length ∧ s.head? = some '\x22' ∧ s.getLast? = some '\x22' then (s.drop 1).dropLast
  else s

def readParameter (s : List Char) : Option (String × String) :=
  match Text.cutAt '=' s with
  | (name, some value) =>
    let name := Text.lower (Text.trim name)
    if isToken name then some (String.ofList name, String.ofList (unquoted (Text.trim value)))
    else none
  | _ => none

def readParameters (value : String) :
    List (List Char) → Keyed String String → Result (Keyed String String)
  | [], known => .ok known
  | [] :: pieces, known => readParameters value pieces known
  | piece :: pieces, known =>
    match readParameter piece with
    | some (name, v) => readParameters value pieces (Keyed.put known name v)
    | none => .error (.mediaTypeParameter (String.ofList piece) value)

def checkCharset (value : String) (charset : String) : Result Unit :=
  match Encoding.find charset with
  | .ok _ => .ok ()
  | .error .cut => .error .unusableValue
  | .error _ => .error (.mediaTypeCharset charset value)

/-- An undeclared charset is a good one. -/
def checkParameters (value : String) (parameters : Keyed String String) : Result Unit :=
  match Keyed.get? parameters "charset" with
  | some charset => checkCharset value charset
  | none => .ok ()

def readPieces (value : String) (pieces : List (List Char)) :
    Result (String × Keyed String String) := do
  let essence := pieces.headD []
  if !isEssence essence then throw (.mediaTypeEssence (String.ofList essence) value)
  let parameters ← readParameters value pieces.tail []
  checkParameters value parameters
  return (String.ofList (Text.lower essence), parameters)

def read (value : String) : Result (String × Keyed String String) :=
  if (Text.trim value.toList).isEmpty then .error (.blankMediaType (Text.quotedText value))
  else readPieces value (Text.trimmedPieces ';' value.toList)

end MediaType

structure MediaType where
  text : String
  /-- Type and subtype in small letters. -/
  essence : String
  /-- Parameter names in small letters; of a repeated name the last value counts. -/
  parameters : Keyed String String
  deriving DecidableEq

namespace MediaType

def ofText (value : String) : Result MediaType := do
  let (essence, parameters) ← read value
  return ⟨String.ofList (Text.trim value.toList), essence, parameters⟩

def charset? (m : MediaType) : Option String := Keyed.get? m.parameters "charset"

/-- An empty name does not count as a declaration. -/
def charset (m : MediaType) (default : String) : String :=
  match m.charset? with
  | some "" | none => default
  | some name => name

def main (m : MediaType) : List Char := (Text.cutAt '/' m.essence.toList).1

def sub (m : MediaType) : List Char := ((Text.cutAt '/' m.essence.toList).2).getD []

def isJson (m : MediaType) : Bool :=
  m.sub == "json".toList || Text.endsWith m.sub "+json".toList
    || (m.main == "application".toList && Text.contains m.sub "json".toList)

def isXml (m : MediaType) : Bool :=
  m.sub == "xml".toList || Text.endsWith m.sub "+xml".toList

def textEssences : List String :=
  ["application/x-www-form-urlencoded", "application/javascript", "application/graphql"]

def isText (m : MediaType) : Bool :=
  m.main == "text".toList || m.isJson || m.isXml || textEssences.contains m.essence

def applicationJson : String := "application/json"
def applicationXml : String := "application/xml"

end MediaType

end HttpContract
