import HttpContract.Body
import HttpContract.Generator
import HttpContract.Rule

/-!
Requests and responses as a contract keeps them, and what becomes of them once their generators are
applied: only values are replaced.
-/
namespace HttpContract

abbrev Fields := Keyed String (List String)

namespace Fields

def contentType : String := "Content-Type"

def isContentType (name : String) : Bool := Text.sameLetters name contentType

def header? (h : Fields) (name : String) : Option (List String) :=
  (h.find? fun e => Text.sameLetters e.1 name).map Prod.snd

def contentType? (h : Fields) : Option String :=
  h.findSome? fun e => if isContentType e.1 then e.2.head? else none

end Fields

structure Request where
  method : String
  path : String
  query : Fields
  headers : Fields
  body : Body
  rules : RuleSet
  generators : GeneratorSet
  deriving DecidableEq

/-- The status is any value; a document asks for an integer. -/
structure Response where
  status : Value
  headers : Fields
  body : Body
  rules : RuleSet
  generators : GeneratorSet

abbrev DrawTable := Place → String → Draws

namespace GeneratorSet

def fill (s : GeneratorSet) (place : Place) (draws : DrawTable) (context : Generator.Context)
    (fields : Fields) : Result Fields :=
  (s.forPlace place).foldlM (fun fields e => do
    match ← e.2.generate (draws place e.1) context with
    | .null => return fields
    | v => return Keyed.put fields e.1 [← v.plainText]) fields

end GeneratorSet

namespace Request

def ofParts (method path : String) (query headers : Fields) (body : Body) (rules : RuleSet)
    (generators : GeneratorSet) : Request :=
  ⟨Text.upperText method, path, query, headers, body, rules, generators⟩

/-- The last generated path counts. -/
def fillPath (r : Request) (draws : DrawTable) (context : Generator.Context) : Result String :=
  (r.generators.forPlace .path).foldlM (fun path e => do
    match ← e.2.generate (draws .path e.1) context with
    | .null => return path
    | v => v.plainText) r.path

def generated (r : Request) (draws : DrawTable) (context : Generator.Context) : Result Request := do
  let headers ← r.generators.fill .header draws context r.headers
  let query ← r.generators.fill .query draws context r.query
  let path ← r.fillPath draws context
  return { r with path := path, query := query, headers := headers }

end Request

namespace Response

def header? (r : Response) (name : String) : Option (List String) := r.headers.header? name

/-- The last generated status counts; it has to be an integer, or be read as one. -/
def fillStatus (r : Response) (draws : DrawTable) (context : Generator.Context) : Result Value :=
  (r.generators.forPlace .status).foldlM (fun status e => do
    match ← e.2.generate (draws .status e.1) context with
    | .null => return status
    | v => Value.int <$> DataKind.toInteger v) r.status

def generated (r : Response) (draws : DrawTable) (context : Generator.Context) :
    Result Response := do
  let headers ← r.generators.fill .header draws context r.headers
  let status ← r.fillStatus draws context
  return { r with status := status, headers := headers }

end Response

end HttpContract
