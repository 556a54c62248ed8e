import HttpContract.MediaType
import HttpContract.Number.Decimal
import HttpContract.Number.Integer
import HttpContract.Number.Real64

/-!
The values that bodies, provider states and comparisons are made of: JSON values, and beside them
decimal numbers, bytes, tuples, maps with keys of any kind, XML elements and media types. A value of
any other kind is known by the name of its type only.
-/
namespace HttpContract

mutual

inductive Value
  | null
  | bool (b : Bool)
  | int (n : Int)
  | real (x : Number.Real64)
  | decimal (d : Number.Decimal)
  | text (s : String)
  | bytes (b : List UInt8)
  | list (items : List Value)
  | tuple (items : List Value)
  | map (entries : List (Value × Value))
  | element (e : Element)
  | mediaType (m : MediaType)
  | foreign (typeName : String)

/-- An XML element: `text` stands before its children and `tail` after its end. -/
inductive Element
  | mk (tag : String) (attributes : List (String × Value)) (text tail : Option String)
      (children : List Element)

end

instance : Inhabited Value := ⟨.null⟩
instance : Inhabited Element := ⟨.mk "" [] none none []⟩

namespace Element

def tag : Element → String
  | mk tag _ _ _ _ => tag

def attributes : Element → List (String × Value)
  | mk _ attributes _ _ _ => attributes

def text : Element → Option String
  | mk _ _ text _ _ => text

def tail : Element → Option String
  | mk _ _ _ tail _ => tail

def children : Element → List Element
  | mk _ _ _ _ children => children

def ofTag (tag : String) : Element := mk tag [] none none []

def setAttribute : Element → String → Value → Element
  | mk tag attributes text tail children, name, value =>
    mk tag (Keyed.put attributes name value) text tail children

def setText : Element → String → Element
  | mk tag attributes _ tail children, text => mk tag attributes (some text) tail children

def append : Element → Element → Element
  | mk tag attributes text tail children, child =>
    mk tag attributes text tail (children ++ [child])

end Element

namespace Value

def map? : Value → Option (List (Value × Value))
  | map entries => some entries
  | _ => none

def isCollection : Value → Bool
  | list _ | tuple _ | map _ => true
  | _ => false

def isNumber : Value → Bool
  | int _ | real _ | decimal _ => true
  | _ => false

def size? : Value → Option Nat
  | list items | tuple items => some items.length
  | element e => some e.children.length
  | _ => none

def isTrue : Value → Bool
  | null => false
  | bool b => b
  | int n => n != 0
  | real x => !x.isZero
  | decimal d => !d.isZero
  | text s => s != ""
  | bytes b => !b.isEmpty
  | list items | tuple items => !items.isEmpty
  | map entries => !entries.isEmpty
  | element e => !e.children.isEmpty
  | mediaType _ | foreign _ => true

def ofText? (s : Option String) : Value :=
  match s with
  | some s => text s
  | none => null

def record (entries : List (String × Value)) : Value := map (entries.map fun e => (text e.1, e.2))

def lookup (entries : List (Value × Value)) (key : String) : Option Value :=
  match entries with
  | [] => none
  | (text k, v) :: rest => if k = key then some v else lookup rest key
  | _ :: rest => lookup rest key

theorem lookup_record (entries : Keyed String Value) (key : String) :
    lookup (entries.map fun e => (text e.1, e.2)) key = Keyed.get? entries key := by
  induction entries with
  | nil => rfl
  | cons e entries ih =>
    simp only [List.map_cons, lookup, Keyed.get?]
    split
    · rfl
    · exact ih

mutual

/-- Media types are not copied, and what holds one is not either. -/
def isCopyable : Value → Bool
  | list items | tuple items => areCopyable items
  | map entries => entriesCopyable entries
  | element e => elementCopyable e
  | mediaType _ => false
  | _ => true

def areCopyable : List Value → Bool
  | [] => true
  | v :: rest => isCopyable v && areCopyable rest

def entriesCopyable : List (Value × Value) → Bool
  | [] => true
  | (k, v) :: rest => isCopyable k && isCopyable v && entriesCopyable rest

def attributesCopyable : List (String × Value) → Bool
  | [] => true
  | (_, v) :: rest => isCopyable v && attributesCopyable rest

def elementCopyable : Element → Bool
  | .mk _ attributes _ _ children => attributesCopyable attributes && elementsCopyable children

def elementsCopyable : List Element → Bool
  | [] => true
  | e :: rest => elementCopyable e && elementsCopyable rest

end

end Value

end HttpContract
