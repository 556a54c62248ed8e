import HttpContract.Error
import HttpContract.Value.Equality

/-!
What a value is made of when it is gone through from the front, and what can be made of values that
way: maps of pairs, and bytes of numbers.
-/
namespace HttpContract.Value

def members? : Value → Option (List Value)
  | list items | tuple items => some items
  | text s => some (s.toList.map fun c => text (String.singleton c))
  | bytes b => some (b.map fun n => int n.toNat)
  | map entries => some (entries.map Prod.fst)
  | element e => some (e.children.map element)
  | _ => none

def toPair (v : Value) : Result (Value × Value) :=
  match v.members? with
  | some [k, v] => .ok (k, v)
  | some _ => .error .unusableValue
  | none => .error .unsuitableType

def entriesOfPairs (items : List Value) : Result (List (Value × Value)) :=
  items.foldlM (fun entries item => do
    let (k, v) ← item.toPair
    if isKey k then return putEntry entries k v else throw .unsuitableType) []

/-- The entries of a map, or of its pairs. The attributes of an element are found by number only, so
that one with attributes is no map. -/
def toEntries : Value → Result (List (Value × Value))
  | map entries => .ok entries
  | element e => if e.attributes.isEmpty then .ok [] else .error .unsuitableType
  | v =>
    match v.members? with
    | some items => entriesOfPairs items
    | none => .error .unsuitableType

def toByte : Value → Result UInt8
  | int n => if 0 ≤ n ∧ n < 256 then .ok (UInt8.ofNat n.toNat) else .error .unusableValue
  | bool b => .ok (if b then 1 else 0)
  | _ => .error .unsuitableType

def zeroBytes (n : Int) : Result (List UInt8) :=
  if n < -(Nat.pow 2 63 : Int) ∨ (Nat.pow 2 63 : Int) ≤ n then .error .tooLarge
  else if n < 0 then .error .unusableValue
  else .ok (List.replicate n.toNat 0)

/-- Bytes as they are, as many zeros as a number tells, or the numbers below 256 that a value is
made of. -/
def toBytes : Value → Result (List UInt8)
  | bytes b => .ok b
  | text _ => .error .unsuitableType
  | int n => zeroBytes n
  | bool b => zeroBytes (if b then 1 else 0)
  | v =>
    match v.members? with
    | some items => items.mapM toByte
    | none => .error .unsuitableType

end HttpContract.Value
