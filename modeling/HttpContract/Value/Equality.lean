import HttpContract.Value

/-!
Equality of values. Numbers compare by value whatever their type, and truth values count as 0 and 1;
lists and tuples compare member by member; maps compare by their entries in any order. Two values are
always two objects here: an element, or a value of no known type, is equal to no other one, and a
number that is not equal to itself makes a difference inside a list too.
-/
namespace HttpContract

namespace Number

/-- A number by its value alone: finite ones as a coefficient that ends in no zero, times a power of
ten. Every binary fraction has such a form. -/
inductive Form
  | nan
  | signaling
  | infinite (negative : Bool)
  | finite (negative : Bool) (coefficient : Nat) (exponent : Int)
  deriving DecidableEq

def dropZeros (steps n : Nat) (exponent : Int) : Nat × Int :=
  match steps with
  | 0 => (n, exponent)
  | steps + 1 =>
    if n % 10 = 0 then dropZeros steps (n / 10) (exponent + 1) else (n, exponent)

def Form.ofPower (negative : Bool) (coefficient : Nat) (exponent : Int) : Form :=
  if coefficient = 0 then .finite false 0 0
  else
    let (c, e) := dropZeros (Nat.log2 coefficient) coefficient exponent
    .finite negative c e

def Real64.form : Real64 → Form
  | .nan => .nan
  | .infinite negative => .infinite negative
  | .finite negative m e =>
    if 0 ≤ e then .ofPower negative (m * Nat.pow 2 e.toNat) 0
    else .ofPower negative (m * Nat.pow 5 (-e).toNat) e

def Decimal.form : Decimal → Form
  | .nan _ signaling _ => if signaling then .signaling else .nan
  | .infinite negative => .infinite negative
  | .finite negative c e => .ofPower negative c e

def intForm (n : Int) : Form := .ofPower (n < 0) n.natAbs 0

/-- A signaling number refuses to be compared; nothing else that is not a number is equal to
anything. -/
def Form.equal : Form → Form → Result Bool
  | .signaling, _ | _, .signaling => .error .undefinedDecimal
  | .nan, _ | _, .nan => .ok false
  | a, b => .ok (a = b)

end Number

namespace Value

def numberForm? : Value → Option Number.Form
  | bool b => some (Number.intForm (if b then 1 else 0))
  | int n => some (Number.intForm n)
  | real x => some x.form
  | decimal d => some d.form
  | _ => none

mutual

def equal : Value → Value → Result Bool
  | list a, list b => if a.length = b.length then equalItems a b else .ok false
  | tuple a, tuple b => equalItems a b
  | map a, map b => if a.length = b.length then equalEntries a b else .ok false
  | null, null => .ok true
  | text a, text b => .ok (a = b)
  | bytes a, bytes b => .ok (a = b)
  | mediaType a, mediaType b =>
    .ok (a.text = b.text ∧ a.essence = b.essence ∧ Keyed.sameEntries a.parameters b.parameters)
  | a, b =>
    match numberForm? a, numberForm? b with
    | some x, some y => x.equal y
    | _, _ => .ok false

def equalItems : List Value → List Value → Result Bool
  | [], [] => .ok true
  | a :: as, b :: bs => do if ← equal a b then equalItems as bs else return false
  | _, _ => .ok false

/-- Each entry of the first map has to have its match in the second. -/
def equalEntries : List (Value × Value) → List (Value × Value) → Result Bool
  | [], _ => .ok true
  | (k, v) :: rest, b => do
    match b.find? fun e => match equal k e.1 with | .ok same => same | .error _ => false with
    | some e => if ← equal v e.2 then equalEntries rest b else return false
    | none => return false

end

/-- Equality where the answer is known; a comparison that is refused counts as a difference. -/
def same (a b : Value) : Bool :=
  match equal a b with
  | .ok answer => answer
  | .error _ => false

mutual

/-- Keys of a map: lists, maps and media types cannot be one, nor can what holds one. -/
def isKey : Value → Bool
  | list _ | map _ | mediaType _ => false
  | tuple items => areKeys items
  | decimal d => !d.isSignaling
  | _ => true

def areKeys : List Value → Bool
  | [] => true
  | v :: rest => isKey v && areKeys rest

end

/-- Equal keys are one key: it keeps its place and its first form and takes the new value. -/
def putEntry : List (Value × Value) → Value → Value → List (Value × Value)
  | [], key, value => [(key, value)]
  | (k, v) :: rest, key, value =>
    if same k key then (k, value) :: rest else (k, v) :: putEntry rest key value

def ofEntries (entries : List (Value × Value)) : Result Value :=
  if entries.all fun e => isKey e.1 then
    .ok (map (entries.foldl (fun m e => putEntry m e.1 e.2) []))
  else .error .unsuitableType

end Value

end HttpContract
