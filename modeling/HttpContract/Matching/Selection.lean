import HttpContract.Matching.Comparison
import HttpContract.Path

/-!
Which rules of a category apply to a path, and which of them count. In bodies a key is a path
expression and applies to everything below the place it names; the most specific one counts, of
equals the first. Headers, query parameters and metadata are looked up by name. All rules of any
other category apply.
-/
namespace HttpContract.RuleSet

def sameKey (category key item : String) : Bool :=
  if category = "header" then Text.sameLetters key item else key = item

def isKeyed (category : String) : Bool := ["header", "query", "metadata"].contains category

def applies (category : String) (path : List String) (key : String) : Result Bool :=
  if category = "body" then do
    let tokens ← Path.parse key
    let n ← Path.matchLength tokens path
    return 0 < n
  else if isKeyed category then .ok (path.all (sameKey category key))
  else .ok true

def applicable (s : RuleSet) (category : String) (path : List String) : Result RuleGroups :=
  (s.category category).filterM fun e => applies category path e.1

def isDefined (s : RuleSet) (category : String) (path : List String) : Result Bool := do
  let groups ← s.applicable category path
  return !groups.isEmpty

/-- How specific a key is: by the weight of its tokens, then by its length. -/
def rank (path : List String) (key : String) : Result (Nat × Nat) := do
  let tokens ← Path.parse key
  let w ← Path.totalWeight tokens path
  return (w, key.length)

def isAbove (a b : Nat × Nat) : Bool := b.1 < a.1 || b.1 = a.1 && b.2 < a.2

/-- The entry of the highest rank, the first of equals; `top` is the highest so far. -/
def highest {α : Type} (top : α × (Nat × Nat)) : List (α × (Nat × Nat)) → α
  | [] => top.1
  | e :: rest => highest (if isAbove e.2 top.2 then e else top) rest

def best (s : RuleSet) (category : String) (path : List String) : Result (Option RuleGroup) := do
  match ← s.applicable category path with
  | [] => return none
  | first :: rest =>
    if category = "body" then
      let ranked ← (first :: rest).mapM fun e => do return (e.2, ← rank path e.1)
      match ranked with
      | [] => return none
      | top :: others => return some (highest top others)
    else return some first.2

def compare (s : RuleSet) (category : String) (path : List String) (expected actual : Value) :
    Result (List Mismatch) := do
  match ← s.best category path with
  | some group => group.check path expected actual
  | none => Comparison.equality path expected actual

end HttpContract.RuleSet
