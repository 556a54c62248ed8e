import HttpContract.Expression
import HttpContract.Keyed
import HttpContract.Regex.Use
import HttpContract.Value.Equality

/-!
Generators of values that are only known when a contract is verified: taken from a provider state,
or left to chance.
-/
namespace HttpContract

inductive DataKind
  | raw
  | text
  | integer
  | decimal
  | real
  | truth
  deriving DecidableEq

namespace DataKind

def name : DataKind → String
  | raw => "RAW"
  | text => "STRING"
  | integer => "INTEGER"
  | decimal => "DECIMAL"
  | real => "FLOAT"
  | truth => "BOOLEAN"

def ofName? (s : String) : Option DataKind :=
  [raw, text, integer, decimal, real, truth].find? fun k => k.name == s

def numeralOf (bytes : List UInt8) : Option (List Char) :=
  if bytes.all fun b => b.toNat < 0x80 then some (bytes.map fun b => Char.ofNat b.toNat) else none

def usable {α : Type} : Option α → Result α
  | some a => .ok a
  | none => .error .unusableValue

def toInteger : Value → Result Int
  | .bool b => .ok (if b then 1 else 0)
  | .int n => .ok n
  | .real (.infinite _) => .error .tooLarge
  | .real x => usable x.truncate
  | .decimal (.infinite _) => .error .tooLarge
  | .decimal d => usable d.truncate
  | .text s => usable (Number.readInteger s.toList)
  | .bytes b => usable ((numeralOf b).bind Number.readInteger)
  | _ => .error .unsuitableType

def toDecimal (v : Value) : Result Number.Decimal := do
  match Number.Decimal.read (← v.plain) with
  | some d => return d
  | none => throw .undefinedDecimal

def realOfDecimal (d : Number.Decimal) : Result Number.Real64 :=
  if d.isSignaling then .error .unusableValue
  else match d with
    | .finite negative c e => .ok (.ofScientific negative ⟨c, e⟩)
    | .infinite negative => .ok (.infinite negative)
    | .nan _ _ _ => .ok .nan

def realOfInt (n : Int) : Result Number.Real64 :=
  match Number.Real64.ofInt n with
  | .infinite _ => .error .tooLarge
  | x => .ok x

def toReal : Value → Result Number.Real64
  | .bool b => .ok (.ofInt (if b then 1 else 0))
  | .int n => realOfInt n
  | .real x => .ok x
  | .decimal d => realOfDecimal d
  | .text s => usable (Number.Real64.read s.toList)
  | .bytes b => usable ((numeralOf b).bind Number.Real64.read)
  | _ => .error .unsuitableType

def toTruth : Value → Bool
  | .text s => Text.lower (Text.trim s.toList) == "true".toList
  | v => v.isTrue

def convert (kind : DataKind) (v : Value) : Result Value :=
  match v, kind with
  | .null, _ => .ok .null
  | v, raw => .ok v
  | v, text => Value.text <$> v.plainText
  | v, integer => Value.int <$> toInteger v
  | v, decimal => Value.decimal <$> toDecimal v
  | v, real => Value.real <$> toReal v
  | v, truth => .ok (.bool (toTruth v))

end DataKind

inductive Generator
  /-- A generator of no kind in particular, which generates nothing. -/
  | unspecified
  | providerState (expression : String) (kind : DataKind)
  | randomString (size : Int)
  | randomInt (min max : Int)
  | randomDecimal (digits : Int)
  | randomBoolean
  | regex (pattern : String)
  | uuid
  deriving DecidableEq

inductive GeneratorKind
  | unspecified
  | providerState
  | randomString
  | randomInt
  | randomDecimal
  | randomBoolean
  | regex
  | uuid
  deriving DecidableEq

namespace Generator

def kind : Generator → GeneratorKind
  | unspecified => .unspecified
  | providerState _ _ => .providerState
  | randomString _ => .randomString
  | randomInt _ _ => .randomInt
  | randomDecimal _ => .randomDecimal
  | randomBoolean => .randomBoolean
  | regex _ => .regex
  | uuid => .uuid

def parameters : Generator → List Value
  | unspecified | randomBoolean | uuid => []
  | providerState expression kind => [.text expression, .text kind.name]
  | randomString n | randomDecimal n => [.int n]
  | randomInt min max => [.int min, .int max]
  | regex pattern => [.text pattern]

def greatestInt : Int := 2147483647

def fields : Generator → List (String × Value)
  | unspecified => [("type", .text "")]
  | providerState expression kind =>
    [("type", .text "ProviderState"), ("expression", .text expression),
      ("dataType", .text kind.name)]
  | randomString size => [("type", .text "RandomString"), ("size", .int size)]
  | randomInt min max => [("type", .text "RandomInt"), ("min", .int min), ("max", .int max)]
  | randomDecimal digits => [("type", .text "RandomDecimal"), ("digits", .int digits)]
  | randomBoolean => [("type", .text "RandomBoolean")]
  | regex pattern => [("type", .text "Regex"), ("regex", .text pattern)]
  | uuid => [("type", .text "Uuid")]

def document (g : Generator) : Value := .record g.fields

abbrev Context := List (Value × Value)

def alphabet : List Char :=
  "abcdefghijklmnopqrstuvwxyzABCDEFGHIJKLMNOPQRSTUVWXYZ0123456789".toList

/-- `n` digits, and a point after at least one of them, followed by at least one. -/
def drawDecimal (d : Draws) (n : Nat) : Number.Decimal :=
  let digits := (List.range n).map fun i => Char.ofNat (0x30 + d.below i 10)
  let point := d.below n (max (n - 1) 1) + 1
  let fraction := if digits.length ≤ point then ['0'] else digits.drop point
  .finite false (Number.ofDigits (digits.take point ++ fraction)) (-(fraction.length : Int))

def drawUuid (d : Draws) : List Char :=
  let digits (first n : Nat) := (List.range n).map fun i => Text.hexDigit (d.below (first + i) 16)
  digits 0 8 ++ '-' :: digits 8 4 ++ '-' :: '4' :: digits 12 3 ++ '-'
    :: Text.hexDigit (8 + d.below 15 4) :: digits 16 3 ++ '-' :: digits 20 12

/-- The value generated in this context; nothing if it lacks a provider state. -/
def generate (d : Draws) (context : Context) : Generator → Result Value
  | unspecified => .error .unspecifiedGenerator
  | providerState expression kind =>
    match Value.lookup context "providerState" with
    | some (.map values) => do
      let v ← Expression.eval expression values
      kind.convert v
    | _ => .ok .null
  | randomString size =>
    .ok (.text (String.ofList
      ((List.range size.toNat).map fun i => d.among i alphabet 'a')))
  | randomInt min max =>
    if max < min then .error .unusableValue
    else .ok (.int (min + d.below 0 (max - min + 1).toNat))
  | randomDecimal digits => .ok (.decimal (drawDecimal d digits.toNat))
  | randomBoolean => .ok (.bool (d.below 0 2 = 0))
  | regex pattern => Value.text <$> Regex.sample d [] pattern
  | uuid => .ok (.text (String.ofList (drawUuid d)))

def isUuid (s : List Char) : Bool :=
  let groups := Text.splitAt '-' s
  groups.map List.length == [8, 4, 4, 4, 12] && s[14]? == some '4'
    && ['8', '9', 'a', 'b'].contains (s.getD 19 ' ')
    && groups.all fun g => g.all fun c => (Text.hexDigit? c).isSome && !c.isUpper

def admits : Generator → Value → Result Bool
  | unspecified, _ => .ok false
  | providerState _ _, _ => .ok true
  | randomString size, .text s =>
    .ok (s.length == size.toNat && s.toList.all fun c => alphabet.contains c)
  | randomInt min max, .int n => .ok (min ≤ n && n ≤ max)
  | randomDecimal digits, .decimal (.finite negative c e) =>
    .ok (1 ≤ -e && -e ≤ max (digits - 1) 1 && !negative
      && c < Nat.pow 10 ((max (digits + e) 1).toNat + (-e).toNat))
  | randomBoolean, .bool _ => .ok true
  | regex pattern, .text s => Regex.fullMatch pattern s.toList
  | uuid, .text s => .ok (isUuid s.toList)
  | _, _ => .ok false

end Generator

namespace GeneratorKind

def providerStateOf (expression kind : String) : Result Generator :=
  match DataKind.ofName? kind with
  | some kind => .ok (.providerState expression kind)
  | none => .error .unusableValue

def generator : GeneratorKind → List Value → Result Generator
  | unspecified, [] => .ok .unspecified
  | providerState, [.text expression] => .ok (.providerState expression .raw)
  | providerState, [.text expression, .text kind] => providerStateOf expression kind
  | randomString, [] => .ok (.randomString 10)
  | randomString, [.int n] => .ok (.randomString n)
  | randomInt, [] => .ok (.randomInt 0 Generator.greatestInt)
  | randomInt, [.int min] => .ok (.randomInt min Generator.greatestInt)
  | randomInt, [.int min, .int max] => .ok (.randomInt min max)
  | randomDecimal, [] => .ok (.randomDecimal 10)
  | randomDecimal, [.int n] => .ok (.randomDecimal n)
  | randomBoolean, [] => .ok .randomBoolean
  | regex, [.text pattern] => .ok (.regex pattern)
  | uuid, [] => .ok .uuid
  | _, _ => .error .unsuitableType

/-- A generator is given back by its kind and its parameters. -/
theorem generator_parameters (g : Generator) : g.kind.generator g.parameters = .ok g := by
  cases g with
  | providerState expression kind => cases kind <;> rfl
  | _ => rfl

end GeneratorKind

inductive Place
  | method
  | path
  | header
  | query
  | body
  | status
  | metadata
  deriving DecidableEq

namespace Place

def name : Place → String
  | method => "method"
  | path => "path"
  | header => "header"
  | query => "query"
  | body => "body"
  | status => "status"
  | metadata => "metadata"

def ofName? (s : String) : Option Place :=
  [method, path, header, query, body, status, metadata].find? fun p => p.name == s

end Place

abbrev GeneratorSet := Keyed Place (Keyed String Generator)

namespace GeneratorSet

def forPlace (s : GeneratorSet) (place : Place) : Keyed String Generator :=
  (Keyed.get? s place).getD []

def add (s : GeneratorSet) (place : Place) (key : String) (g : Generator) : GeneratorSet :=
  Keyed.put s place (Keyed.put (s.forPlace place) key g)

def addAll (s : GeneratorSet) (place : Place) (entries : Keyed String Generator) : GeneratorSet :=
  entries.foldl (fun s e => add s place e.1 e.2) s

def merge (s other : GeneratorSet) : GeneratorSet :=
  other.foldl (fun s e => addAll s e.1 e.2) s

theorem forPlace_add (s : GeneratorSet) (place other : Place) (key : String) (g : Generator) :
    (s.add place key g).forPlace other =
      if place = other then Keyed.put (s.forPlace place) key g else s.forPlace other := by
  unfold add
  rw [forPlace, Keyed.get?_put]
  split <;> rfl

theorem forPlace_addAll (s : GeneratorSet) (place : Place) (entries : Keyed String Generator) :
    (s.addAll place entries).forPlace place = Keyed.putAll (s.forPlace place) entries := by
  induction entries generalizing s with
  | nil => rfl
  | cons e rest ih =>
    refine (ih (s.add place e.1 e.2)).trans ?_
    rw [forPlace_add, if_pos rfl]
    rfl

theorem forPlace_addAll_of_ne (s : GeneratorSet) {place other : Place}
    (entries : Keyed String Generator) (h : place ≠ other) :
    (s.addAll place entries).forPlace other = s.forPlace other := by
  induction entries generalizing s with
  | nil => rfl
  | cons e rest ih =>
    refine (ih (s.add place e.1 e.2)).trans ?_
    rw [forPlace_add, if_neg h]

def isEmpty (s : GeneratorSet) : Bool := s.all fun e => e.2.isEmpty

/-- A place whose only key is empty is not keyed in a document; an empty place is left out. -/
def document (s : GeneratorSet) : Value :=
  .record (s.filterMap fun e =>
    match e.2 with
    | [] => none
    | [("", g)] => some (e.1.name, g.document)
    | entries => some (e.1.name, .record (entries.map fun f => (f.1, f.2.document))))

def same (s t : GeneratorSet) : Bool :=
  s.length == t.length && s.all fun e =>
    match Keyed.get? t e.1 with
    | some entries => Keyed.sameEntries e.2 entries
    | none => false

end GeneratorSet

end HttpContract
