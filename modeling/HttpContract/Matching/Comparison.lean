import HttpContract.Calendar.Moment
import HttpContract.Regex.Use
import HttpContract.Rule
import HttpContract.Value.Text

/-!
Comparing an actual value with an expected one by a rule, or by the rules of a group. What does not
agree is told by mismatches; a comparison fails only if the rule itself cannot be used, or if a
value cannot be written down.
-/
namespace HttpContract

structure Mismatch where
  expected : Value
  actual : Value
  message : String
  path : List String

namespace Comparison

abbrev Outcome := Result (List Mismatch)

def mismatch (path : List String) (expected actual : Value) (message : String) : Outcome :=
  .ok [⟨expected, actual, message, path⟩]

/-- Elements are compared by their tags, and truth values with nothing but each other. -/
def agrees : Value → Value → Result Bool
  | .element e, .element a => .ok (e.tag = a.tag)
  | .bool e, .bool a => .ok (e = a)
  | .bool _, _ | _, .bool _ => .ok false
  | e, a => Value.equal e a

def equality (path : List String) (expected actual : Value) : Outcome := do
  let same ← agrees expected actual
  let a ← actual.described
  let e ← expected.described
  if same then return []
  mismatch path expected actual ("Expected " ++ a ++ " to equal " ++ e)

def areContainers : Value → Value → Bool
  | .list _, .list _ | .list _, .tuple _ | .tuple _, .list _ | .tuple _, .tuple _
  | .map _, .map _ => true
  | _, _ => false

def regex (pattern : String) (path : List String) (expected actual : Value) : Outcome := do
  let text ← actual.content
  let matched ← Regex.fullMatch pattern text
  let a ← actual.described
  if matched || areContainers expected actual then return []
  mismatch path expected actual ("Expected " ++ a ++ " to match '" ++ pattern ++ "'")

/-- Numbers of all kinds are of one type, and so are lists and tuples; elements are of one type if
their tags are equal. -/
def sameType : Value → Value → Bool
  | .text _, .text _ => true
  | .bool _, .bool _ => true
  | .element e, .element a => e.tag = a.tag
  | e, a => e.isNumber && a.isNumber || areContainers e a

def type (path : List String) (expected actual : Value) : Outcome := do
  let a ← actual.described
  let e ← expected.described
  if sameType expected actual then return []
  match expected, actual with
  | .null, .null => return []
  | .null, _ => mismatch path expected actual ("Expected " ++ a ++ " to be null")
  | _, _ =>
    mismatch path expected actual
      ("Expected " ++ a ++ " (" ++ actual.describedType ++ ") to be the same type as " ++ e ++ " ("
        ++ expected.describedType ++ ")")

def withoutLineEnd (s : List Char) : List Char :=
  if s.getLast? = some '\n' then s.dropLast else s

def isNumeral (s : List Char) : Bool := !s.isEmpty && s.all Text.isDecimalDigit

def isDecimalNumeral (s : List Char) : Bool :=
  s == ['0'] ||
    match Text.cutAt '.' s with
    | (whole, some fraction) => isNumeral whole && fraction.all Text.isDecimalDigit
    | _ => false

def elementText (e : Element) : List Char := withoutLineEnd (e.text.getD "").toList

def isInteger : Value → Result Bool
  | .int _ => .ok true
  | .decimal d => if d.isSignaling then .error .undefinedDecimal else .ok d.isWhole
  | .element e => .ok (isNumeral (elementText e))
  | _ => .ok false

/-- Of the decimal numbers, zero and those that are written with a fraction. -/
def isDecimal : Value → Result Bool
  | .int n => .ok (n = 0)
  | .real _ => .ok true
  | .decimal (.finite _ c e) => .ok (c = 0 || e < 0)
  | .decimal d => .error (if d.isSignaling then .undefinedDecimal else .unsuitableType)
  | .element e => .ok (isDecimalNumeral (elementText e))
  | _ => .ok false

def isAnyNumber : Value → Bool
  | .element e => isDecimalNumeral (elementText e)
  | v => v.isNumber

def isOfKind (v : Value) : NumberKind → Result Bool
  | .number => .ok (isAnyNumber v)
  | .integer => isInteger v
  | .decimal => isDecimal v

def kindName : NumberKind → String
  | .number => "a number"
  | .integer => "an integer"
  | .decimal => "a decimal number"

def number (kind : NumberKind) (path : List String) (expected actual : Value) : Outcome := do
  let a ← actual.described
  match expected, actual with
  | .null, .null => pure ()
  | .null, _ => return ← mismatch path expected actual ("Expected " ++ a ++ " to be null")
  | _, _ => pure ()
  if ← isOfKind actual kind then return []
  mismatch path expected actual
    ("Expected " ++ a ++ " (" ++ actual.describedType ++ ") to be " ++ kindName kind)

def inclusion (part : String) (path : List String) (expected actual : Value) : Outcome := do
  let text ← actual.content
  let a ← actual.described
  if Text.contains text part.toList then return []
  mismatch path expected actual ("Expected " ++ a ++ " to include '" ++ part ++ "'")

def null (path : List String) (actual : Value) : Outcome := do
  let a ← actual.described
  match actual with
  | .null => return []
  | _ => mismatch path .null actual ("Expected " ++ a ++ " to be null")

def moment (kind format : String) (path : List String) (expected actual : Value) : Outcome := do
  let a ← actual.described
  if actual.isCollection then return []
  let text ← actual.content
  match Calendar.Moment.read format.toList text with
  | .ok _ => return []
  | .error .repeatedDirective => throw .invalidRegex
  | .error fault =>
    mismatch path expected actual
      ("Expected " ++ a ++ " to match a " ++ kind ++ " of '" ++ format ++ "': "
        ++ fault.message format (String.ofList text))

inductive Bound
  | least (n : Int)
  | greatest (n : Int)

def Bound.allows (size : Nat) : Bound → Bool
  | least n => n ≤ size
  | greatest n => size ≤ n

def Bound.text : Bound → Result String
  | least n => do return "minimum " ++ String.ofList (← Value.integerShown n)
  | greatest n => do return "maximum " ++ String.ofList (← Value.integerShown n)

def size (bound : Bound) (otherwise : List String → Value → Value → Outcome)
    (path : List String) (expected actual : Value) : Outcome :=
  match actual.size? with
  | none => otherwise path expected actual
  | some n =>
    if bound.allows n then .ok []
    else do
      let a ← actual.described
      mismatch path expected actual ("Expected " ++ a ++ " to have " ++ (← bound.text))

def sizedType (bound : Bound) (path : List String) (expected actual : Value) : Outcome := do
  let _ ← actual.described
  size bound type path expected actual

def sizedEquality (bound : Bound) (path : List String) (expected actual : Value) : Outcome :=
  size bound equality path expected actual

/-- Sequences are compared by their sizes, anything else by equality. -/
def ignoreOrder (path : List String) (expected actual : Value) : Outcome := do
  let a ← actual.described
  let _ ← expected.described
  -- Nothing looks at the members: two lists of one size are alike.
  match expected.size?, actual.size? with
  | some m, some n =>
    if m = n then return []
    mismatch path expected actual ("Expected " ++ a ++ " to have " ++ toString m ++ " elements")
  | _, _ => equality path expected actual

def mediaType? : Value → Result (Option MediaType)
  | .null => .ok none
  | .mediaType m => .ok (some m)
  | .text s =>
    match MediaType.ofText s with
    | .ok m => .ok (some m)
    | .error .unusableValue => .error .unusableValue
    | .error _ => .ok none
  | v => do
    let _ ← v.shown
    return none

def content (mediaType : String) (path : List String) (actual : Value) : Outcome := do
  let wanted ← MediaType.ofText mediaType
  let found ← mediaType? actual
  if found.map MediaType.essence = some wanted.essence then return []
  let a ← actual.plainText
  mismatch path (.text mediaType) actual
    ("Expected binary contents to have content type '" ++ mediaType ++ "' but received '" ++ a
      ++ "'")

end Comparison

def Rule.check (rule : Rule) (path : List String) (expected actual : Value) :
    Result (List Mismatch) :=
  match rule with
  | .regex pattern _ => Comparison.regex pattern path expected actual
  | .type => Comparison.type path expected actual
  | .minType min => Comparison.sizedType (.least min) path expected actual
  | .maxType max => Comparison.sizedType (.greatest max) path expected actual
  | .minMaxType min max => do
    let low ← Comparison.sizedType (.least min) path expected actual
    let high ← Comparison.sizedType (.greatest max) path expected actual
    return low ++ high
  | .number kind => Comparison.number kind path expected actual
  | .include part => Comparison.inclusion part path expected actual
  | .null => Comparison.null path actual
  | .equality | .unspecified => Comparison.equality path expected actual
  | .ignoreOrder => Comparison.ignoreOrder path expected actual
  | .minIgnoreOrder min => Comparison.sizedEquality (.least min) path expected actual
  | .maxIgnoreOrder max => Comparison.sizedEquality (.greatest max) path expected actual
  | .minMaxIgnoreOrder min max => do
    let low ← Comparison.sizedEquality (.least min) path expected actual
    let high ← Comparison.sizedEquality (.greatest max) path expected actual
    return low ++ high
  | .mediaType text => Comparison.content text path actual
  | .date format => Comparison.moment "date" format path expected actual
  | .time format => Comparison.moment "time" format path expected actual
  | .timestamp format => Comparison.moment "datetime" format path expected actual

/-- Every rule is tried. Where one is enough, a rule without mismatches settles it. -/
def RuleGroup.check (g : RuleGroup) (path : List String) (expected actual : Value) :
    Result (List Mismatch) := do
  let results ← g.rules.mapM fun rule => rule.check path expected actual
  if g.logic = .any && results.any List.isEmpty then return [] else return results.flatten

end HttpContract
