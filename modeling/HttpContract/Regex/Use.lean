import HttpContract.Error
import HttpContract.Regex.Parser
import HttpContract.Regex.Sample

/-!
Regular expressions by their text: does a text match as a whole, and what text is made after one.
-/
namespace HttpContract.Regex

def SyntaxFault.error : SyntaxFault → Error
  | .invalid => .invalidRegex
  | .tooLarge => .tooLarge
  | .incompatible | .longBound => .unusableValue

def SampleFault.error : SampleFault → Error
  | .unsupported => .unsampledPattern
  | .noCandidate => .emptyPatternSet
  | .endless => .unusableValue

def read (pattern : String) : Result Pattern := (Pattern.parse pattern.toList).mapError (·.error)

def compile (pattern : String) : Result Pattern := do
  let p ← read pattern
  if p.usable then return p else throw .invalidRegex

def fullMatch (pattern : String) (s : List Char) : Result Bool := do
  let p ← compile pattern
  return p.matchesAll s

def sample (d : Draws) (left : GroupTexts) (pattern : String) : Result String := do
  let p ← read pattern
  let s ← (p.sample d left).1.mapError SampleFault.error
  return String.ofList s

def leftAfter (d : Draws) (left : GroupTexts) (pattern : String) : GroupTexts :=
  match read pattern with
  | .ok p => (p.sample d left).2
  | .error _ => left

/-- What makes examples: the text after a pattern, given the patterns it was asked for before. -/
abbrev Maker := List String → String → Result String

/-- Texts made one after the other, each by a supply of its own. -/
def maker (supply : Nat → Draws) : Maker := fun asked pattern =>
  let left := asked.zipIdx.foldl (fun left e => leftAfter (supply e.2) left e.1) []
  sample (supply asked.length) left pattern

def isSpecial (c : Char) : Bool :=
  ['(', ')', '[', ']', '\x7b', '\x7d', '?', '*', '+', '-', '|', '^', '$', '\x5c', '.', '&', '~',
    '#', ' ', '\t', '\n', '\r', '\x0b', '\x0c'].contains c

def escape (s : String) : String :=
  String.ofList (s.toList.flatMap fun c => if isSpecial c then ['\x5c', c] else [c])

end HttpContract.Regex
