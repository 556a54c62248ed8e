import HttpContract.Regex.Fold
import HttpContract.Text.Blank

/-!
The syntax trees of regular expressions. Flags have been resolved: each test of a character says by
itself how it treats capitals, line breaks and characters outside ASCII.
-/
namespace HttpContract.Regex

inductive ClassKind
  | digit
  | space
  | word
  deriving DecidableEq

inductive SetItem
  | code (c : Nat)
  | range (lo hi : Nat)
  | kind (k : ClassKind) (negated ascii : Bool)
  deriving DecidableEq

structure CharTest where
  negated : Bool
  items : List SetItem
  fold : Fold
  deriving DecidableEq

inductive Anchor
  | textStart
  | lineStart
  | textEnd
  | lastLineEnd
  | lineEnd
  | boundary (ascii : Bool)
  | noBoundary (ascii : Bool)
  deriving DecidableEq

/-- How a repetition goes about its choices: as many as possible first, as few as possible first,
or as many as possible for good. -/
inductive Greed
  | greedy
  | lazy
  | possessive
  deriving DecidableEq

inductive Node
  | empty
  | one (test : CharTest)
  | any (lineBreaks : Bool)
  | anchor (a : Anchor)
  | cat (a b : Node)
  | alt (a b : Node)
  | group (index : Nat) (body : Node)
  | ref (index : Nat) (fold : Fold)
  /-- A group with flags of its own. -/
  | flagged (body : Node)
  | ahead (negated : Bool) (body : Node)
  /-- What is looked for stands in the `width` characters before. -/
  | behind (negated : Bool) (width : Nat) (body : Node)
  | atomic (body : Node)
  | times (min : Nat) (max : Option Nat) (greed : Greed) (body : Node)
  | choose (index : Nat) (yes no : Node)

/-- A regular expression with its groups. One that is not `usable` can be read, and examples of it
can be made, but nothing can be matched by it. -/
structure Pattern where
  root : Node
  groups : Nat
  names : List (String × Nat)
  usable : Bool

namespace ClassKind

def holds (k : ClassKind) (ascii : Bool) (c : Char) : Bool :=
  match k with
  | digit => if ascii then Text.isAsciiDigit c else Text.isDecimalDigit c
  | space => if ascii then c = ' ' || 9 ≤ c.toNat && c.toNat ≤ 13 else Text.isBlank c
  | word =>
    if ascii then Text.isAsciiLetter c || Text.isAsciiDigit c || c = '_' else Text.isWordChar c

end ClassKind

def lastListed : Nat := 0xffff

def meets (fold : Fold) (letter c : Nat) : Bool :=
  if hasCase fold letter letter then (foldSources fold (lowerCode fold c)).contains letter
  else letter = c

namespace SetItem

def hasCase (fold : Fold) : SetItem → Bool
  | code c => fold ≠ .exact && (lastListed < lowerCode fold c || Regex.hasCase fold c c)
  | range lo hi => fold ≠ .exact && (lastListed < hi || Regex.hasCase fold lo hi)
  | kind _ _ _ => false

def holds (c : Nat) : SetItem → Bool
  | code a => a = c
  | range lo hi => lo ≤ c && c ≤ hi
  | kind k negated ascii => k.holds ascii (Char.ofNat c) != negated

/-- Does an item of a set that heeds no capitals name the small letter `c`? Beyond `lastListed` a
capital names no letter at all, and a range names a letter if it holds it or its capital. -/
def holdsSmall (fold : Fold) (c : Nat) : SetItem → Bool
  | code a => if lastListed < lowerCode fold a then a = c else (foldSources fold c).contains a
  | range lo hi =>
    (foldSources fold c).any (fun s => lo ≤ s && s ≤ min hi lastListed)
      || lastListed < hi && ((range lo hi).holds c || (range lo hi).holds (upperCode c))
  | kind k negated ascii => (kind k negated ascii).holds c

end SetItem

namespace CharTest

/-- A set that names no letter with another form is compared as it is. Otherwise the small letter
is looked for among the small letters of the set. -/
def named (t : CharTest) (c : Char) : Bool :=
  match t.items with
  | [.code a] => meets t.fold a c.toNat
  | items =>
    if items.any (·.hasCase t.fold) then items.any (·.holdsSmall t.fold (lowerCode t.fold c.toNat))
    else items.any (·.holds c.toNat)

def holds (t : CharTest) (c : Char) : Bool := t.named c != t.negated

def ofCode (fold : Fold) (c : Nat) : CharTest := ⟨false, [.code c], fold⟩

end CharTest

namespace Node

def ofList : List Node → Node
  | [] => empty
  | [n] => n
  | n :: rest => cat n (ofList rest)

def ofAlternatives : List Node → Node
  | [] => empty
  | [n] => n
  | n :: rest => alt n (ofAlternatives rest)

def sameStep : Node → Node → Bool
  | one t, one u => t = u
  | any a, any b => a = b
  | anchor a, anchor b => a = b
  | ref i _, ref j _ => i = j
  | _, _ => false

def dropStep (n : Node) : List Node → Option (List Node)
  | [] => none
  | m :: rest => if sameStep n m then some rest else none

def splitShared : List Node → List (List Node) → List Node × List (List Node)
  | [], others => ([], [] :: others)
  | n :: first, others =>
    match others.mapM (dropStep n) with
    | some others =>
      let (shared, remaining) := splitShared first others
      (n :: shared, remaining)
    | none => ([], (n :: first) :: others)

def setItems : List Node → Option CharTest
  | [one t] => if t.negated then none else some t
  | _ => none

def unionSet (alternatives : List (List Node)) : Option CharTest := do
  let tests ← alternatives.mapM setItems
  let first ← tests.head?
  return { first with items := (tests.flatMap (·.items)).eraseDups }

/-- One of several alternatives: the steps that they share come first, and characters are put
together into a set. -/
def branch : List (List Node) → List Node
  | [] => []
  | [nodes] => nodes
  | first :: others =>
    let (shared, remaining) := splitShared first others
    shared ++ match unionSet remaining with
      | some t => [one t]
      | none => [ofAlternatives (remaining.map ofList)]

def widthLimit : Nat := Nat.pow 2 64

def width (groups : Nat → Nat × Nat) : Node → Nat × Nat
  | empty | anchor _ | ahead _ _ | behind _ _ _ => (0, 0)
  | one _ | any _ => (1, 1)
  | cat a b =>
    let wa := width groups a
    let wb := width groups b
    (min (wa.1 + wb.1) widthLimit, min (wa.2 + wb.2) widthLimit)
  | alt a b =>
    let wa := width groups a
    let wb := width groups b
    (min wa.1 wb.1, max wa.2 wb.2)
  | group _ body | atomic body | flagged body => width groups body
  | ref i _ => groups i
  | times lo hi _ body =>
    let w := width groups body
    (min (w.1 * lo) widthLimit,
      match hi with
      | some n => min (w.2 * n) widthLimit
      | none => if w.2 = 0 then 0 else widthLimit)
  | choose _ yes no =>
    let wy := width groups yes
    let wn := width groups no
    (min wy.1 wn.1, max wy.2 wn.2)

end Node

end HttpContract.Regex
