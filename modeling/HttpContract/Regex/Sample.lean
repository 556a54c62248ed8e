import HttpContract.Draws
import HttpContract.Regex.Syntax

/-!
Texts made after a regular expression by following its syntax tree. Looks ahead and behind are
written out like everything else, and flags are not heeded, so that a text need not match where an
expression uses them. A making that fails leaves the groups that it has finished behind, and a later
one may refer to them.
-/
namespace HttpContract.Regex

inductive SampleFault
  | unsupported
  | noCandidate
  | endless
  deriving DecidableEq

abbrev GroupTexts := List (Nat × List Char)

structure Sampling where
  drawn : Nat
  groups : GroupTexts

abbrev Sampler := ExceptT SampleFault (StateM Sampling)

def printable : List Char :=
  (List.range' 0x20 95).map Char.ofNat ++ ['\t', '\n', '\r', '\x0b', '\x0c']

def ClassKind.candidates (k : ClassKind) (negated : Bool) : List Char :=
  printable.filter fun c => k.holds true c != negated

namespace SetItem

def count : SetItem → Nat
  | code _ => 1
  | range lo hi => hi - lo + 1
  | kind k negated _ => (k.candidates negated).length

def nth (i : Nat) : SetItem → Char
  | code c => Char.ofNat c
  | range lo _ => Char.ofNat (lo + i)
  | kind k negated _ => (k.candidates negated).getD i ' '

end SetItem

def nthNamed : List SetItem → Nat → Option Char
  | [], _ => none
  | item :: rest, i =>
    if i < item.count then some (item.nth i) else nthNamed rest (i - item.count)

namespace Sampler

def draw (d : Draws) (n : Nat) : Sampler Nat := do
  let s ← get
  set { s with drawn := s.drawn + 1 }
  return d.below s.drawn n

def ofTest (d : Draws) (t : CharTest) : Sampler (List Char) := do
  let items :=
    if t.negated then
      (printable.filter fun c => !t.items.any (·.holds c.toNat)).map fun c =>
        SetItem.code c.toNat
    else t.items
  let i ← draw d (items.foldl (fun n item => n + item.count) 0)
  match nthNamed items i with
  | some c => return [c]
  | none => throw .noCandidate

def repeated (piece : Sampler (List Char)) : Nat → Sampler (List Char)
  | 0 => return []
  | n + 1 => do
    let s ← piece
    let rest ← repeated piece n
    return s ++ rest

def repeatLimit : Nat := 100

end Sampler

def Node.sample (d : Draws) : Node → Sampler (List Char)
  | empty | anchor _ | ahead true _ | behind true _ _ => return []
  | one t => Sampler.ofTest d t
  -- A point stands for printable characters here, whatever the flags.
  | any _ => Sampler.ofTest d ⟨true, [.code 10], .exact⟩
  | cat a b => do
    let s ← a.sample d
    let t ← b.sample d
    return s ++ t
  | alt a b => do if (← Sampler.draw d 2) = 0 then a.sample d else b.sample d
  | group i body => do
    let s ← body.sample d
    modify fun state => { state with groups := (i, s) :: state.groups }
    return s
  | ref i _ => do
    -- What an earlier making has left behind is found here, too.
    match (← get).groups.lookup i with
    | some s => return s
    | none => throw .unsupported
  | ahead false body | behind false _ body | flagged body => body.sample d
  | times min max greed body => do
    if greed = .possessive then throw .unsupported
    let limit := match max with
      | some n => Nat.min n Sampler.repeatLimit
      | none => Sampler.repeatLimit
    if limit < min then throw .endless
    let extra ← Sampler.draw d (limit - min + 1)
    Sampler.repeated (body.sample d) (min + extra)
  | atomic _ | choose _ _ _ => throw .unsupported

/-- A text, and the groups that are left behind: none if it could be made. -/
def Pattern.sample (d : Draws) (left : GroupTexts) (p : Pattern) :
    Except SampleFault (List Char) × GroupTexts :=
  match (p.root.sample d).run ⟨0, left⟩ with
  | (.ok s, _) => (.ok s, [])
  | (.error fault, state) => (.error fault, state.groups)

end HttpContract.Regex
