import HttpContract.Regex.Syntax

/-!
Matching by backtracking. A node is matched from a position and hands every way of doing so, in
order of preference, to what comes after it; the first way that leads to the end counts.
-/
namespace HttpContract.Regex

/-- Where each group was entered last and where it was left last. A group that has been entered
again and not been left yet counts only if it was left no earlier than that. -/
abbrev Captures := List (Nat × Nat × Option Nat)

namespace Captures

def change (f : Option (Nat × Option Nat) → Nat × Option Nat) (i : Nat) : Captures → Captures
  | [] => [(i, f none)]
  | (j, s) :: rest => if j = i then (i, f (some s)) :: rest else (j, s) :: change f i rest

def enter (c : Captures) (i pos : Nat) : Captures :=
  c.change (fun old => (pos, old.bind Prod.snd)) i

def leave (c : Captures) (i pos : Nat) : Captures :=
  c.change (fun old => ((old.map Prod.fst).getD pos, some pos)) i

def get? (c : Captures) (i : Nat) : Option (Nat × Nat) :=
  match c.lookup i with
  | some (start, some stop) => if start ≤ stop then some (start, stop) else none
  | _ => none

end Captures

abbrev Reached := Nat × Captures

abbrev Rest := Nat → Captures → Option Reached

abbrev Matcher := Nat → Captures → Rest → Option Reached

section Repetition

variable (step : Matcher) (min : Nat) (max : Option Nat)

def mayRepeat (count : Nat) : Bool :=
  match max with
  | some n => count < n
  | none => true

/-- A repetition beyond the least number is tried only if the one before it has moved; `last` is
where that one began. -/
def greedy : Nat → Nat → Option Nat → Matcher
  | 0, _, _, _, _, _ => none
  | fuel + 1, count, last, pos, caps, rest =>
    if count < min then step pos caps fun p c => greedy fuel (count + 1) last p c rest
    else if mayRepeat max count && last != some pos then
      match step pos caps fun p c => greedy fuel (count + 1) (some pos) p c rest with
      | some r => some r
      | none => rest pos caps
    else rest pos caps

def lazy : Nat → Nat → Option Nat → Matcher
  | 0, _, _, _, _, _ => none
  | fuel + 1, count, last, pos, caps, rest =>
    if count < min then step pos caps fun p c => lazy fuel (count + 1) last p c rest
    else match rest pos caps with
      | some r => some r
      | none =>
        if mayRepeat max count && last != some pos then
          step pos caps fun p c => lazy fuel (count + 1) (some pos) p c rest
        else none

def possessive : Nat → Nat → Option Nat → Nat → Captures → Option Reached
  | 0, _, _, _, _ => none
  | fuel + 1, count, last, pos, caps =>
    if count < min then
      match step pos caps fun p c => some (p, c) with
      | some (p, c) => possessive fuel (count + 1) last p c
      | none => none
    else if mayRepeat max count && last != some pos then
      match step pos caps fun p c => some (p, c) with
      | some (p, c) => possessive fuel (count + 1) (some pos) p c
      | none => some (pos, caps)
    else some (pos, caps)

end Repetition

def isWordAt (input : Array Char) (ascii : Bool) (pos : Nat) : Bool :=
  match input[pos]? with
  | some c => ClassKind.word.holds ascii c
  | none => false

def isBoundary (input : Array Char) (ascii : Bool) (pos : Nat) : Bool :=
  (pos != 0 && isWordAt input ascii (pos - 1)) != isWordAt input ascii pos

/-- Neither a boundary nor its absence is found in an empty text. -/
def Anchor.holds (input : Array Char) (pos : Nat) : Anchor → Bool
  | textStart => pos = 0
  | lineStart => pos = 0 || input[pos - 1]? == some '\n'
  | textEnd => pos = input.size
  | lastLineEnd => pos = input.size || pos + 1 = input.size && input[pos]? == some '\n'
  | lineEnd => pos = input.size || input[pos]? == some '\n'
  | boundary ascii => input.size != 0 && isBoundary input ascii pos
  | noBoundary ascii => input.size != 0 && !isBoundary input ascii pos

def repeats (input : Array Char) (fold : Fold) (start pos n : Nat) : Bool :=
  (List.range n).all fun i =>
    match input[start + i]?, input[pos + i]? with
    | some a, some b => lowerCode fold a.toNat = lowerCode fold b.toNat
    | _, _ => false

def Node.run (input : Array Char) : Node → Matcher
  | empty, pos, caps, rest => rest pos caps
  | one test, pos, caps, rest =>
    match input[pos]? with
    | some c => if test.holds c then rest (pos + 1) caps else none
    | none => none
  | any lineBreaks, pos, caps, rest =>
    match input[pos]? with
    | some c => if lineBreaks || c != '\n' then rest (pos + 1) caps else none
    | none => none
  | anchor a, pos, caps, rest => if a.holds input pos then rest pos caps else none
  | cat a b, pos, caps, rest => a.run input pos caps fun p c => b.run input p c rest
  | alt a b, pos, caps, rest =>
    match a.run input pos caps rest with
    | some r => some r
    | none => b.run input pos caps rest
  | group i body, pos, caps, rest =>
    body.run input pos (caps.enter i pos) fun p c => rest p (c.leave i p)
  | flagged body, pos, caps, rest => body.run input pos caps rest
  | ref i fold, pos, caps, rest =>
    match caps.get? i with
    | some (start, stop) =>
      if repeats input fold start pos (stop - start) then rest (pos + (stop - start)) caps else none
    | none => none
  -- Groups that are met within a look around stay met only if it is not negated.
  | ahead negated body, pos, caps, rest =>
    match body.run input pos caps fun p c => some (p, c) with
    | some (_, c) => if negated then none else rest pos c
    | none => if negated then rest pos caps else none
  | behind negated width body, pos, caps, rest =>
    if pos < width then
      if negated then rest pos caps else none
    else match body.run input (pos - width) caps fun p c => some (p, c) with
      | some (_, c) => if negated then none else rest pos c
      | none => if negated then rest pos caps else none
  | atomic body, pos, caps, rest =>
    match body.run input pos caps fun p c => some (p, c) with
    | some (p, c) => rest p c
    | none => none
  | times min max greed body, pos, caps, rest =>
    -- Beyond the least number every repetition moves, so that the rest of the text bounds them.
    let fuel := min + (input.size - pos) + 2
    match greed with
    | .greedy => greedy (body.run input) min max fuel 0 none pos caps rest
    | .lazy => lazy (body.run input) min max fuel 0 none pos caps rest
    | .possessive =>
      match possessive (body.run input) min max fuel 0 none pos caps with
      | some (p, c) => rest p c
      | none => none
  | choose i yes no, pos, caps, rest =>
    match caps.get? i with
    | some _ => yes.run input pos caps rest
    | none => no.run input pos caps rest

def Pattern.matchesAll (p : Pattern) (s : List Char) : Bool :=
  let input := s.toArray
  (p.root.run input 0 [] fun pos caps =>
    if pos = input.size then some (pos, caps) else none).isSome

def Pattern.matchStart (p : Pattern) (s : List Char) : Option Reached :=
  p.root.run s.toArray 0 [] fun pos caps => some (pos, caps)

end HttpContract.Regex
