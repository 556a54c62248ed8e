import HttpContract.Error
import HttpContract.Number.Integer

/-!
Path expressions: `$`, then fields and indices, each of which may be left open by a star. A field is
written after a point or, whatever its characters, quoted in brackets.
-/
namespace HttpContract

inductive PathToken
  | root
  | field (name : String)
  | index (n : Nat)
  | star
  | starIndex
  deriving DecidableEq

namespace Path

def isFieldChar (c : Char) : Bool :=
  Text.isAsciiLetter c || Text.isAsciiDigit c || ['_', '-', ':', '#', '@', '$'].contains c

/-- The number that digits of any script stand for. Digits that are no decimal digits pass the
first test and fail the second. -/
def readIndex (digits : List Char) : Except (Option PathFault) Nat :=
  if digits.isEmpty || !digits.all Text.isDigit then
    .error (some (.badIndex (String.ofList digits)))
  else match Number.readInteger digits with
    | some n => .ok n.toNat
    | none => .error none

/-- The token in brackets and the number of characters it takes up after the opening one. No fault
is given for a number that cannot be read. -/
def readBracket (position : Nat) (s : List Char) :
    Except (Option PathFault) (PathToken × Nat) :=
  match s with
  | '*' :: ']' :: _ => .ok (.starIndex, 2)
  | '\x27' :: rest =>
    let name := rest.takeWhile (· ≠ '\x27')
    match rest.drop name.length with
    | '\x27' :: ']' :: _ =>
      if name.isEmpty then .error (some (.emptyQuote position))
      else .ok (.field (String.ofList name), name.length + 3)
    | _ => .error (some (.openQuote position))
  | _ =>
    let digits := s.takeWhile (· ≠ ']')
    if digits.length = s.length then .error (some (.openIndex position))
    else (readIndex digits).map fun n => (.index n, digits.length + 1)

def readTokens (position : Nat) (s : List Char) : Except (Option PathFault) (List PathToken) :=
  match s with
  | [] => .ok []
  | '.' :: '*' :: rest => do
    let tokens ← readTokens (position + 2) rest
    return .star :: tokens
  | '.' :: '[' :: '\x27' :: rest => do
    let (token, n) ← readBracket (position + 2) ('\x27' :: rest)
    let tokens ← readTokens (position + 2 + n) (('\x27' :: rest).drop n)
    return token :: tokens
  | '.' :: rest => do
    let name := rest.takeWhile isFieldChar
    if name.isEmpty then throw (some (.missingField (position + 1)))
    let tokens ← readTokens (position + 1 + name.length) (rest.drop name.length)
    return .field (String.ofList name) :: tokens
  | '[' :: rest => do
    let (token, n) ← readBracket (position + 1) rest
    let tokens ← readTokens (position + 1 + n) (rest.drop n)
    return token :: tokens
  | c :: _ => .error (some (.unexpected c position))
termination_by s.length
decreasing_by all_goals simp; try omega

def readAll (s : List Char) : Except (Option PathFault) (List PathToken) :=
  match s with
  | [] => .ok []
  | '$' :: rest => do
    let tokens ← readTokens 1 rest
    return .root :: tokens
  | _ => .error (some .notRooted)

def parse (expression : String) : Result (List PathToken) :=
  match readAll expression.toList with
  | .ok tokens => .ok tokens
  | .error (some fault) => .error (.path fault expression)
  | .error none => .error .unusableValue

/-- How well an element of a path agrees with a token: 2 for the very one, 1 for a star. -/
def weight (element : String) : PathToken → Result Nat
  | .root => .ok (if element = "$" then 2 else 0)
  | .field name => .ok (if element = name then 2 else 0)
  | .index n =>
    if element.toList.isEmpty || !element.toList.all Text.isDigit then .ok 0
    else match Number.readInteger element.toList with
      | some i => .ok (if i = n then 2 else 0)
      | none => .error .unusableValue
  | .starIndex =>
    .ok (if element.toList.isEmpty || !element.toList.all Text.isDigit then 0 else 1)
  | .star => .ok 1

/-- Does each token agree with the element at its place? The first that does not decides. -/
def agree : List PathToken → List String → Result Bool
  | token :: tokens, element :: elements => do
    let w ← weight element token
    if w = 0 then return false else agree tokens elements
  | _, _ => .ok true

def spans (tokens : List PathToken) (elements : List String) : Result Bool :=
  if elements.length = tokens.length then agree tokens elements else .ok false

def longestStart (tokens : List PathToken) (path : List String) : Nat → Result Nat
  | 0 => .ok 0
  | n + 1 => do
    if ← spans tokens (path.take (n + 1)) then return n + 1 else longestStart tokens path n

def matchLength (tokens : List PathToken) (path : List String) : Result Nat :=
  longestStart tokens path path.length

theorem agree_nil (path : List String) : agree [] path = .ok true := by
  cases path <;> rfl

/-- What lies behind the last token is not looked at. -/
theorem agree_take (tokens : List PathToken) (path : List String) :
    agree tokens (path.take tokens.length) = agree tokens path := by
  induction tokens generalizing path with
  | nil => rw [agree_nil, agree_nil]
  | cons token tokens ih =>
    cases path with
    | nil => rfl
    | cons element path => rw [List.length_cons, List.take_succ_cons, agree, agree, ih]

/-- The only start that the tokens can stand for is as long as they are. -/
theorem longestStart_eq {tokens : List PathToken} {path : List String} {n : Nat}
    (h : n ≤ path.length) :
    longestStart tokens path n =
      if tokens.isEmpty || n < tokens.length then .ok 0
      else do if ← agree tokens path then return tokens.length else return 0 := by
  induction n with
  | zero => cases tokens <;> rfl
  | succ n ih =>
    have hlength : (path.take (n + 1)).length = n + 1 := List.length_take_of_le h
    rw [longestStart, spans, hlength, ih (Nat.le_of_succ_le h)]
    by_cases hn : n + 1 = tokens.length
    · -- This start decides: if it does not agree, the ones that are left are too short.
      have hne : tokens.isEmpty = false := by
        rw [List.isEmpty_eq_false_iff, ← List.length_pos_iff]
        omega
      have hlt : n < tokens.length := by omega
      simp only [hn, agree_take, hne, hlt, Nat.lt_irrefl, Bool.false_or, decide_true, decide_false,
        Bool.false_eq_true, if_true, if_false]
      rfl
    · have hlt : n < tokens.length ↔ n + 1 < tokens.length := by omega
      rw [if_neg hn]
      simp only [hlt]
      rfl

theorem matchLength_eq (tokens : List PathToken) (path : List String) :
    matchLength tokens path =
      if tokens.isEmpty || path.length < tokens.length then .ok 0
      else do if ← agree tokens path then return tokens.length else return 0 :=
  longestStart_eq (Nat.le_refl path.length)

def weights : List PathToken → List String → Result (List Nat)
  | token :: tokens, element :: elements => do
    let w ← weight element token
    let ws ← weights tokens elements
    return w :: ws
  | _, _ => .ok []

/-- The product of the weights; 0 if there are none. -/
def totalWeight (tokens : List PathToken) (path : List String) : Result Nat := do
  let ws ← weights tokens path
  return if ws.isEmpty then 0 else ws.foldl (· * ·) 1

end Path

end HttpContract
