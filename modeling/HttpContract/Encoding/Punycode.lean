import HttpContract.Encoding.CodedSet

/-!
The encoding of names: the ASCII characters of a text, a hyphen, and then where the other characters
go, in numbers of base 36 whose digits weigh what the numbers before suggest.
-/
namespace HttpContract.Encoding.Punycode

def digitByte (d : Nat) : UInt8 := UInt8.ofNat (if d < 26 then 0x61 + d else 0x30 + (d - 26))

def digit? (b : UInt8) : Option Nat :=
  let n := b.toNat
  if 0x61 ≤ n ∧ n ≤ 0x7a then some (n - 0x61)
  else if 0x41 ≤ n ∧ n ≤ 0x5a then some (n - 0x41)
  else if 0x30 ≤ n ∧ n ≤ 0x39 then some (n - 0x30 + 26)
  else none

def firstBias : Nat := 72

/-- The least digit at place `k`, from one on, that does not end a number. -/
def threshold (k bias : Nat) : Nat := max 1 (min 26 (36 * k - bias))

theorem threshold_pos (k bias : Nat) : 1 ≤ threshold k bias := by
  unfold threshold
  omega

def damped (divisions delta : Nat) : Nat :=
  if 455 < delta then damped (divisions + 36) (delta / 35)
  else divisions + 36 * delta / (delta + 38)
termination_by delta
decreasing_by omega

/-- The bias for the next number, after `delta` has placed the last of `count` characters. -/
def adapt (delta count : Nat) (isFirst : Bool) : Nat :=
  let delta := if isFirst then delta / 700 else delta / 2
  damped 0 (delta + delta / count)

def number (bias k n : Nat) : List UInt8 :=
  let t := threshold k bias
  if n < t then [digitByte n]
  else digitByte (t + (n - t) % (36 - t)) :: number bias (k + 1) ((n - t) / (36 - t))
termination_by n
decreasing_by
  have h1 := threshold_pos k bias
  exact Nat.lt_of_le_of_lt (Nat.div_le_self _ _) (by omega)

/-- How far a text has been written: the steps since the last number, the bias, and how many of the
characters are in place. -/
structure Progress where
  written : List UInt8
  delta : Nat
  bias : Nat
  placed : Nat

def pass (basic code : Nat) (p : Progress) (c : Char) : Progress :=
  if c.toNat < code then { p with delta := p.delta + 1 }
  else if c.toNat = code then
    ⟨p.written ++ number p.bias 1 p.delta, 0, adapt p.delta (p.placed + 1) (p.placed = basic),
      p.placed + 1⟩
  else p

def place (s : List Char) (basic : Nat) : List Nat → Nat → Progress → Progress
  | [], _, p => p
  | code :: rest, known, p =>
    let p := s.foldl (pass basic code) { p with delta := p.delta + (code - known) * (p.placed + 1) }
    place s basic rest (code + 1) { p with delta := p.delta + 1 }

def isBasic (c : Char) : Bool := c.toNat < 0x80

def encode (s : List Char) : List UInt8 :=
  let basic := s.filter isBasic
  let codes := ((s.filter fun c => !isBasic c).map Char.toNat).mergeSort.eraseDups
  basic.map (fun c => UInt8.ofNat c.toNat) ++ (if basic.isEmpty then [] else [0x2d])
    ++ (place s basic.length codes 0x80 ⟨[], 0, firstBias, basic.length⟩).written

inductive Fault
  | notAscii
  | badNumber
  deriving DecidableEq

def readNumber (bias : Nat) : Nat → Nat → Nat → List UInt8 → Option (Nat × List UInt8)
  | _, _, _, [] => none
  | k, weight, n, b :: rest =>
    match digit? b with
    | none => none
    | some d =>
      let n := n + d * weight
      if d < threshold k bias then some (n, rest)
      else readNumber bias (k + 1) (weight * (36 - threshold k bias)) n rest

theorem length_of_readNumber {bias k weight n m : Nat} {bytes rest : List UInt8}
    (h : readNumber bias k weight n bytes = some (m, rest)) : rest.length < bytes.length := by
  induction bytes generalizing k weight n with
  | nil => simp [readNumber] at h
  | cons b bytes ih =>
    unfold readNumber at h
    split at h
    · simp at h
    · split at h
      · obtain ⟨-, rfl⟩ := Prod.mk.inj (Option.some.inj h)
        simp
      · exact Nat.lt_succ_of_lt (ih h)

/-- Puts characters into `s` where the numbers say; `code` and `index` are those of the last one. -/
def insertAll (code index bias : Nat) (isFirst : Bool) (s : List Char) (bytes : List UInt8) :
    Except Fault (List Char) :=
  if bytes.isEmpty then .ok s
  else
    match _h : readNumber bias 1 1 0 bytes with
    | none => .error .badNumber
    | some (delta, rest) =>
      let count := s.length + 1
      let code := code + (index + delta) / count
      let place := (index + delta) % count
      if code.isValidChar then
        insertAll code (place + 1) (adapt delta count isFirst) false
          (s.take place ++ Char.ofNat code :: s.drop place) rest
      else .error .badNumber
termination_by bytes.length
decreasing_by exact length_of_readNumber (by assumption)

def decode (bytes : List UInt8) : Except Fault (List Char) :=
  if bytes.any fun b => 0x80 ≤ b.toNat then .error .notAscii
  else
    let numbers := (bytes.reverse.takeWhile (· ≠ 0x2d)).reverse
    let basic := bytes.take (bytes.length - numbers.length - 1)
    insertAll 0x80 0 firstBias true (basic.map fun b => Char.ofNat b.toNat) numbers

end HttpContract.Encoding.Punycode
