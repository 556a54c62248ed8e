import HttpContract.Number.Scientific

/-!
Binary floating-point numbers of 64 bits, as exact values. Reading rounds to the nearest number and
a tie to the even mantissa; printing gives the fewest digits that read back, and of those the
nearest.
-/
namespace HttpContract.Number

/-- A finite number is `mantissa · 2 ^ exponent` with its sign. Numbers that come from `ofRatio`
have a mantissa below `2 ^ 53` and an exponent from `-1074` to `971`, and a mantissa of at least
`2 ^ 52` unless the exponent is the least one. -/
inductive Real64
  | nan
  | infinite (negative : Bool)
  | finite (negative : Bool) (mantissa : Nat) (exponent : Int)
  deriving DecidableEq

namespace Real64

def leastExponent : Int := -1074
def greatestExponent : Int := 971

def zero (negative : Bool) : Real64 := finite negative 0 leastExponent

def roundDiv (num den : Nat) : Nat :=
  let q := num / den
  let twice := 2 * (num % den)
  if den < twice ∨ twice = den ∧ q % 2 = 1 then q + 1 else q

def scaled (num den : Nat) (e : Int) : Nat × Nat :=
  if 0 ≤ e then (num, den * Nat.pow 2 e.toNat) else (num * Nat.pow 2 (-e).toNat, den)

def ofRatio (negative : Bool) (num den : Nat) : Real64 :=
  if num = 0 then zero negative
  else
    let low := max leastExponent ((Nat.log2 num : Int) - (Nat.log2 den : Int) - 53)
    let atLow := scaled num den low
    let e := if Nat.pow 2 53 ≤ atLow.1 / atLow.2 then low + 1 else low
    let atE := scaled num den e
    let m := roundDiv atE.1 atE.2
    let (m, e) := if m = Nat.pow 2 53 then (Nat.pow 2 52, e + 1) else (m, e)
    if greatestExponent < e then infinite negative else finite negative m e

/-- Powers of ten beyond any finite number are settled without computing them. -/
def ofScientific (negative : Bool) (s : Scientific) : Real64 :=
  let magnitude := s.exponent + digitCount s.coefficient
  if s.coefficient = 0 ∨ magnitude < -330 then zero negative
  else if 310 < magnitude then infinite negative
  else if 0 ≤ s.exponent then ofRatio negative (s.coefficient * Nat.pow 10 s.exponent.toNat) 1
  else ofRatio negative s.coefficient (Nat.pow 10 (-s.exponent).toNat)

def ofInt (n : Int) : Real64 := ofRatio (n < 0) n.natAbs 1

def read (s : List Char) : Option Real64 :=
  match withoutUnderscores false ((Text.trimWhile Text.isNumberBlank s).map plainDigit) with
  | none => none
  | some t =>
    let (negative, body) := readSign t
    if isWord ['i', 'n', 'f'] body || isWord ['i', 'n', 'f', 'i', 'n', 'i', 't', 'y'] body then
      some (infinite negative)
    else if isWord ['n', 'a', 'n'] body then some nan
    else (readScientific body).map (ofScientific negative)

def truncate : Real64 → Option Int
  | finite negative m e =>
    let n : Nat := if 0 ≤ e then m * Nat.pow 2 e.toNat else m / Nat.pow 2 (-e).toNat
    some (if negative then -(n : Int) else n)
  | _ => none

def isZero : Real64 → Bool
  | finite _ 0 _ => true
  | _ => false

/-- The point of the grid `10 ^ x` that stands for `m · 2 ^ e`, if one of the two next to it rounds
to it. Everything is counted in quarters of `2 ^ e`, where the ends of the rounding interval are
whole; the ends belong to it if the mantissa is even. -/
def onGrid (m : Nat) (e x : Int) : Option Nat :=
  let quarter := e - 2
  let unit := Nat.pow 2 (-quarter).toNat * Nat.pow 10 x.toNat
  let part := Nat.pow 2 quarter.toNat * Nat.pow 10 (-x).toNat
  let value := 4 * m * part
  let low := (4 * m - if m = Nat.pow 2 52 ∧ leastExponent < e then 1 else 2) * part
  let high := (4 * m + 2) * part
  let fits (k : Nat) : Bool :=
    if m % 2 = 0 then low ≤ k * unit && k * unit ≤ high else low < k * unit && k * unit < high
  let below := value / unit
  let above := below + 1
  let toBelow := value - below * unit
  let toAbove := above * unit - value
  match fits below, fits above with
  | true, true =>
    some (if toBelow < toAbove ∨ toBelow = toAbove ∧ below % 2 = 0 then below else above)
  | true, false => some below
  | false, true => some above
  | false, false => none

/-- The coarsest grid with a point that reads back; the search starts above the number and ends
where 17 digits are reached. -/
def shortest (m : Nat) (e : Int) : Scientific :=
  let top : Int := ((Nat.log2 m : Int) + e) * 30103 / 100000 + 2
  match (List.range 24).findSome? fun (i : Nat) =>
      (onGrid m e (top - i)).map fun k => (k, top - (i : Int)) with
  | some (k, x) => ⟨k, x⟩
  | none => ⟨m, e⟩

/-- Digits with the point after the first `point` of them. A number from `10 ^ -4` to below
`10 ^ 16` is written out, with at least one digit on either side of the point; any other has one
digit before the point and a power of ten of at least two digits. -/
def layout (digits : List Char) (point : Int) : List Char :=
  if -4 < point ∧ point ≤ 16 then
    if point ≤ 0 then ['0', '.'] ++ List.replicate (-point).toNat '0' ++ digits
    else
      let whole := digits.take point.toNat ++ List.replicate (point.toNat - digits.length) '0'
      let fraction := digits.drop point.toNat
      whole ++ ['.'] ++ if fraction.isEmpty then ['0'] else fraction
  else
    let fraction := digits.drop 1
    let power := (digitsOf (point - 1).natAbs)
    digits.take 1 ++ (if fraction.isEmpty then [] else '.' :: fraction) ++ ['e']
      ++ [if point - 1 < 0 then '-' else '+'] ++ (if power.length < 2 then '0' :: power else power)

def text : Real64 → List Char
  | nan => ['n', 'a', 'n']
  | infinite negative => (if negative then ['-'] else []) ++ ['i', 'n', 'f']
  | finite negative 0 _ => (if negative then ['-'] else []) ++ ['0', '.', '0']
  | finite negative m e =>
    let s := shortest m e
    let digits := digitsOf s.coefficient
    (if negative then ['-'] else []) ++ layout (Text.dropEndWhile (· = '0') digits)
      (digits.length + s.exponent)

end Real64

end HttpContract.Number
