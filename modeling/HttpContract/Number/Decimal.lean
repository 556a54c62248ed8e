import HttpContract.Number.Scientific

/-!
Decimal numbers that keep their digits: `1.50` and `1.5` are equal and written differently.
-/
namespace HttpContract.Number

/-- A finite number is `coefficient · 10 ^ exponent` with its sign; what is not a number may carry
digits of its own, and may forbid any use of it. -/
inductive Decimal
  | finite (negative : Bool) (coefficient : Nat) (exponent : Int)
  | infinite (negative : Bool)
  | nan (negative signaling : Bool) (payload : Nat)
  deriving DecidableEq

namespace Decimal

def greatestExponent : Int := 999999999999999999
def leastExponent : Int := -1999999999999999997

/-- Only numbers whose exponent stays in range are read; none is rounded. -/
def ofScientific (negative : Bool) (s : Scientific) : Option Decimal :=
  let top := if s.coefficient = 0 then s.exponent else s.exponent + digitCount s.coefficient - 1
  if leastExponent ≤ s.exponent ∧ top ≤ greatestExponent then
    some (finite negative s.coefficient s.exponent)
  else none

/-- Underscores count nowhere, and white space only inside. -/
def readable (s : List Char) : List Char :=
  ((Text.trim s).filter (· ≠ '_')).map plainDigit

def readPayload (s : List Char) : Option Nat :=
  if s.all Text.isAsciiDigit then some (ofDigits s) else none

def read (s : List Char) : Option Decimal :=
  let (negative, body) := readSign (readable s)
  let small := body.map Char.toLower
  if isWord ['i', 'n', 'f'] body || isWord ['i', 'n', 'f', 'i', 'n', 'i', 't', 'y'] body then
    some (infinite negative)
  else match small with
    | 'n' :: 'a' :: 'n' :: rest => (readPayload rest).map (nan negative false)
    | 's' :: 'n' :: 'a' :: 'n' :: rest => (readPayload rest).map (nan negative true)
    | _ => (readScientific body).bind (ofScientific negative)

/-- A number from `10 ^ -6` on is written out if no zeros have to be invented behind it; any other
has one digit before the point and a power of ten. -/
def text : Decimal → List Char
  | infinite negative => (if negative then ['-'] else []) ++ "Infinity".toList
  | nan negative signaling payload =>
    (if negative then ['-'] else []) ++ (if signaling then ['s'] else []) ++ ['N', 'a', 'N']
      ++ if payload = 0 then [] else digitsOf payload
  | finite negative c e =>
    let digits := digitsOf c
    let left : Int := e + digits.length
    let point : Int := if e ≤ 0 ∧ -6 < left then left else 1
    let whole := if point ≤ 0 then ['0'] else digits.take point.toNat
    let fraction :=
      if point ≤ 0 then List.replicate (-point).toNat '0' ++ digits else digits.drop point.toNat
    let power := left - point
    (if negative then ['-'] else []) ++ whole ++ (if fraction.isEmpty then [] else '.' :: fraction)
      ++ if power = 0 then []
        else ['E', if power < 0 then '-' else '+'] ++ digitsOf power.natAbs

def isZero : Decimal → Bool
  | finite _ 0 _ => true
  | _ => false

def isWhole : Decimal → Bool
  | finite _ c e => c = 0 || 0 ≤ e || (-e ≤ digitCount c && c % Nat.pow 10 (-e).toNat = 0)
  | infinite _ => true
  | nan _ _ _ => false

def truncate : Decimal → Option Int
  | finite negative c e =>
    let n : Nat :=
      if c = 0 then 0
      else if 0 ≤ e then c * Nat.pow 10 e.toNat
      else if digitCount c < -e then 0
      else c / Nat.pow 10 (-e).toNat
    some (if negative then -(n : Int) else n)
  | _ => none

def isSignaling : Decimal → Bool
  | nan _ signaling _ => signaling
  | _ => false

end Decimal

end HttpContract.Number
