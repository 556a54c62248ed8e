import HttpContract.Text.Blank
import HttpContract.Text.Split
import HttpContract.Text.CharClass

/-!
Numbers as they are written: digits of any script, an optional point and an optional power of ten.
-/
namespace HttpContract.Number

def plainDigit (c : Char) : Char :=
  if c.toNat < 0x80 then c
  else match Text.decimalDigit? c with
    | some d => Char.ofNat (0x30 + d)
    | none => c

def digitsOf (n : Nat) : List Char := Nat.toDigits 10 n

def ofDigits (s : List Char) : Nat := s.foldl (fun n c => 10 * n + (c.toNat - 0x30)) 0

def digitCount (n : Nat) : Nat := (digitsOf n).length

def readSign : List Char → Bool × List Char
  | '-' :: rest => (true, rest)
  | '+' :: rest => (false, rest)
  | s => (false, s)

structure Scientific where
  coefficient : Nat
  exponent : Int
  deriving DecidableEq

def readPower (s : List Char) : Option Int :=
  let (negative, digits) := readSign s
  if digits.isEmpty || !digits.all Text.isAsciiDigit then none
  else some (if negative then -(ofDigits digits : Int) else ofDigits digits)

def readScientific (s : List Char) : Option Scientific :=
  let whole := s.takeWhile Text.isAsciiDigit
  let afterWhole := s.dropWhile Text.isAsciiDigit
  let (fraction, rest) :=
    match afterWhole with
    | '.' :: t => (t.takeWhile Text.isAsciiDigit, t.dropWhile Text.isAsciiDigit)
    | t => ([], t)
  if whole.isEmpty && fraction.isEmpty then none
  else
    let power : Option Int :=
      match rest with
      | [] => some 0
      | c :: t => if c = 'e' ∨ c = 'E' then readPower t else none
    power.map fun p => ⟨ofDigits (whole ++ fraction), p - fraction.length⟩

/-- The rest of a numeral without its underscores, each of which has to stand between two digits;
`afterDigit` tells whether a digit has just been read. -/
def withoutUnderscores (afterDigit : Bool) : List Char → Option (List Char)
  | [] => some []
  | ['_'] => none
  | '_' :: c :: rest =>
    if afterDigit && Text.isAsciiDigit c then (withoutUnderscores true rest).map (c :: ·) else none
  | c :: rest => (withoutUnderscores (Text.isAsciiDigit c) rest).map (c :: ·)

def isWord (word s : List Char) : Bool := s.map Char.toLower == word

end HttpContract.Number
