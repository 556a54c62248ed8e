import HttpContract.Number.Scientific

/-!
Integers and their decimal text. Conversions in both directions stop at 4300 digits.
-/
namespace HttpContract.Number

def digitLimit : Nat := 4300

def readGroups (s : List Char) : Option Nat :=
  let groups := Text.splitAt '_' s
  let digits := groups.flatten
  if groups.all (fun g => !g.isEmpty && g.all Text.isAsciiDigit) && digits.length ≤ digitLimit then
    some (ofDigits digits)
  else none

/-- White space around, a sign, and groups of digits of any script. -/
def readInteger (s : List Char) : Option Int :=
  let (negative, digits) := readSign ((Text.trimWhile Text.isNumberBlank s).map plainDigit)
  (readGroups digits).map fun n => if negative then -(n : Int) else n

def integerText (n : Int) : List Char :=
  if n < 0 then '-' :: digitsOf n.natAbs else digitsOf n.natAbs

def isPrintableInteger (n : Int) : Bool := n.natAbs < Nat.pow 10 digitLimit

end HttpContract.Number
