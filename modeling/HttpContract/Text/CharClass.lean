import HttpContract.Text.CategoryTable

/-!
Classes of characters over all of Unicode: letters, digits, word characters, printable characters
and the characters of identifiers. ASCII is decided by comparison, the rest by the table of
category runs.
-/
namespace HttpContract.Text

inductive CharClass
  | letter | mark | decimalDigit | letterNumber | otherNumber | connector | invisible | other
  deriving DecidableEq

namespace CharClass

def ofCode : Nat → CharClass
  | 0 => letter
  | 1 => mark
  | 2 => decimalDigit
  | 3 => letterNumber
  | 4 => otherNumber
  | 5 => connector
  | 6 => invisible
  | _ => other

def ofAscii (c : Nat) : CharClass :=
  if 0x61 ≤ c ∧ c ≤ 0x7a ∨ 0x41 ≤ c ∧ c ≤ 0x5a then letter
  else if 0x30 ≤ c ∧ c ≤ 0x39 then decimalDigit
  else if c = 0x5f then connector
  else if c ≤ 0x20 ∨ c = 0x7f then invisible
  else other

/-- The run that holds `c`, by halving: each step keeps the index if the run found there starts
too late. -/
def run (c : Nat) : Nat :=
  let index := [2048, 1024, 512, 256, 128, 64, 32, 16, 8, 4, 2, 1].foldl (fun i step =>
    match CategoryTable.runs[i + step]? with
    | some r => if r / 8 ≤ c then i + step else i
    | none => i) 0
  CategoryTable.runs[index]?.getD 0

def of (c : Char) : CharClass :=
  if c.toNat < 0x80 then ofAscii c.toNat else ofCode (run c.toNat % 8)

end CharClass

def digitLikeRuns : List (Nat × Nat) :=
  [(0xb2, 0xb3), (0xb9, 0xb9), (0x1369, 0x1371), (0x19da, 0x19da), (0x2070, 0x2070),
   (0x2074, 0x2079), (0x2080, 0x2089), (0x2460, 0x2468), (0x2474, 0x247c), (0x2488, 0x2490),
   (0x24ea, 0x24ea), (0x24f5, 0x24fd), (0x24ff, 0x24ff), (0x2776, 0x277e), (0x2780, 0x2788),
   (0x278a, 0x2792), (0x10a40, 0x10a43), (0x10e60, 0x10e68), (0x11052, 0x1105a),
   (0x1f100, 0x1f10a)]

/-- The value of a decimal digit of any script: its digits stand in tens that begin with zero. -/
def decimalDigit? (c : Char) : Option Nat :=
  if c.toNat < 0x80 then
    if 0x30 ≤ c.toNat ∧ c.toNat ≤ 0x39 then some (c.toNat - 0x30) else none
  else
    let r := CharClass.run c.toNat
    if r % 8 = 2 then some ((c.toNat - r / 8) % 10) else none

def isDecimalDigit (c : Char) : Bool := (decimalDigit? c).isSome

/-- Decimal digits and the digits that no decimal number is written with, such as `²`. -/
def isDigit (c : Char) : Bool :=
  isDecimalDigit c || digitLikeRuns.any fun r => r.1 ≤ c.toNat && c.toNat ≤ r.2

def isAsciiDigit (c : Char) : Bool := 0x30 ≤ c.toNat && c.toNat ≤ 0x39

def isAsciiLetter (c : Char) : Bool :=
  0x61 ≤ c.toNat && c.toNat ≤ 0x7a || 0x41 ≤ c.toNat && c.toNat ≤ 0x5a

def isAlphanumeric (c : Char) : Bool :=
  match CharClass.of c with
  | .letter | .decimalDigit | .letterNumber | .otherNumber => true
  | _ => false

def isWordChar (c : Char) : Bool := c = '_' || isAlphanumeric c

def isPrintable (c : Char) : Bool := c = ' ' || CharClass.of c ≠ .invisible

/-- Letters that no identifier may hold, for their compatibility forms begin with a space or a
mark. -/
def unnamedLetterRuns : List (Nat × Nat) :=
  [(0x37a, 0x37a), (0x2e2f, 0x2e2f), (0xfc5e, 0xfc63), (0xfdfa, 0xfdfb), (0xfe70, 0xfe70),
   (0xfe72, 0xfe72), (0xfe74, 0xfe74), (0xfe76, 0xfe76), (0xfe78, 0xfe78), (0xfe7a, 0xfe7a),
   (0xfe7c, 0xfe7c), (0xfe7e, 0xfe7e)]

def inRuns (runs : List (Nat × Nat)) (c : Char) : Bool :=
  runs.any fun r => r.1 ≤ c.toNat && c.toNat ≤ r.2

def isIdentifierStart (c : Char) : Bool :=
  if inRuns [(0x1885, 0x1886), (0x2118, 0x2118), (0x212e, 0x212e)] c then true
  else if inRuns unnamedLetterRuns c
      || inRuns [(0xe33, 0xe33), (0xeb3, 0xeb3), (0xff9e, 0xff9f)] c then false
  else match CharClass.of c with
    | .letter | .letterNumber => true
    | _ => c = '_'

def isIdentifierChar (c : Char) : Bool :=
  if inRuns [(0xb7, 0xb7), (0x387, 0x387), (0x1369, 0x1371), (0x19da, 0x19da), (0x2118, 0x2118),
      (0x212e, 0x212e)] c then true
  else if inRuns unnamedLetterRuns c then false
  else match CharClass.of c with
    | .letter | .letterNumber | .mark | .decimalDigit | .connector => true
    | _ => false

def isIdentifier : List Char → Bool
  | [] => false
  | c :: rest => isIdentifierStart c && rest.all isIdentifierChar

end HttpContract.Text
