/-!
Sets of characters that are coded by position: a position is a number, and a layout says which bytes
it is written with.
-/
namespace HttpContract.Encoding

abbrev Runs := List (Nat × String)

namespace Runs

def charAt? (runs : Runs) (n : Nat) : Option Char :=
  runs.findSome? fun r => if r.1 ≤ n then r.2.toList[n - r.1]? else none

def position? (runs : Runs) (c : Char) : Option Nat :=
  runs.findSome? fun r => (r.2.toList.idxOf? c).map (r.1 + ·)

def lastPosition? (runs : Runs) (c : Char) : Option Nat :=
  runs.reverse.findSome? fun r => (r.2.toList.reverse.idxOf? c).map fun i => r.1 + (r.2.length - 1 - i)

def chars (runs : Runs) : List Char := runs.flatMap fun r => r.2.toList

end Runs

abbrev Ranges := List (Nat × Nat)

namespace Ranges

def size (ranges : Ranges) : Nat := ranges.foldr (fun r n => (r.2 + 1 - r.1) + n) 0

def index? : Ranges → Nat → Option Nat
  | [], _ => none
  | (low, high) :: rest, n =>
    if low ≤ n ∧ n ≤ high then some (n - low) else (index? rest n).map (high + 1 - low + ·)

def member? : Ranges → Nat → Option Nat
  | [], _ => none
  | (low, high) :: rest, i =>
    if i < high + 1 - low then some (low + i) else member? rest (i - (high + 1 - low))

end Ranges

/-- How two bytes write a position: the first one tells the row, the second one the place in it. -/
structure Layout where
  leads : Ranges
  trails : Ranges

namespace Layout

def width (l : Layout) : Nat := l.trails.size

def position? (l : Layout) (lead trail : UInt8) : Option Nat := do
  return l.width * (← l.leads.index? lead.toNat) + (← l.trails.index? trail.toNat)

def bytes? (l : Layout) (n : Nat) : Option (List UInt8) := do
  return [UInt8.ofNat (← l.leads.member? (n / l.width)),
    UInt8.ofNat (← l.trails.member? (n % l.width))]

def size (l : Layout) : Nat := l.leads.size * l.width

def positionIn? : List Layout → UInt8 → UInt8 → Option Nat
  | [], _, _ => none
  | l :: rest, lead, trail =>
    l.position? lead trail <|> (positionIn? rest lead trail).map (l.size + ·)

def bytesIn? : List Layout → Nat → Option (List UInt8)
  | [], _ => none
  | l :: rest, n => if n < l.size then l.bytes? n else bytesIn? rest (n - l.size)

end Layout

def highRows : Layout := ⟨[(0xa1, 0xfe)], [(0xa1, 0xfe)]⟩

def lowRows : Layout := ⟨[(0x21, 0x7e)], [(0x21, 0x7e)]⟩

def countUpTo (taken : List Nat) (n : Nat) : Nat := taken.countP (· ≤ n)

/-- The number at the end of the steps `n ↦ start + passed n`. Where `passed n` tells how many numbers
up to `n` are taken, it is the number that `start` becomes if the free ones are counted alone. -/
def skipTaken (start : Nat) (passed : Nat → Nat) : Nat → Nat → Nat
  | 0, n => n
  | fuel + 1, n => if start + passed n = n then n else skipTaken start passed fuel (start + passed n)

/-- What the first byte of a text says, given those that follow: the characters that are read, and
how many of the following bytes belong to them. -/
abbrev ByteReader := UInt8 → List UInt8 → Option (List Char × Nat)

namespace ByteReader

def ascii : ByteReader := fun b _ => if b.toNat < 0x80 then some ([Char.ofNat b.toNat], 0) else none

def pairIn (layouts : List Layout) (at? : Nat → Option (List Char)) : ByteReader := fun lead rest => do
  let trail ← rest.head?
  let s ← at? (← Layout.positionIn? layouts lead trail)
  return (s, 1)

def pair (l : Layout) (at? : Nat → Option (List Char)) : ByteReader := pairIn [l] at?

def firstOf (readers : List ByteReader) : ByteReader := fun b rest =>
  readers.findSome? fun read => read b rest

def behind (shift : UInt8) (read : ByteReader) : ByteReader := fun b rest =>
  match rest with
  | c :: more => if b = shift then (read c more).map fun (s, further) => (s, further + 1) else none
  | [] => none

def readAll (read : ByteReader) : List UInt8 → Option (List Char)
  | [] => some []
  | b :: rest =>
    match read b rest with
    | some (s, further) => (readAll read (rest.drop further)).map (s ++ ·)
    | none => none
termination_by bytes => bytes.length
decreasing_by simp only [List.length_cons, List.length_drop]; omega

end ByteReader

def one? (c : Option Char) : Option (List Char) := c.map fun c => [c]

def asciiByte? (c : Char) : Option (List UInt8) :=
  if c.toNat < 0x80 then some [UInt8.ofNat c.toNat] else none

end HttpContract.Encoding
