import HttpContract.Encoding.CodedSet
import HttpContract.Encoding.JapaneseTable

/-!
The Japanese encodings without escapes. All of them write ASCII in one byte and the half-width kana of
JIS X 0201 in one or two; the rest are positions in the planes of JIS X 0208, 0212 and 0213.
-/
namespace HttpContract.Encoding

open JapaneseTable

def shiftedRows : Layout := ⟨[(0x81, 0x9f), (0xe0, 0xfc)], [(0x40, 0x7e), (0x80, 0xfc)]⟩

def highSecondRows : Layout :=
  ⟨[(0xa1, 0xa1), (0xa8, 0xa8), (0xa3, 0xa5), (0xac, 0xaf), (0xee, 0xfe)], [(0xa1, 0xfe)]⟩

def lowSecondRows : Layout :=
  ⟨[(0x21, 0x21), (0x28, 0x28), (0x23, 0x25), (0x2c, 0x2f), (0x6e, 0x7e)], [(0x21, 0x7e)]⟩

def planeSize : Nat := 94 * 94

def kanaByte? (c : Char) : Option (List UInt8) :=
  if 0xff61 ≤ c.toNat ∧ c.toNat ≤ 0xff9f then some [UInt8.ofNat (c.toNat - 0xfec0)] else none

def ByteReader.kana : ByteReader := fun b _ =>
  if 0xa1 ≤ b.toNat ∧ b.toNat ≤ 0xdf then some ([Char.ofNat (0xfec0 + b.toNat)], 0) else none

def romanByte? (c : Char) : Option (List UInt8) :=
  if c = '¥' then some [0x5c] else if c = '‾' then some [0x7e] else none

namespace ShiftJis

def encode? (c : Char) : Option (List UInt8) :=
  asciiByte? c <|> romanByte? c <|> kanaByte? c <|> (basic.position? c).bind shiftedRows.bytes?

def read : ByteReader :=
  .firstOf [.ascii, .kana, .pair shiftedRows fun n => one? (basic.charAt? n)]

end ShiftJis

namespace EucJp

def encode? (c : Char) : Option (List UInt8) :=
  asciiByte? c <|> romanByte? c <|> (kanaByte? c).map (0x8e :: ·)
    <|> (basic.position? c).bind highRows.bytes?
    <|> ((supplement.position? c).bind highRows.bytes?).map (0x8f :: ·)

def read : ByteReader :=
  .firstOf [.ascii, .behind 0x8e .kana,
    .behind 0x8f (.pair highRows fun n => one? (supplement.charAt? n)),
    .pair highRows fun n => one? (basic.charAt? n)]

end EucJp

namespace CodePage932

def privateSize : Nat := 20 * 94

def privateStart : Nat := 0xe000

def controls : List (UInt8 × Char) :=
  [(0x80, '\u0080'), (0xa0, '\uf8f0'), (0xfd, '\uf8f1'), (0xfe, '\uf8f2'), (0xff, '\uf8f3')]

def at? (n : Nat) : Option Char :=
  vendor.charAt? n <|>
    (if planeSize ≤ n ∧ n < planeSize + privateSize then
      some (Char.ofNat (privateStart + (n - planeSize)))
    else none) <|> basic.charAt? n

def position? (c : Char) : Option Nat :=
  if privateStart ≤ c.toNat ∧ c.toNat < privateStart + privateSize then
    some (planeSize + (c.toNat - privateStart))
  else basic.position? c <|> vendor.position? c

def encode? (c : Char) : Option (List UInt8) :=
  asciiByte? c <|> (controls.find? fun e => e.2 == c).map (fun e => [e.1]) <|> kanaByte? c
    <|> (position? c).bind shiftedRows.bytes?

def read : ByteReader :=
  .firstOf [.ascii, fun b _ => (controls.lookup b).map fun c => ([c], 0), .kana,
    .pair shiftedRows fun n => one? (at? n)]

end CodePage932

inductive JisEdition
  | year2000 | year2004
  deriving DecidableEq

namespace JisEdition

def lacks (e : JisEdition) (c : Char) : Bool :=
  e = year2000 && "俱剝吞噓姸屛幷瘦繫鬜𠮟".contains c

def revised : Nat := 2282

def inFirst? (e : JisEdition) (n : Nat) : Option (List Char) :=
  (marked.lookup n).map String.toList
    <|> one? ((basic.charAt? n <|> additions.charAt? n).filter fun c => !e.lacks c)

def inSecond? (e : JisEdition) (n : Nat) : Option (List Char) :=
  if e = year2000 ∧ n = revised then some ['鬝'] else one? (second.charAt? n)

def firstPosition? (e : JisEdition) (c : Char) : Option Nat :=
  if e.lacks c then none else basic.position? c <|> additions.position? c

def secondPosition? (e : JisEdition) (c : Char) : Option Nat :=
  if e.lacks c then none
  else if e = year2000 ∧ c = '鬝' then some revised
  else second.position? c

def markedPosition? (e : JisEdition) (c mark : Char) : Option Nat :=
  (marked.find? fun p => p.2.toList == [c, mark]).map Prod.fst
    <|> if mark = '\x00' ∧ marked.any fun p => p.2.toList.head? == some c then e.firstPosition? c
      else none

end JisEdition

namespace ShiftJisX0213

/-- The place of the full-width backslash, which holds the narrow one here: single bytes are those of
JIS X 0201. -/
def backslash : Nat := 31

def at? (e : JisEdition) (n : Nat) : Option (List Char) :=
  if n = backslash then some ['\\']
  else if n < planeSize then e.inFirst? n
  else e.inSecond? (n - planeSize)

def position? (e : JisEdition) (c : Char) : Option Nat :=
  if c = '\\' then some backslash
  else (e.firstPosition? c).filter (· ≠ backslash) <|> (e.secondPosition? c).map (planeSize + ·)

def encode? (e : JisEdition) (c : Char) : Option (List UInt8) :=
  (asciiByte? c).filter (fun _ => c ≠ '\\' ∧ c ≠ '~') <|> romanByte? c <|> kanaByte? c
    <|> (position? e c).bind shiftedRows.bytes?

def encodeMarked? (e : JisEdition) (c mark : Char) : Option (List UInt8) :=
  (e.markedPosition? c mark).bind shiftedRows.bytes?

def readRoman : ByteReader := fun b _ =>
  if b = 0x5c then some (['¥'], 0) else if b = 0x7e then some (['‾'], 0) else none

def read (e : JisEdition) : ByteReader :=
  .firstOf [readRoman, .ascii, .kana, .pair shiftedRows (at? e)]

end ShiftJisX0213

namespace EucJisX0213

def tilde : Nat := 111

/-- What the planes of JIS X 0213 lack may be taken from JIS X 0212, whose rows the second plane leaves
free. -/
def encode? (e : JisEdition) (c : Char) : Option (List UInt8) :=
  asciiByte? c <|> (kanaByte? c).map (0x8e :: ·)
    <|> ((if c = '～' then some tilde else e.firstPosition? c).bind highRows.bytes?)
    <|> ((e.secondPosition? c).bind highSecondRows.bytes?).map (0x8f :: ·)
    <|> (((supplement.position? c).filter fun _ => !e.lacks c).bind highRows.bytes?).map (0x8f :: ·)

def encodeMarked? (e : JisEdition) (c mark : Char) : Option (List UInt8) :=
  (e.markedPosition? c mark).bind highRows.bytes?

def read (e : JisEdition) : ByteReader :=
  .firstOf [.ascii, .behind 0x8e .kana, .behind 0x8f (.pair highSecondRows e.inSecond?),
    .behind 0x8f (.pair highRows fun n => one? (supplement.charAt? n)),
    .pair highRows fun n => if n = tilde then some ['～'] else e.inFirst? n]

end EucJisX0213

end HttpContract.Encoding
