import HttpContract.Encoding.CodedSet
import HttpContract.Encoding.KoreanTable

/-!
The Korean encodings without escapes. KS X 1001 has only some of the Hangul syllables; each encoding
has its own way to write the others.
-/
namespace HttpContract.Encoding

namespace Hangul

def initials : List Char := "ㄱㄲㄴㄷㄸㄹㅁㅂㅃㅅㅆㅇㅈㅉㅊㅋㅌㅍㅎ".toList

def medials : List Char := "ㅏㅐㅑㅒㅓㅔㅕㅖㅗㅘㅙㅚㅛㅜㅝㅞㅟㅠㅡㅢㅣ".toList

def finals : List Char := "ㅤㄱㄲㄳㄴㄵㄶㄷㄹㄺㄻㄼㄽㄾㄿㅀㅁㅂㅄㅅㅆㅇㅈㅊㅋㅌㅍㅎ".toList

def firstSyllable : Nat := 0xac00

def syllableCount : Nat := 19 * 21 * 28

def number? (c : Char) : Option Nat :=
  if firstSyllable ≤ c.toNat ∧ c.toNat < firstSyllable + syllableCount then
    some (c.toNat - firstSyllable)
  else none

def compose (initial medial final : Nat) : Char :=
  Char.ofNat (firstSyllable + (initial * 21 + medial) * 28 + final)

end Hangul

namespace EucKr

def filler : Char := '\u3164'

def letterBytes (c : Char) : List UInt8 :=
  ((KoreanTable.basic.position? c).bind highRows.bytes?).getD []

def spelled? (c : Char) : Option (List UInt8) := do
  let n ← Hangul.number? c
  let initial ← Hangul.initials[n / 588]?
  let medial ← Hangul.medials[n / 28 % 21]?
  let final ← Hangul.finals[n % 28]?
  return [filler, initial, medial, final].flatMap letterBytes

def encode? (c : Char) : Option (List UInt8) :=
  asciiByte? c <|> (KoreanTable.basic.position? c).bind highRows.bytes? <|> spelled? c

def charAt? (lead trail : UInt8) : Option Char :=
  (highRows.position? lead trail).bind KoreanTable.basic.charAt?

def readSpelled : ByteReader := fun lead rest =>
  match rest with
  | trail :: a :: b :: c :: d :: e :: f :: _ =>
    if charAt? lead trail = some filler then do
      let initial ← Hangul.initials.idxOf? (← charAt? a b)
      let medial ← Hangul.medials.idxOf? (← charAt? c d)
      let final ← Hangul.finals.idxOf? (← charAt? e f)
      return ([Hangul.compose initial medial final], 7)
    else none
  | _ => none

def read : ByteReader :=
  .firstOf [.ascii, readSpelled,
    .pair highRows fun n => one? ((KoreanTable.basic.charAt? n).filter (· ≠ filler))]

end EucKr

namespace CodePage949

def areas : List Layout :=
  [⟨[(0x81, 0xa0)], [(0x41, 0x5a), (0x61, 0x7a), (0x81, 0xfe)]⟩,
    ⟨[(0xa1, 0xc6)], [(0x41, 0x5a), (0x61, 0x7a), (0x81, 0xa0)]⟩]

def taken : List Nat := KoreanTable.basic.chars.filterMap Hangul.number?

def position? (c : Char) : Option Nat :=
  (Hangul.number? c).map fun n => n - countUpTo taken n

def syllable? (i : Nat) : Option Char :=
  let taken := taken
  let n := skipTaken i (countUpTo taken) (taken.length + 1) i
  if n < Hangul.syllableCount then some (Char.ofNat (Hangul.firstSyllable + n)) else none

def encode? (c : Char) : Option (List UInt8) :=
  asciiByte? c <|> (KoreanTable.basic.position? c).bind highRows.bytes?
    <|> (position? c).bind (Layout.bytesIn? areas)

def read : ByteReader :=
  .firstOf [.ascii, .pair highRows fun n => one? (KoreanTable.basic.charAt? n),
    .pairIn areas fun i => one? (syllable? i)]

end CodePage949

namespace Johab

def initialCodes : Ranges := [(2, 20)]

def medialCodes : Ranges := [(3, 7), (10, 15), (18, 23), (26, 29)]

def finalCodes : Ranges := [(1, 17), (19, 29)]

def noInitial : Nat := 1

def noMedial : Nat := 2

def noFinal : Nat := 1

def word (initial medial final : Nat) : List UInt8 :=
  let n := 0x8000 + initial * 0x400 + medial * 0x20 + final
  [UInt8.ofNat (n / 0x100), UInt8.ofNat n]

def letter? (c : Char) : Option (List UInt8) :=
  (Hangul.initials.idxOf? c).bind (fun i =>
      (initialCodes.member? i).map fun code => word code noMedial noFinal)
    <|> (Hangul.medials.idxOf? c).bind (fun i =>
      (medialCodes.member? i).map fun code => word noInitial code noFinal)
    <|> ((Hangul.finals.idxOf? c).filter (· ≠ 0)).bind fun i =>
      (finalCodes.member? i).map fun code => word noInitial noMedial code

def syllable? (c : Char) : Option (List UInt8) := do
  let n ← Hangul.number? c
  return word (← initialCodes.member? (n / 588)) (← medialCodes.member? (n / 28 % 21))
    (← finalCodes.member? (n % 28))

def symbolRows : Layout := ⟨[(0xd9, 0xde), (0xe0, 0xf9)], [(0x31, 0x7e), (0x91, 0xfe)]⟩

def firstRows : Nat := 12 * 94

def skippedRows : Nat := 29 * 94

def symbol? (c : Char) : Option (List UInt8) := do
  let n ← KoreanTable.basic.position? c
  if n < firstRows then symbolRows.bytes? n
  else if firstRows + skippedRows ≤ n then symbolRows.bytes? (n - skippedRows)
  else none

def encode? (c : Char) : Option (List UInt8) :=
  asciiByte? c <|> letter? c <|> syllable? c <|> symbol? c

def symbolAt? (n : Nat) : Option Char :=
  (KoreanTable.basic.charAt? (if n < firstRows then n else n + skippedRows)).filter fun c =>
    (letter? c).isNone

def charOfParts? (initial medial final : Nat) : Option Char :=
  match initialCodes.index? initial, medialCodes.index? medial, finalCodes.index? final with
  | some i, some m, some f => some (Hangul.compose i m f)
  | some i, none, some f => if medial = noMedial ∧ f = 0 then Hangul.initials[i]? else none
  | none, some m, some f => if initial = noInitial ∧ f = 0 then Hangul.medials[m]? else none
  | none, none, some f =>
    if initial = noInitial ∧ medial = noMedial then
      if f = 0 then some '\u3000' else Hangul.finals[f]?
    else none
  | _, _, none => none

def readWord : ByteReader := fun lead rest => do
  let trail ← rest.head?
  let n := lead.toNat * 0x100 + trail.toNat
  if n < 0x8000 then none
  else
    let c ← charOfParts? (n / 0x400 % 0x20) (n / 0x20 % 0x20) (n % 0x20)
    return ([c], 1)

def read : ByteReader :=
  .firstOf [.ascii, .pair symbolRows fun n => one? (symbolAt? n), readWord]

end Johab

end HttpContract.Encoding
