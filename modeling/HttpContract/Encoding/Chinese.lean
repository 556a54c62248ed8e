import HttpContract.Encoding.ChineseTable
import HttpContract.Encoding.CodedSet
import HttpContract.Encoding.TaiwanTable

/-!
The Chinese encodings without escapes: GB 2312 and its extensions, Big5 and its extensions.
-/
namespace HttpContract.Encoding

namespace Gb2312

def encode? (c : Char) : Option (List UInt8) :=
  asciiByte? c <|> (ChineseTable.basic.position? c).bind highRows.bytes?

def read : ByteReader :=
  .firstOf [.ascii, .pair highRows fun n => one? (ChineseTable.basic.charAt? n)]

end Gb2312

namespace Gbk

def rows : Layout := ⟨[(0x81, 0xfe)], [(0x40, 0x7e), (0x80, 0xfe)]⟩

def areas : List Layout :=
  [⟨[(0x81, 0xa0)], [(0x40, 0x7e), (0x80, 0xfe)]⟩, ⟨[(0xaa, 0xfe)], [(0x40, 0x7e), (0x80, 0xa0)]⟩]

def firstIdeograph : Nat := 0x4e00

def ideographCount : Nat := 20902

def number? (c : Char) : Option Nat :=
  if firstIdeograph ≤ c.toNat ∧ c.toNat < firstIdeograph + ideographCount then
    some (c.toNat - firstIdeograph)
  else none

def taken : List Nat := ChineseTable.basic.chars.filterMap number?

def position? (c : Char) : Option Nat := (number? c).map fun n => n - countUpTo taken n

def ideograph? (i : Nat) : Option Char :=
  let taken := taken
  let n := skipTaken i (countUpTo taken) (taken.length + 1) i
  if n < ideographCount then some (Char.ofNat (firstIdeograph + n)) else none

def replaced : List Char := ['・', '―']

def basicPosition? (c : Char) : Option Nat :=
  if replaced.contains c then none else ChineseTable.basic.position? c

def encodeWide? (c : Char) : Option (List UInt8) :=
  (basicPosition? c).bind highRows.bytes? <|> (ChineseTable.extension.position? c).bind rows.bytes?
    <|> (position? c).bind (Layout.bytesIn? areas)

def encode? (c : Char) : Option (List UInt8) := asciiByte? c <|> encodeWide? c

def readWide : ByteReader :=
  .firstOf [.pair rows fun n => one? (ChineseTable.extension.charAt? n),
    .pair highRows fun n => one? (ChineseTable.basic.charAt? n),
    .pairIn areas fun i => one? (ideograph? i)]

def read : ByteReader := .firstOf [.ascii, readWide]

end Gbk

namespace Gb18030

/-- The places of two bytes without a character of their own hold characters of private use: the
first position of a run, the first of its characters, and their number. -/
def privateRuns : List (Nat × Nat × Nat) := [
  (6080, 0xe4c6, 96), (6270, 0xe526, 96), (6376, 0xe766, 6), (6433, 0xe76d, 1), (6444, 0xe76e, 2),
  (6458, 0xe770, 2), (6460, 0xe586, 96), (6650, 0xe5e6, 96), (6829, 0xe772, 11),
  (6840, 0xe646, 96), (7022, 0xe77d, 8), (7030, 0xe6a6, 96), (7150, 0xe785, 8), (7182, 0xe78d, 7),
  (7201, 0xe794, 2), (7208, 0xe796, 1), (7211, 0xe797, 9), (7220, 0xe706, 96), (7349, 0xe7a0, 15),
  (7397, 0xe7af, 13), (7495, 0xe7bc, 11), (7533, 0xe7c7, 1), (7538, 0xe7c9, 4),
  (7579, 0xe7cd, 21), (7624, 0xe7e2, 1), (7627, 0xe7e3, 1), (7629, 0xe7e4, 3), (7686, 0xe7f4, 13),
  (7775, 0xe801, 15), (7886, 0xe000, 94), (8076, 0xe05e, 94), (8266, 0xe0bc, 94),
  (8456, 0xe11a, 94), (8646, 0xe178, 94), (8836, 0xe1d6, 94), (16525, 0xe810, 5),
  (22706, 0xe234, 94), (22896, 0xe292, 94), (23086, 0xe2f0, 94), (23276, 0xe34e, 94),
  (23466, 0xe3ac, 94), (23656, 0xe40a, 94), (23767, 0xe816, 3), (23775, 0xe81e, 1),
  (23783, 0xe826, 1), (23788, 0xe82b, 2), (23794, 0xe831, 2), (23804, 0xe83b, 1),
  (23812, 0xe843, 1), (23829, 0xe854, 2), (23845, 0xe864, 1), (23846, 0xe468, 94)]

def privateAt? (n : Nat) : Option Char :=
  privateRuns.findSome? fun (first, code, count) =>
    if first ≤ n ∧ n < first + count then some (Char.ofNat (code + (n - first))) else none

def privatePosition? (c : Char) : Option Nat :=
  privateRuns.findSome? fun (first, code, count) =>
    if code ≤ c.toNat ∧ c.toNat < code + count then some (first + (c.toNat - code)) else none

def symbols : List Nat :=
  ((ChineseTable.basic.chars.filter fun c => (Gbk.number? c).isNone && !Gbk.replaced.contains c)
    ++ ChineseTable.extension.chars ++ ChineseTable.later.chars).map Char.toNat

def countRun (first count n : Nat) : Nat := min (n + 1 - first) count

def passed (symbols : List Nat) (n : Nat) : Nat :=
  countRun 0 0x80 n + countUpTo symbols n + countRun Gbk.firstIdeograph Gbk.ideographCount n
    + countRun 0xd800 0x800 n + privateRuns.foldr (fun r k => countRun r.2.1 r.2.2 n + k) 0

def supplementary : Nat := 189000

def fourBytes (n : Nat) : List UInt8 :=
  [UInt8.ofNat (0x81 + n / 12600), UInt8.ofNat (0x30 + n / 1260 % 10),
    UInt8.ofNat (0x81 + n / 10 % 126), UInt8.ofNat (0x30 + n % 10)]

/-- The characters that have no code of two bytes are counted in the order of Unicode. -/
def fourByteCode (c : Char) : Nat :=
  if c.toNat < 0x10000 then c.toNat - passed symbols c.toNat
  else supplementary + (c.toNat - 0x10000)

def encode (c : Char) : List UInt8 :=
  (Gbk.encode? c <|> (ChineseTable.later.position? c).bind Gbk.rows.bytes?
    <|> (privatePosition? c).bind Gbk.rows.bytes?).getD (fourBytes (fourByteCode c))

def ofFourByteCode? (n : Nat) : Option Char :=
  if supplementary ≤ n then
    let code := 0x10000 + (n - supplementary)
    if code < 0x110000 then some (Char.ofNat code) else none
  else
    let symbols := symbols
    let code := skipTaken n (passed symbols) 0x10000 n
    if code < 0x10000 then some (Char.ofNat code) else none

def codeDigits : Ranges := [(0x30, 0x39)]

def codeLetters : Ranges := [(0x81, 0xfe)]

def readFour : ByteReader := fun a rest =>
  match rest with
  | b :: c :: d :: _ => do
    let a ← codeLetters.index? a.toNat
    let b ← codeDigits.index? b.toNat
    let c ← codeLetters.index? c.toNat
    let d ← codeDigits.index? d.toNat
    let char ← ofFourByteCode? (((a * 10 + b) * 126 + c) * 10 + d)
    return ([char], 3)
  | _ => none

def read : ByteReader :=
  .firstOf [.ascii, Gbk.readWide,
    .pair Gbk.rows fun n => one? (ChineseTable.later.charAt? n <|> privateAt? n), readFour]

end Gb18030

namespace Big5

open TaiwanTable

def rows : Layout := ⟨[(0x81, 0xfe)], [(0x40, 0x7e), (0xa1, 0xfe)]⟩

/-- Of two places of a character the later one is written. -/
def encode? (c : Char) : Option (List UInt8) :=
  asciiByte? c <|> (basic.lastPosition? c).bind rows.bytes?

def read : ByteReader := .firstOf [.ascii, .pair rows fun n => one? (basic.charAt? n)]

end Big5

namespace CodePage950

open TaiwanTable

def position? (c : Char) : Option Nat :=
  (basic.lastPosition? c).filter (fun n => (vendor.charAt? n).isNone) <|> basic.position? c
    <|> vendor.position? c

def encode? (c : Char) : Option (List UInt8) :=
  asciiByte? c <|> (position? c).bind Big5.rows.bytes?

def read : ByteReader :=
  .firstOf [.ascii, .pair Big5.rows fun n => one? (vendor.charAt? n <|> basic.charAt? n)]

end CodePage950

namespace Big5Hkscs

open TaiwanTable

def marked : List (Nat × String) :=
  [(1133, "Ê\u0304"), (1135, "Ê\u030c"), (1164, "ê\u0304"), (1166, "ê\u030c")]

def removed : List Nat := [10942, 10946, 10948, 10950, 10957, 10958]

def encode? (c : Char) : Option (List UInt8) :=
  asciiByte? c <|> (hongKong.lastPosition? c <|> basic.lastPosition? c).bind Big5.rows.bytes?

def encodeMarked? (c mark : Char) : Option (List UInt8) :=
  ((marked.find? fun e => e.2.toList == [c, mark]).map Prod.fst).bind Big5.rows.bytes?

def at? (n : Nat) : Option (List Char) :=
  (marked.lookup n).map String.toList
    <|> one? ((hongKong.charAt? n <|> basic.charAt? n).filter fun _ => !removed.contains n)

def read : ByteReader := .firstOf [.ascii, .pair Big5.rows at?]

end Big5Hkscs

end HttpContract.Encoding
