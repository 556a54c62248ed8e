import HttpContract.Encoding.Chinese
import HttpContract.Encoding.CodePageTable
import HttpContract.Encoding.Japanese
import HttpContract.Encoding.Korean

/-!
Encodings that call up sets of characters by escape sequences or shifts. A text is first cut into
pieces, each in one of the sets; what stands between the pieces follows from the sets alone.
-/
namespace HttpContract.Encoding

inductive CodeSet
  | ascii | roman | kana | jis1978 | jis1983 | jisSupplement
  | jisFirst (edition : JisEdition) | jisSecond (edition : JisEdition)
  | korean | chinese | latin1 | greek
  deriving DecidableEq

namespace CodeSet

def isDouble : CodeSet → Bool
  | ascii | roman | kana | latin1 | greek => false
  | _ => true

def finalByte : CodeSet → Char
  | ascii => 'B'
  | roman => 'J'
  | kana => 'I'
  | jis1978 => '@'
  | jis1983 => 'B'
  | jisSupplement => 'D'
  | jisFirst .year2000 => 'O'
  | jisFirst .year2004 => 'Q'
  | jisSecond _ => 'P'
  | korean => 'C'
  | chinese => 'A'
  | latin1 => 'A'
  | greek => 'F'

def bytes? : CodeSet → Char → Option (List UInt8)
  | ascii, c => asciiByte? c
  | roman, c => romanByte? c
  | kana, c => (kanaByte? c).map fun bytes => bytes.map (· - 0x80)
  | jis1978, c | jis1983, c => (JapaneseTable.basic.position? c).bind lowRows.bytes?
  | jisSupplement, c => (JapaneseTable.supplement.position? c).bind lowRows.bytes?
  | jisFirst e, c => (e.firstPosition? c).bind lowRows.bytes?
  | jisSecond e, c => (e.secondPosition? c).bind lowSecondRows.bytes?
  | korean, c => (KoreanTable.basic.position? c).bind lowRows.bytes?
  | chinese, c => (ChineseTable.basic.position? c).bind lowRows.bytes?
  | latin1, _ | greek, _ => none

def read : CodeSet → ByteReader
  | ascii => .ascii
  | roman => .firstOf [ShiftJisX0213.readRoman, .ascii]
  | kana => fun b rest => if b.toNat < 0x80 then ByteReader.kana (b + 0x80) rest else none
  | jis1978 | jis1983 => .pair lowRows fun n => one? (JapaneseTable.basic.charAt? n)
  | jisSupplement => .pair lowRows fun n => one? (JapaneseTable.supplement.charAt? n)
  | jisFirst e => .pair lowRows e.inFirst?
  | jisSecond _ => .pair lowSecondRows fun n => one? (JapaneseTable.second.charAt? n)
  | korean => .pair lowRows fun n => one? (KoreanTable.basic.charAt? n)
  | chinese => .pair lowRows fun n => one? (ChineseTable.basic.charAt? n)
  | latin1 | greek => fun _ _ => none

def greekAt? (n : Nat) : Option Char :=
  if n < 0xa0 then some (Char.ofNat n)
  else if [0xa4, 0xa5, 0xaa].contains n then none
  else do
    let page ← CodePageTable.pages.lookup "iso8859_7"
    (page.toList[n - 0x80]?).filter (· ≠ '\ufffe')

def readUpper : CodeSet → ByteReader
  | ascii => .ascii
  | latin1 => fun b _ => if b.toNat < 0x80 then some ([Char.ofNat (b.toNat + 0x80)], 0) else none
  | greek => fun b _ => (greekAt? (b ^^^ 0x80).toNat).map fun c => ([c], 0)
  | _ => fun _ _ => none

end CodeSet

abbrev SetPiece := CodeSet × List UInt8

/-- The pieces after another, with what `call` says before each one that is of another set than the
one before it. A text begins and ends in ASCII. -/
def callSets (call : CodeSet → List UInt8) : CodeSet → List SetPiece → List UInt8
  | now, [] => if now = .ascii then [] else call .ascii
  | now, (set, bytes) :: rest =>
    (if set = now then [] else call set) ++ bytes ++ callSets call set rest

namespace Hz

def tilde : UInt8 := 0x7e

def call : CodeSet → List UInt8
  | .ascii => [tilde, 0x7d]
  | _ => [tilde, 0x7b]

def piece? (c : Char) : Option SetPiece :=
  if c = '~' then some (.ascii, [tilde, tilde])
  else (CodeSet.ascii.bytes? c).map (Prod.mk .ascii)
    <|> (CodeSet.chinese.bytes? c).map (Prod.mk .chinese)

/-- The text after a tilde: another one stands for itself, a line break for nothing, and braces change
the set. `shifted` tells whether it is the Chinese one. -/
def read (shifted : Bool) : List UInt8 → Option (List Char)
  | [] => some []
  | [b] => if shifted || b = tilde || 0x80 ≤ b.toNat then none else some [Char.ofNat b.toNat]
  | b :: d :: rest =>
    if b = tilde then
      if d = tilde && !shifted then (read shifted rest).map ('~' :: ·)
      else if d = 0x7b && !shifted then read true rest
      else if d = 0x0a && !shifted then read shifted rest
      else if d = 0x7d && shifted then read false rest
      else none
    else if 0x80 ≤ b.toNat then none
    else if shifted then
      match CodeSet.chinese.read b [d] with
      | some (s, _) => (read shifted rest).map (s ++ ·)
      | none => none
    else (read shifted (d :: rest)).map (Char.ofNat b.toNat :: ·)

end Hz

inductive Iso2022
  | japanese | japanese1 | japanese2 | japanese3 | japanese2004 | japaneseExtended | korean
  deriving DecidableEq

namespace Iso2022

def sets : Iso2022 → List CodeSet
  | japanese => [.jis1983, .roman, .jis1978]
  | japanese1 => [.jis1983, .jisSupplement, .roman, .jis1978]
  | japanese2 =>
    [.jis1983, .jisSupplement, .korean, .chinese, .roman, .jis1978, .latin1, .greek]
  | japanese3 => [.jis1983, .jisFirst .year2000, .jisSecond .year2000]
  | japanese2004 => [.jis1983, .jisFirst .year2004, .jisSecond .year2004]
  | japaneseExtended => [.jis1983, .jisSupplement, .roman, .kana, .jis1978]
  | korean => [.korean]

def edition? : Iso2022 → Option JisEdition
  | japanese3 => some .year2000
  | japanese2004 => some .year2004
  | _ => none

def hasSingleShift (v : Iso2022) : Bool := v = japanese2

def hasShifts (v : Iso2022) : Bool := v = korean

def all : List (String × Iso2022) :=
  [("iso2022_jp", japanese), ("iso2022_jp_1", japanese1), ("iso2022_jp_2", japanese2),
    ("iso2022_jp_3", japanese3), ("iso2022_jp_2004", japanese2004),
    ("iso2022_jp_ext", japaneseExtended), ("iso2022_kr", korean)]

def name (v : Iso2022) : String := ((all.find? fun e => e.2 == v).map Prod.fst).getD ""

def piece? (v : Iso2022) (c : Char) : Option SetPiece :=
  (CodeSet.ascii :: v.sets).findSome? fun set => (set.bytes? c).map (Prod.mk set)

def markedPiece? (v : Iso2022) (c mark : Char) : Option SetPiece := do
  let edition ← v.edition?
  let bytes ← (edition.markedPosition? c mark).bind lowRows.bytes?
  return (.jisFirst edition, bytes)

def escape : UInt8 := 0x1b

def shiftOut : UInt8 := 0x0e

def shiftIn : UInt8 := 0x0f

def bytesOf (s : String) : List UInt8 := s.toList.map fun c => UInt8.ofNat c.toNat

def call (set : CodeSet) : List UInt8 :=
  escape :: bytesOf (
    (if set = .jis1983 then "$" else if set.isDouble then "$(" else "(")
      ++ set.finalByte.toString)

def callShift : CodeSet → List UInt8
  | .ascii => [shiftIn]
  | _ => [shiftOut]

def header : List UInt8 := escape :: bytesOf "$)C"

def write (v : Iso2022) (pieces : List SetPiece) : List UInt8 :=
  if v.hasShifts then
    let isPlain (p : SetPiece) : Bool := p.1 = .ascii
    let rest := pieces.dropWhile isPlain
    (pieces.takeWhile isPlain).flatMap Prod.snd
      ++ (if rest.isEmpty then [] else header) ++ callSets callShift .ascii rest
  else callSets call .ascii pieces

structure State where
  main : CodeSet
  shifted : CodeSet
  single : CodeSet
  isShifted : Bool
  /-- Within a sequence that is of no meaning here. -/
  isForeign : Bool

def start : State := ⟨.ascii, .ascii, .ascii, false, false⟩

def isFinal (b : UInt8) : Bool := 0x40 ≤ b.toNat && b.toNat ≤ 0x5a

def named? (v : Iso2022) (isDouble : Bool) (b : UInt8) : Option CodeSet :=
  (CodeSet.ascii :: v.sets).find? fun set =>
    set.isDouble == isDouble && set.finalByte.toNat == b.toNat

def called? (v : Iso2022) (st : State) (rest : List UInt8) : Option (State × Nat) :=
  match rest with
  | 0x24 :: 0x28 :: b :: _ => (v.named? true b).map fun set => ({ st with main := set }, 3)
  | 0x24 :: 0x29 :: b :: _ => (v.named? true b).map fun set => ({ st with shifted := set }, 3)
  | 0x24 :: b :: _ => (v.named? true b).map fun set => ({ st with main := set }, 2)
  | 0x28 :: b :: _ => (v.named? false b).map fun set => ({ st with main := set }, 2)
  | 0x29 :: b :: _ => (v.named? false b).map fun set => ({ st with shifted := set }, 2)
  | 0x2e :: b :: _ =>
    if v.hasSingleShift then (v.named? false b).map fun set => ({ st with single := set }, 2)
    else none
  | _ => none

def isAnnounced (v : Iso2022) (rest : List UInt8) : Bool :=
  !v.hasShifts && (rest.drop 2).take 3 == escape :: bytesOf "$B"
    && (rest.take 2 == bytesOf "&@" || (rest[1]?.any fun b => !isFinal b))

def readEscape (v : Iso2022) (st : State) (rest : List UInt8) :
    Option (List Char × Nat × State) := do
  let b ← rest.head?
  if (bytesOf "()$.&").contains b then
    if v.isAnnounced rest then return ([], 5, { st with main := .jis1983 })
    let (next, further) ← v.called? st rest
    return ([], further, next)
  else if v.hasSingleShift ∧ b = 0x4e then
    let c ← rest[1]?
    let (s, _) ← st.single.readUpper c []
    return (s, 2, st)
  else return (['\x1b'], 0, { st with isForeign := true })

def step (v : Iso2022) (st : State) (b : UInt8) (rest : List UInt8) :
    Option (List Char × Nat × State) :=
  let itself : List Char := [Char.ofNat b.toNat]
  if st.isForeign then some (itself, 0, { st with isForeign := !isFinal b })
  else if b = escape then v.readEscape st rest
  else if v.hasShifts ∧ b = shiftIn then some ([], 0, { st with isShifted := false })
  else if v.hasShifts ∧ b = shiftOut then some ([], 0, { st with isShifted := true })
  else if b = 0x0a then some (itself, 0, { st with isShifted := false })
  else if b.toNat < 0x20 then some (itself, 0, st)
  else ((if st.isShifted then st.shifted else st.main).read b rest).map fun (s, further) =>
    (s, further, st)

def read (v : Iso2022) (st : State) : List UInt8 → Option (List Char)
  | [] => some []
  | b :: rest =>
    match v.step st b rest with
    | some (s, further, next) => (read v next (rest.drop further)).map (s ++ ·)
    | none => none
termination_by bytes => bytes.length
decreasing_by simp only [List.length_cons, List.length_drop]; omega

end Iso2022

end HttpContract.Encoding
