import HttpContract.Encoding.Chinese
import HttpContract.Encoding.Japanese
import HttpContract.Encoding.Korean

/-!
The encodings of East Asia in which the bytes of a character do not depend on those before it.
-/
namespace HttpContract.Encoding

inductive Multibyte
  | big5 | big5Hkscs | codePage932 | codePage949 | codePage950
  | eucJisX0213 (edition : JisEdition) | eucJp | eucKr | gb18030 | gb2312 | gbk | johab
  | shiftJis | shiftJisX0213 (edition : JisEdition)
  deriving DecidableEq

namespace Multibyte

def all : List (String × Multibyte) :=
  [("big5", big5), ("big5hkscs", big5Hkscs), ("cp932", codePage932), ("cp949", codePage949),
    ("cp950", codePage950), ("euc_jis_2004", eucJisX0213 .year2004),
    ("euc_jisx0213", eucJisX0213 .year2000), ("euc_jp", eucJp), ("euc_kr", eucKr),
    ("gb18030", gb18030), ("gb2312", gb2312), ("gbk", gbk), ("johab", johab),
    ("shift_jis", shiftJis), ("shift_jis_2004", shiftJisX0213 .year2004),
    ("shift_jisx0213", shiftJisX0213 .year2000)]

def name (m : Multibyte) : String := ((all.find? fun e => e.2 == m).map Prod.fst).getD ""

def encode? : Multibyte → Char → Option (List UInt8)
  | big5 => Big5.encode?
  | big5Hkscs => Big5Hkscs.encode?
  | codePage932 => CodePage932.encode?
  | codePage949 => CodePage949.encode?
  | codePage950 => CodePage950.encode?
  | eucJisX0213 edition => EucJisX0213.encode? edition
  | eucJp => EucJp.encode?
  | eucKr => EucKr.encode?
  | gb18030 => fun c => some (Gb18030.encode c)
  | gb2312 => Gb2312.encode?
  | gbk => Gbk.encode?
  | johab => Johab.encode?
  | shiftJis => ShiftJis.encode?
  | shiftJisX0213 edition => ShiftJisX0213.encode? edition

def encodeMarked? : Multibyte → Char → Char → Option (List UInt8)
  | big5Hkscs => Big5Hkscs.encodeMarked?
  | eucJisX0213 edition => EucJisX0213.encodeMarked? edition
  | shiftJisX0213 edition => ShiftJisX0213.encodeMarked? edition
  | _ => fun _ _ => none

def reader : Multibyte → ByteReader
  | big5 => Big5.read
  | big5Hkscs => Big5Hkscs.read
  | codePage932 => CodePage932.read
  | codePage949 => CodePage949.read
  | codePage950 => CodePage950.read
  | eucJisX0213 edition => EucJisX0213.read edition
  | eucJp => EucJp.read
  | eucKr => EucKr.read
  | gb18030 => Gb18030.read
  | gb2312 => Gb2312.read
  | gbk => Gbk.read
  | johab => Johab.read
  | shiftJis => ShiftJis.read
  | shiftJisX0213 edition => ShiftJisX0213.read edition

end Multibyte

end HttpContract.Encoding
