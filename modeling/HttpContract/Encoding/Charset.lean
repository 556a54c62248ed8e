import HttpContract.Encoding.AliasTable
import HttpContract.Encoding.CodePageTable
import HttpContract.Encoding.Escaped
import HttpContract.Encoding.HostName
import HttpContract.Encoding.Iso2022
import HttpContract.Encoding.Multibyte
import HttpContract.Encoding.Punycode
import HttpContract.Encoding.Utf7

/-!
Character encodings by name. Encoding a text may fail on characters that the encoding lacks;
decoding may fail on bytes that stand for no character.
-/
namespace HttpContract.Encoding

/-- The encodings of text. An order that is not given is told by a mark at the start, and written as
little-endian with such a mark. -/
inductive Charset
  | ascii
  | latin1
  | utf7
  | utf8 (marked : Bool)
  | utf16 (order : Option ByteOrder)
  | utf32 (order : Option ByteOrder)
  | codePage (page : List Char)
  | multibyte (m : Multibyte)
  | iso2022 (v : Iso2022)
  | hz
  /-- Escapes for all that is not plain ASCII, or only for what has no byte of its own. -/
  | escaped (wide : Bool)
  | punycode
  | hostName
  /-- Has no text at all. -/
  | undefined
  deriving DecidableEq

/-- What a name stands for: an encoding of text, or a transformation of bytes that no text can be
encoded with. -/
inductive Codec
  | text (charset : Charset)
  | transform
  deriving DecidableEq

inductive LookupFault
  | unknown (name : String)
  | notText (name : String)
  /-- The name holds the character that ends names elsewhere. -/
  | cut
  deriving DecidableEq

/-- Letters and digits in small letters and points stay; any other run between them becomes one
underscore. `gap` tells whether such a run has just been read. -/
def normalizedAfter (gap : Bool) : List Char → List Char
  | [] => []
  | c :: rest =>
    if Text.isAsciiLetter c || Text.isAsciiDigit c || c = '.' then
      if gap then '_' :: c.toLower :: normalizedAfter false rest
      else c.toLower :: normalizedAfter false rest
    else normalizedAfter true rest

def normalized (name : String) : String :=
  let isPart (c : Char) : Bool := Text.isAsciiLetter c || Text.isAsciiDigit c || c = '.'
  String.ofList (normalizedAfter false (name.toList.dropWhile fun c => !isPart c))

def canonical? (name : String) : Option String :=
  let n := normalized name
  let dotless := String.ofList (n.toList.map fun c => if c = '.' then '_' else c)
  match (AliasTable.aliases.lookup n).or (AliasTable.aliases.lookup dotless) with
  | some c => some c
  | none => if AliasTable.names.contains n then some n else none

def wholePage (page : String) : List Char :=
  if page.length = 128 then (List.range 128).map Char.ofNat ++ page.toList else page.toList

def codecOf (canonical : String) : Codec :=
  match canonical with
  | "ascii" => .text .ascii
  | "latin_1" | "charmap" => .text .latin1
  | "utf_8" => .text (.utf8 false)
  | "utf_8_sig" => .text (.utf8 true)
  | "utf_16" => .text (.utf16 none)
  | "utf_16_le" => .text (.utf16 (some .little))
  | "utf_16_be" => .text (.utf16 (some .big))
  | "utf_32" => .text (.utf32 none)
  | "utf_32_le" => .text (.utf32 (some .little))
  | "utf_32_be" => .text (.utf32 (some .big))
  | "base64_codec" | "bz2_codec" | "hex_codec" | "quopri_codec" | "rot_13" | "uu_codec"
  | "zlib_codec" => .transform
  | "utf_7" => .text .utf7
  | "hz" => .text .hz
  | "unicode_escape" => .text (.escaped false)
  | "raw_unicode_escape" => .text (.escaped true)
  | "punycode" => .text .punycode
  | "idna" => .text .hostName
  | name =>
    match Multibyte.all.lookup name, Iso2022.all.lookup name, CodePageTable.pages.lookup name with
    | some m, _, _ => .text (.multibyte m)
    | none, some v, _ => .text (.iso2022 v)
    | none, none, some page => .text (.codePage (wholePage page))
    | none, none, none => .text .undefined

def find (name : String) : Except LookupFault Codec :=
  if name.toList.contains '\x00' then .error .cut
  else match canonical? name with
    | some c => .ok (codecOf c)
    | none => .error (.unknown name)

def findText (name : String) : Except LookupFault Charset :=
  match find name with
  | .ok (.text charset) => .ok charset
  | .ok .transform => .error (.notText name)
  | .error fault => .error fault

structure Unencodable where
  codec : String
  reason : String
  bad : Char
  first : Nat
  last : Nat
  deriving DecidableEq

inductive EncodeFault
  | lacks (fault : Unencodable)
  | undefined
  | unreplaceable
  | noHostName
  deriving DecidableEq

inductive DecodeFault
  | undecodable
  | malformed
  deriving DecidableEq

def DecodeFault.ofName : Punycode.Fault → DecodeFault
  | .notAscii => undecodable
  | .badNumber => malformed

namespace Charset

def byteOf : Charset → Char → Option UInt8
  | ascii, c => if c.toNat < 0x80 then some (UInt8.ofNat c.toNat) else none
  | latin1, c => if c.toNat < 0x100 then some (UInt8.ofNat c.toNat) else none
  | codePage page, c =>
    if c = '\ufffe' then none
    else (page.reverse.findIdx? (· == c)).map fun i => UInt8.ofNat (page.length - 1 - i)
  | _, _ => none

def piece? : Charset → Char → Option SetPiece
  | utf8 _, c => some (.ascii, String.utf8EncodeChar c)
  | utf16 order, c => some (.ascii, utf16EncodeChar (order.getD .little) c)
  | utf32 order, c => some (.ascii, utf32EncodeChar (order.getD .little) c)
  | multibyte m, c => (m.encode? c).map (Prod.mk .ascii)
  | iso2022 v, c => v.piece? c
  | hz, c => Hz.piece? c
  | escaped false, c => some (.ascii, Escaped.escape c)
  | escaped true, c => some (.ascii, Escaped.escapeWide c)
  | charset, c => (byteOf charset c).map fun b => (.ascii, [b])

def markedPiece? : Charset → Char → Char → Option SetPiece
  | multibyte m, c, mark => (m.encodeMarked? c mark).map (Prod.mk .ascii)
  | iso2022 v, c, mark => v.markedPiece? c mark
  | _, _, _ => none

def mark : Charset → List UInt8
  | utf8 true => String.utf8EncodeChar '\ufeff'
  | utf16 none => utf16EncodeChar .little '\ufeff'
  | utf32 none => utf32EncodeChar .little '\ufeff'
  | _ => []

def assemble : Charset → List SetPiece → List UInt8
  | iso2022 v, pieces => v.write pieces
  | hz, pieces => callSets Hz.call .ascii pieces
  | charset, pieces => mark charset ++ pieces.flatMap Prod.snd

def cut (charset : Charset) : List Char → List (List Char)
  | [] => []
  | [c] => [[c]]
  | c :: d :: rest =>
    if (charset.markedPiece? c d).isSome then [c, d] :: cut charset rest
    else [c] :: cut charset (d :: rest)

def pieceOf? (charset : Charset) : List Char → Option SetPiece
  | [c] => charset.piece? c
  | [c, mark] => charset.markedPiece? c mark
  | _ => none

def codecName : Charset → String
  | ascii => "ascii"
  | latin1 => "latin-1"
  | codePage _ => "charmap"
  | multibyte m => m.name
  | iso2022 v => v.name
  | hz => "hz"
  | _ => "utf"

def lack : Charset → String
  | ascii => "ordinal not in range(128)"
  | latin1 => "ordinal not in range(256)"
  | codePage _ => "character maps to <undefined>"
  | _ => "illegal multibyte sequence"

def tellsRuns : Charset → Bool
  | multibyte _ | iso2022 _ | hz => false
  | _ => true

def lacking (charset : Charset) (cuts : List (List Char)) : Unencodable :=
  let good := cuts.takeWhile fun s => (charset.pieceOf? s).isSome
  let bad := ((cuts.drop good.length).takeWhile fun s => (charset.pieceOf? s).isNone).flatten
  let first := good.flatten.length
  ⟨charset.codecName, charset.lack, bad.headD '\x00', first,
    if charset.tellsRuns then first + bad.length - 1 else first⟩

def encode (charset : Charset) (s : List Char) : Except EncodeFault (List UInt8) :=
  match charset with
  | undefined => .error .undefined
  | hostName => match HostName.encode? s with
    | some bytes => .ok bytes
    | none => .error .noHostName
  | utf7 => .ok (Utf7.encode s)
  | punycode => .ok (Punycode.encode s)
  | _ =>
    let cuts := charset.cut s
    match cuts.mapM charset.pieceOf? with
    | some pieces => .ok (charset.assemble pieces)
    | none => .error (.lacks (charset.lacking cuts))

def checkReplacing : Charset → Except EncodeFault Unit
  | undefined => .error .undefined
  | hostName => .error .unreplaceable
  | _ => .ok ()

/-- The bytes of a text that is written part by part, with `substitute` for each character that the
encoding lacks. -/
def encodeParts (substitute : Char → List Char) (charset : Charset) (parts : List (List Char)) :
    List UInt8 :=
  match charset with
  | utf7 => parts.flatMap Utf7.encode
  | punycode => parts.flatMap Punycode.encode
  | _ =>
    charset.assemble ((charset.cut parts.flatten).flatMap fun s =>
      match charset.pieceOf? s with
      | some piece => [piece]
      | none => (s.flatMap substitute).filterMap charset.piece?)

def orderOf (little big : List UInt8) (bytes : List UInt8) : ByteOrder × List UInt8 :=
  if little.isPrefixOf bytes then (.little, bytes.drop little.length)
  else if big.isPrefixOf bytes then (.big, bytes.drop big.length)
  else (.little, bytes)

def decode? (charset : Charset) (bytes : List UInt8) : Option (List Char) :=
  match charset with
  | ascii => bytes.mapM fun b => if b.toNat < 0x80 then some (Char.ofNat b.toNat) else none
  | latin1 => some (bytes.map fun b => Char.ofNat b.toNat)
  | codePage page => bytes.mapM fun b => (page[b.toNat]?).filter (· ≠ '\ufffe')
  | utf7 => Utf7.decode none bytes
  | utf8 false => strict (utf8Decode none bytes)
  | utf8 true =>
    strict (utf8Decode none (if (mark charset).isPrefixOf bytes then bytes.drop 3 else bytes))
  | utf16 (some order) => strict (utf16Decode order bytes)
  | utf16 none =>
    let (order, rest) := orderOf [0xff, 0xfe] [0xfe, 0xff] bytes
    strict (utf16Decode order rest)
  | utf32 (some order) => strict (utf32Decode order bytes)
  | utf32 none =>
    let (order, rest) := orderOf [0xff, 0xfe, 0, 0] [0, 0, 0xfe, 0xff] bytes
    strict (utf32Decode order rest)
  | multibyte m => m.reader.readAll bytes
  | iso2022 v => v.read Iso2022.start bytes
  | hz => Hz.read false bytes
  | escaped false => Escaped.decode bytes
  | escaped true => Escaped.decodeWide bytes
  | punycode | hostName | undefined => none

def decode (charset : Charset) (bytes : List UInt8) : Except DecodeFault (List Char) :=
  match charset with
  | undefined => .error .malformed
  | punycode => (Punycode.decode bytes).mapError DecodeFault.ofName
  | hostName => (HostName.decode bytes).mapError DecodeFault.ofName
  | _ =>
    match charset.decode? bytes with
    | some s => .ok s
    | none => .error .undecodable

end Charset

namespace Unencodable

def charName (c : Char) : List Char := Text.numericEscape c.toNat

def message (u : Unencodable) : String :=
  if u.first = u.last then
    "'" ++ u.codec ++ "' codec can't encode character '" ++ String.ofList (charName u.bad)
      ++ "' in position " ++ toString u.first ++ ": " ++ u.reason
  else
    "'" ++ u.codec ++ "' codec can't encode characters in position " ++ toString u.first ++ "-"
      ++ toString u.last ++ ": " ++ u.reason

end Unencodable

end HttpContract.Encoding
