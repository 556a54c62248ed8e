import HttpContract.Text.CharName
import HttpContract.Text.Quoted

/-!
Encodings that write characters as escapes of a backslash: one for all that is not plain ASCII, one for
all that has no byte of its own.
-/
namespace HttpContract.Encoding.Escaped

def asciiBytes (s : List Char) : List UInt8 := s.map fun c => UInt8.ofNat c.toNat

def escape (c : Char) : List UInt8 :=
  asciiBytes (
    if c = '\t' then ['\\', 't']
    else if c = '\n' then ['\\', 'n']
    else if c = '\r' then ['\\', 'r']
    else if c = '\\' then ['\\', '\\']
    else if 0x20 ≤ c.toNat ∧ c.toNat < 0x7f then [c]
    else Text.numericEscape c.toNat)

def escapeWide (c : Char) : List UInt8 :=
  if c.toNat < 0x100 then [UInt8.ofNat c.toNat] else asciiBytes (Text.numericEscape c.toNat)

def numbered? (width : Nat) (s : List Char) : Option (Char × List Char) := do
  let digits ← (s.take width).mapM Text.hexDigit?
  let n := digits.foldl (fun n d => 16 * n + d) 0
  if digits.length = width ∧ n.isValidChar then some (Char.ofNat n, s.drop width) else none

def isOctal (c : Char) : Bool := '0' ≤ c && c ≤ '7'

def octal (s : List Char) : Char × List Char :=
  let digits := (s.take 3).takeWhile isOctal
  (Char.ofNat (digits.foldl (fun n c => 8 * n + (c.toNat - 0x30)) 0), s.drop digits.length)

def named? (s : List Char) : Option (Char × List Char) :=
  match s with
  | '\x7b' :: rest => do
    let name := rest.takeWhile (· ≠ '\x7d')
    let c ← Text.charNamed? name
    if name.length < rest.length then some (c, rest.drop (name.length + 1)) else none
  | _ => none

def single : List (Char × Char) :=
  [('\\', '\\'), ('\x27', '\x27'), ('\x22', '\x22'), ('a', '\x07'), ('b', '\x08'), ('f', '\x0c'),
    ('n', '\n'), ('r', '\r'), ('t', '\t'), ('v', '\x0b')]

/-- What an escape stands for, and what follows it. A letter without a meaning keeps its backslash. -/
def unescape? (c : Char) (rest : List Char) : Option (List Char × List Char) :=
  let one : Char × List Char → List Char × List Char := fun (c, rest) => ([c], rest)
  if c = '\n' then some ([], rest)
  else if c = 'x' then (numbered? 2 rest).map one
  else if c = 'u' then (numbered? 4 rest).map one
  else if c = 'U' then (numbered? 8 rest).map one
  else if c = 'N' then (named? rest).map one
  else if isOctal c then some (one (octal (c :: rest)))
  else match single.lookup c with
    | some d => some ([d], rest)
    | none => some (['\\', c], rest)

def unescapeWide? (c : Char) (rest : List Char) : Option (List Char × List Char) :=
  if c = 'u' then (numbered? 4 rest).map fun (c, rest) => ([c], rest)
  else if c = 'U' then (numbered? 8 rest).map fun (c, rest) => ([c], rest)
  else some (['\\', c], rest)

/-- The text of characters that may be escapes; `last` is what a backslash at the end stands for, and
`fuel` bounds the number of escapes. -/
def readWith (unescape? : Char → List Char → Option (List Char × List Char))
    (last : Option (List Char)) : Nat → List Char → Option (List Char)
  | 0, _ => some []
  | _ + 1, [] => some []
  | fuel + 1, '\\' :: c :: rest =>
    match unescape? c rest with
    | some (s, rest) => (readWith unescape? last fuel rest).map (s ++ ·)
    | none => none
  | _ + 1, ['\\'] => last
  | fuel + 1, c :: rest => (readWith unescape? last fuel rest).map (c :: ·)

def chars (bytes : List UInt8) : List Char := bytes.map fun b => Char.ofNat b.toNat

def decode (bytes : List UInt8) : Option (List Char) :=
  readWith unescape? none bytes.length (chars bytes)

def decodeWide (bytes : List UInt8) : Option (List Char) :=
  readWith unescapeWide? (some ['\\']) bytes.length (chars bytes)

end HttpContract.Encoding.Escaped
