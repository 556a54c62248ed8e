import HttpContract.Text.CharClass

/-!
Text between quotes, for messages: apostrophes unless only the other quote avoids an escape, a
backslash before the quote itself and before a backslash, and a numeric escape for every character
that cannot be seen.
-/
namespace HttpContract.Text

def hexDigit (n : Nat) : Char :=
  if n < 10 then Char.ofNat (0x30 + n) else Char.ofNat (0x61 + n - 10)

def hexDigit? (c : Char) : Option Nat :=
  if isAsciiDigit c then some (c.toNat - 0x30)
  else if 'a' ≤ c && c ≤ 'f' then some (c.toNat - 0x57)
  else if 'A' ≤ c && c ≤ 'F' then some (c.toNat - 0x37)
  else none

def hex (width n : Nat) : List Char :=
  match width with
  | 0 => []
  | width + 1 => hex width (n / 16) ++ [hexDigit (n % 16)]

def quoteFor (s : List Char) : Char :=
  if s.contains '\x27' && !s.contains '\x22' then '\x22' else '\x27'

def numericEscape (n : Nat) : List Char :=
  if n ≤ 0xff then ['\x5c', 'x'] ++ hex 2 n
  else if n ≤ 0xffff then ['\x5c', 'u'] ++ hex 4 n
  else ['\x5c', 'U'] ++ hex 8 n

def escaped (quote c : Char) : List Char :=
  if c = quote ∨ c = '\x5c' then ['\x5c', c]
  else if c = '\t' then ['\x5c', 't']
  else if c = '\n' then ['\x5c', 'n']
  else if c = '\r' then ['\x5c', 'r']
  else if isPrintable c then [c]
  else numericEscape c.toNat

def quoted (s : List Char) : List Char :=
  quoteFor s :: s.flatMap (escaped (quoteFor s)) ++ [quoteFor s]

def quotedText (s : String) : String := String.ofList (quoted s.toList)

def quotedBytes (bytes : List UInt8) : List Char :=
  let quote := quoteFor (bytes.map fun b => Char.ofNat b.toNat)
  let one (b : UInt8) : List Char :=
    if b.toNat < 0x80 then escaped quote (Char.ofNat b.toNat) else numericEscape b.toNat
  'b' :: quote :: bytes.flatMap one ++ [quote]

end HttpContract.Text
