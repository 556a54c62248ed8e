/-!
The encodings of Unicode in units of 8, 16 and 32 bits. A decoder gives the characters in order and
`none` for each piece of the input that stands for no character.
-/
namespace HttpContract.Encoding

inductive ByteOrder
  | little | big
  deriving DecidableEq

/-- A multi-byte sequence that has begun: how many bytes are left, the range of the next one, and
the bits read so far. -/
structure Utf8Pending where
  left : Nat
  low : Nat
  high : Nat
  bits : Nat

inductive Utf8Start
  | done (c : Char)
  | more (pending : Utf8Pending)
  | bad

def utf8Start (b : Nat) : Utf8Start :=
  if b < 0x80 then .done (Char.ofNat b)
  else if 0xc2 ≤ b ∧ b ≤ 0xdf then .more ⟨1, 0x80, 0xbf, b % 0x20⟩
  else if b = 0xe0 then .more ⟨2, 0xa0, 0xbf, 0⟩
  else if b = 0xed then .more ⟨2, 0x80, 0x9f, 0xd⟩
  else if 0xe1 ≤ b ∧ b ≤ 0xef then .more ⟨2, 0x80, 0xbf, b % 0x10⟩
  else if b = 0xf0 then .more ⟨3, 0x90, 0xbf, 0⟩
  else if 0xf1 ≤ b ∧ b ≤ 0xf3 then .more ⟨3, 0x80, 0xbf, b % 8⟩
  else if b = 0xf4 then .more ⟨3, 0x80, 0x8f, 4⟩
  else .bad

/-- A byte that cannot continue the sequence ends it as a bad piece and is read again as the start
of the next one. -/
def utf8Decode : Option Utf8Pending → List UInt8 → List (Option Char)
  | none, [] => []
  | some _, [] => [none]
  | none, b :: rest =>
    match utf8Start b.toNat with
    | .done c => some c :: utf8Decode none rest
    | .more p => utf8Decode (some p) rest
    | .bad => none :: utf8Decode none rest
  | some p, b :: rest =>
    if p.low ≤ b.toNat ∧ b.toNat ≤ p.high then
      let bits := p.bits * 0x40 + b.toNat % 0x40
      if p.left = 1 then some (Char.ofNat bits) :: utf8Decode none rest
      else utf8Decode (some ⟨p.left - 1, 0x80, 0xbf, bits⟩) rest
    else
      none :: match utf8Start b.toNat with
        | .done c => some c :: utf8Decode none rest
        | .more q => utf8Decode (some q) rest
        | .bad => none :: utf8Decode none rest

def utf8Encode (s : List Char) : List UInt8 := s.flatMap String.utf8EncodeChar

def unit16 (order : ByteOrder) (n : Nat) : List UInt8 :=
  match order with
  | .little => [UInt8.ofNat n, UInt8.ofNat (n / 0x100)]
  | .big => [UInt8.ofNat (n / 0x100), UInt8.ofNat n]

def utf16EncodeChar (order : ByteOrder) (c : Char) : List UInt8 :=
  if c.toNat < 0x10000 then unit16 order c.toNat
  else
    let n := c.toNat - 0x10000
    unit16 order (0xd800 + n / 0x400) ++ unit16 order (0xdc00 + n % 0x400)

def units16 (order : ByteOrder) : List UInt8 → List (Option Nat)
  | [] => []
  | [_] => [none]
  | a :: b :: rest =>
    some (match order with
      | .little => a.toNat + 0x100 * b.toNat
      | .big => 0x100 * a.toNat + b.toNat) :: units16 order rest

def isHighSurrogate (n : Nat) : Bool := 0xd800 ≤ n && n < 0xdc00
def isLowSurrogate (n : Nat) : Bool := 0xdc00 ≤ n && n < 0xe000

def utf16DecodeUnits : List (Option Nat) → List (Option Char)
  | [] => []
  | none :: rest => none :: utf16DecodeUnits rest
  | some h :: some l :: rest =>
    if isHighSurrogate h && isLowSurrogate l then
      some (Char.ofNat (0x10000 + (h - 0xd800) * 0x400 + (l - 0xdc00))) :: utf16DecodeUnits rest
    else if isHighSurrogate h || isLowSurrogate h then none :: utf16DecodeUnits (some l :: rest)
    else some (Char.ofNat h) :: utf16DecodeUnits (some l :: rest)
  | some h :: rest =>
    (if isHighSurrogate h || isLowSurrogate h then none else some (Char.ofNat h))
      :: utf16DecodeUnits rest

def utf16Decode (order : ByteOrder) (bytes : List UInt8) : List (Option Char) :=
  utf16DecodeUnits (units16 order bytes)

def utf32EncodeChar (order : ByteOrder) (c : Char) : List UInt8 :=
  match order with
  | .little => unit16 .little (c.toNat % 0x10000) ++ unit16 .little (c.toNat / 0x10000)
  | .big => unit16 .big (c.toNat / 0x10000) ++ unit16 .big (c.toNat % 0x10000)

def utf32DecodeUnits : List (Option Nat) → List (Option Char)
  | some low :: some high :: rest =>
    let n := low + 0x10000 * high
    (if n.isValidChar then some (Char.ofNat n) else none) :: utf32DecodeUnits rest
  | [] => []
  | _ => [none]

def swapPairs : List (Option Nat) → List (Option Nat)
  | a :: b :: rest => b :: a :: swapPairs rest
  | s => s

def utf32Decode (order : ByteOrder) (bytes : List UInt8) : List (Option Char) :=
  match order with
  | .little => utf32DecodeUnits (units16 .little bytes)
  | .big => utf32DecodeUnits (swapPairs (units16 .big bytes))

def strict (pieces : List (Option Char)) : Option (List Char) := pieces.mapM id

def lossy (pieces : List (Option Char)) : List Char := pieces.map fun c => c.getD '\ufffd'

end HttpContract.Encoding
