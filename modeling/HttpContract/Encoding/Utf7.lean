import HttpContract.Encoding.Base64
import HttpContract.Encoding.Utf

/-!
The encoding of Unicode in seven bits. What cannot stand for itself is written in units of 16 bits, in
the digits of base 64 between a plus sign and a mark that is no such digit.
-/
namespace HttpContract.Encoding.Utf7

def isDirect (c : Char) : Bool :=
  c = '\t' || c = '\n' || c = '\r' || 0x20 ≤ c.toNat && c.toNat < 0x7e && c ≠ '+' && c ≠ '\\'

def digit? (b : UInt8) : Option Nat :=
  (List.range 64).find? fun n => (base64Digit n).toNat == b.toNat

def asciiBytes (s : List Char) : List UInt8 := s.map fun c => UInt8.ofNat c.toNat

def digits (s : List Char) : List UInt8 :=
  asciiBytes ((base64 (s.flatMap (utf16EncodeChar .big))).takeWhile (· ≠ '='))

/-- The hyphen is left out where the next character cannot be taken for a digit. -/
def closing : List Char → List UInt8
  | [] => asciiBytes ['-']
  | c :: _ =>
    if c = '-' || (digit? (UInt8.ofNat c.toNat)).isSome then asciiBytes ['-'] else []

def encode : List Char → List UInt8
  | [] => []
  | c :: rest =>
    if isDirect c then UInt8.ofNat c.toNat :: encode rest
    else if c = '+' then asciiBytes ['+', '-'] ++ encode rest
    else
      let after := rest.dropWhile fun c => !isDirect c
      asciiBytes ['+'] ++ digits (c :: rest.takeWhile fun c => !isDirect c) ++ closing after
        ++ encode after
termination_by s => s.length
decreasing_by
  · exact Nat.lt_succ_self _
  · exact Nat.lt_succ_self _
  · exact Nat.lt_succ_of_le (List.dropWhile_sublist _).length_le

/-- What is left over within a run of digits: bits that make no unit yet, and the first half of a
character. -/
structure Pending where
  count : Nat
  bits : Nat
  high : Option Nat

/-- A run may end where only zero bits are left, less than a digit holds. -/
def Pending.isComplete (p : Pending) : Bool := p.count < 6 && p.bits = 0 && p.high.isNone

def fresh : Pending := ⟨0, 0, none⟩

def unit (high : Option Nat) (n : Nat) : Option (List Char × Option Nat) :=
  match high with
  | some h =>
    if isLowSurrogate n then
      some ([Char.ofNat (0x10000 + (h - 0xd800) * 0x400 + (n - 0xdc00))], none)
    else none
  | none =>
    if isHighSurrogate n then some ([], some n)
    else if isLowSurrogate n then none
    else some ([Char.ofNat n], none)

def digit (p : Pending) (d : Nat) : Option (List Char × Pending) :=
  let bits := p.bits * 64 + d
  let count := p.count + 6
  if count < 16 then some ([], ⟨count, bits, p.high⟩)
  else
    (unit p.high (bits / Nat.pow 2 (count - 16))).map fun (s, high) =>
      (s, ⟨count - 16, bits % Nat.pow 2 (count - 16), high⟩)

def decode : Option Pending → List UInt8 → Option (List Char)
  | none, [] => some []
  | some p, [] => if p.isComplete then some [] else none
  | none, b :: rest =>
    if b = 0x2b then
      match rest.head? with
      | none => some []
      | some d =>
        if d = 0x2d then (decode none rest.tail).map ('+' :: ·)
        else if (digit? d).isSome then decode (some fresh) rest
        else none
    else if b.toNat < 0x80 then (decode none rest).map (Char.ofNat b.toNat :: ·)
    else none
  | some p, b :: rest =>
    match digit? b with
    | some d =>
      match digit p d with
      | some (s, p) => (decode (some p) rest).map (s ++ ·)
      | none => none
    | none =>
      if !p.isComplete then none
      else if b = 0x2d then decode none rest
      else if b.toNat < 0x80 then (decode none rest).map (Char.ofNat b.toNat :: ·)
      else none
termination_by _ bytes => bytes.length
decreasing_by all_goals (simp only [List.length_cons, List.length_tail]; omega)

end HttpContract.Encoding.Utf7
