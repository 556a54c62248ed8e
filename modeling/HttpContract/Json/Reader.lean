import HttpContract.Json.Printer
import HttpContract.Value.Equality

/-!
Reading JSON text, with the literals `NaN`, `Infinity` and `-Infinity`. Of entries with the same key
the last one counts, in the place of the first. Integers of more than 4300 digits are refused. Texts
are sequences of characters here: an escape for half of a pair, which stands for none by itself,
cannot be kept and is read as the replacement character.
-/
namespace HttpContract.Json

def isSpace (c : Char) : Bool := c = ' ' || c = '\t' || c = '\n' || c = '\r'

def skipSpace (s : List Char) : List Char := s.dropWhile isSpace

def hexUnit (a b c d : Char) : Option Nat := do
  let a ← Text.hexDigit? a
  let b ← Text.hexDigit? b
  let c ← Text.hexDigit? c
  let d ← Text.hexDigit? d
  return ((a * 16 + b) * 16 + c) * 16 + d

def isHigh (n : Nat) : Bool := 0xd800 ≤ n && n < 0xdc00

def isLow (n : Nat) : Bool := 0xdc00 ≤ n && n < 0xe000

def unitChar (n : Nat) : Char := if isHigh n || isLow n then '\ufffd' else Char.ofNat n

def simpleEscape? : Char → Option Char
  | '\x22' => some '\x22'
  | '\x5c' => some '\x5c'
  | '/' => some '/'
  | 'b' => some '\x08'
  | 'f' => some '\x0c'
  | 'n' => some '\n'
  | 'r' => some '\r'
  | 't' => some '\t'
  | _ => none

def lowUnit : List Char → Option (Nat × List Char)
  | '\x5c' :: 'u' :: a :: b :: c :: d :: rest =>
    (hexUnit a b c d).bind fun n => if isLow n then some (n, rest) else none
  | _ => none

def readChar : List Char → Option (Char × List Char)
  | '\x5c' :: 'u' :: a :: b :: c :: d :: rest =>
    (hexUnit a b c d).map fun n =>
      match if isHigh n then lowUnit rest else none with
      | some (low, rest) => (Char.ofNat (0x10000 + (n - 0xd800) * 0x400 + (low - 0xdc00)), rest)
      | none => (unitChar n, rest)
  | '\x5c' :: c :: rest => (simpleEscape? c).map fun d => (d, rest)
  | c :: rest => if c.toNat < 0x20 then none else some (c, rest)
  | [] => none

def readString : Nat → List Char → Option (List Char × List Char)
  | 0, _ => none
  | _ + 1, '\x22' :: rest => some ([], rest)
  | fuel + 1, s =>
    match readChar s with
    | none => none
    | some (c, rest) => (readString fuel rest).map fun r => (c :: r.1, r.2)

def readFraction : List Char → List Char × List Char
  | '.' :: rest =>
    let digits := rest.takeWhile Text.isAsciiDigit
    if digits.isEmpty then ([], '.' :: rest) else ('.' :: digits, rest.drop digits.length)
  | s => ([], s)

def readExponent (s : List Char) : List Char × List Char :=
  match s with
  | c :: rest =>
    if c = 'e' || c = 'E' then
      let (sign, tail) := match rest with
        | '+' :: t => (['+'], t)
        | '-' :: t => (['-'], t)
        | t => ([], t)
      let digits := tail.takeWhile Text.isAsciiDigit
      if digits.isEmpty then ([], s) else (c :: sign ++ digits, tail.drop digits.length)
    else ([], s)
  | [] => ([], s)

def readNumber (s : List Char) : Option (Value × List Char) :=
  let (sign, body) := match s with
    | '-' :: rest => (['-'], rest)
    | s => ([], s)
  let whole := if body.head? = some '0' then ['0'] else body.takeWhile Text.isAsciiDigit
  if whole.isEmpty then none
  else
    let (fraction, rest) := readFraction (body.drop whole.length)
    let (exponent, rest) := readExponent rest
    let value :=
      if fraction.isEmpty && exponent.isEmpty then (Number.readInteger (sign ++ whole)).map .int
      else (Number.Real64.read (sign ++ whole ++ fraction ++ exponent)).map .real
    value.map fun v => (v, rest)

def literals : List (List Char × Value) :=
  [("null".toList, .null), ("true".toList, .bool true), ("false".toList, .bool false),
    ("NaN".toList, .real .nan), ("Infinity".toList, .real (.infinite false)),
    ("-Infinity".toList, .real (.infinite true))]

def readLiteral (s : List Char) : Option (Value × List Char) :=
  (literals.find? fun e => e.1.isPrefixOf s).map fun e => (e.2, s.drop e.1.length)

mutual

def readValue : Nat → List Char → Option (Value × List Char)
  | 0, _ => none
  | fuel + 1, s =>
    match s with
    | '\x22' :: rest => (readString rest.length.succ rest).map fun r => (.text (String.ofList r.1), r.2)
    | '[' :: rest =>
      match skipSpace rest with
      | ']' :: rest => some (.list [], rest)
      | rest => (readItems fuel rest).map fun r => (.list r.1, r.2)
    | '\x7b' :: rest =>
      match skipSpace rest with
      | '\x7d' :: rest => some (.map [], rest)
      | rest =>
        (readEntries fuel rest).map fun r =>
          (.map (r.1.foldl (fun m e => Value.putEntry m e.1 e.2) []), r.2)
    | _ => (readLiteral s).or (readNumber s)

def readItems : Nat → List Char → Option (List Value × List Char)
  | 0, _ => none
  | fuel + 1, s =>
    match readValue fuel s with
    | none => none
    | some (v, rest) =>
      match skipSpace rest with
      | ']' :: rest => some ([v], rest)
      | ',' :: rest => (readItems fuel (skipSpace rest)).map fun r => (v :: r.1, r.2)
      | _ => none

def readEntries : Nat → List Char → Option (List (Value × Value) × List Char)
  | 0, _ => none
  | fuel + 1, s =>
    match s with
    | '\x22' :: rest =>
      match readString rest.length.succ rest with
      | none => none
      | some (key, rest) =>
        match skipSpace rest with
        | ':' :: rest =>
          match readValue fuel (skipSpace rest) with
          | none => none
          | some (v, rest) =>
            let entry := (Value.text (String.ofList key), v)
            match skipSpace rest with
            | '\x7d' :: rest => some ([entry], rest)
            | ',' :: rest => (readEntries fuel (skipSpace rest)).map fun r => (entry :: r.1, r.2)
            | _ => none
        | _ => none
    | _ => none

end

/-- The value of a whole text; every step into it takes a character. -/
def read (s : List Char) : Option Value :=
  match readValue (2 * s.length + 1) (skipSpace s) with
  | some (v, rest) => if (skipSpace rest).isEmpty then some v else none
  | none => none

end HttpContract.Json
