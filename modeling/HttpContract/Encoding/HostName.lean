import HttpContract.Encoding.HostNameTable
import HttpContract.Encoding.Punycode
import HttpContract.Text.Split

/-!
Names of hosts in ASCII. Labels between dots that hold other characters are brought into a common form
and written in Punycode behind a sign that tells so.
-/
namespace HttpContract.Encoding.HostName

open HostNameTable

def isIn (runs : List (Nat × Nat)) (c : Char) : Bool :=
  runs.any fun r => r.1 ≤ c.toNat && c.toNat ≤ r.2

def form (c : Char) : List Char :=
  (forms.findSome? fun r =>
    if r.1 ≤ c.toNat then (Text.splitAt '¶' r.2.toList)[c.toNat - r.1]? else none).getD [c]

def classOf (c : Char) : Nat :=
  ((classes.find? fun r => r.1 ≤ c.toNat && c.toNat ≤ r.2.1).map fun r => r.2.2).getD 0

def insertMark (c : Char) : List Char → List Char
  | [] => [c]
  | d :: rest => if classOf c < classOf d then d :: insertMark c rest else c :: d :: rest

def ordered (s : List Char) : List Char :=
  (s.foldl (fun done c => if classOf c = 0 then c :: done else insertMark c done) []).reverse

def pairIn (c : Char) : List Char → Option Char
  | a :: b :: rest => if a = c then some b else pairIn c rest
  | _ => none

def joinHangul (c d : Char) : Option Char :=
  let (c, d) := (c.toNat, d.toNat)
  if 0x1100 ≤ c ∧ c < 0x1113 ∧ 0x1161 ≤ d ∧ d < 0x1176 then
    some (Char.ofNat (0xac00 + ((c - 0x1100) * 21 + (d - 0x1161)) * 28))
  else if 0xac00 ≤ c ∧ c < 0xd7a4 ∧ (c - 0xac00) % 28 = 0 ∧ 0x11a7 < d ∧ d < 0x11c3 then
    some (Char.ofNat (c + (d - 0x11a7)))
  else none

def join (c d : Char) : Option Char :=
  joinHangul c d <|>
    joined.findSome? fun r => if r.1 = d.toNat then pairIn c r.2.toList else none

/-- Joins a character with those after it. `passed` holds, from its end, what could not be joined, with
the class of the last of it; it keeps marks of no higher class apart. -/
def composeFrom (c : Char) (passed : List Char) (last : Nat) : List Char → List Char
  | [] => c :: passed.reverse
  | d :: rest =>
    match if passed.isEmpty || last < classOf d then join c d else none with
    | some e => composeFrom e passed last rest
    | none =>
      if classOf d = 0 then c :: passed.reverse ++ composeFrom d [] 0 rest
      else composeFrom c (d :: passed) (classOf d) rest

def compose : List Char → List Char
  | [] => []
  | c :: rest => composeFrom c [] 0 rest

/-- A text that is partly written from right to left has to be so at both ends, and throughout. -/
def isOneWay (s : List Char) : Bool :=
  !s.any (isIn rightToLeft)
    || !s.any (isIn leftToRight) && s.head?.any (isIn rightToLeft)
      && s.getLast?.any (isIn rightToLeft)

def prepare? (label : List Char) : Option (List Char) :=
  let s := compose (ordered (label.flatMap form))
  if s.any (isIn refused) || !isOneWay s then none else some s

def ascii? (s : List Char) : Option (List UInt8) :=
  s.mapM fun c => if c.toNat < 0x80 then some (UInt8.ofNat c.toNat) else none

def limit : Nat := 63

def checked? (label : List UInt8) : Option (List UInt8) :=
  if 0 < label.length ∧ label.length ≤ limit then some label else none

def sign : List UInt8 := [0x78, 0x6e, 0x2d, 0x2d]

def label? (s : List Char) : Option (List UInt8) :=
  match ascii? s with
  | some bytes => checked? bytes
  | none => do
    let s ← prepare? s
    match ascii? s with
    | some bytes => checked? bytes
    | none =>
      if "xn--".toList.isPrefixOf s then none else checked? (sign ++ Punycode.encode s)

def labels {α : Type} [DecidableEq α] (pieces : List (List α)) : List (List α) × Bool :=
  if pieces.getLast? = some [] then (pieces.dropLast, true) else (pieces, false)

def joinLabels (parts : List (List UInt8)) (dotted : Bool) : List UInt8 :=
  parts.intersperse [0x2e] |>.flatten |>.append (if dotted then [0x2e] else [])

def isDot (c : Char) : Bool := ['.', '。', '．', '｡'].contains c

def encode? (s : List Char) : Option (List UInt8) :=
  match ascii? s with
  | some bytes =>
    let pieces := Text.splitAt '.' s
    if pieces.dropLast.all (fun l => 0 < l.length && l.length ≤ limit)
        && (pieces.getLast?.getD []).length ≤ limit then some bytes
    else none
  | none => do
    let (parts, dotted) :=
      labels (Text.splitAt '.' (s.map fun c => if isDot c then '.' else c))
    return joinLabels (← parts.mapM label?) dotted

abbrev Fault := Punycode.Fault

def readLabel (label : List Char) : Except Fault (List Char) := do
  let bytes := label.map fun c => UInt8.ofNat c.toNat
  if sign.isPrefixOf bytes then
    let s ← Punycode.decode (bytes.drop sign.length)
    match label? s with
    | some written =>
      if written = bytes.map fun b => if 0x41 ≤ b.toNat ∧ b.toNat ≤ 0x5a then b + 0x20 else b then
        return s
      else throw .badNumber
    | none => throw .badNumber
  else if bytes.any fun b => 0x80 ≤ b.toNat then throw .notAscii
  else return label

def decode (bytes : List UInt8) : Except Fault (List Char) := do
  if bytes.isEmpty then return []
  let (parts, dotted) := labels (Text.splitAt '.' (bytes.map fun b => Char.ofNat b.toNat))
  let names ← parts.mapM readLabel
  return (names.intersperse ['.']).flatten ++ if dotted then ['.'] else []

end HttpContract.Encoding.HostName
