import HttpContract.Text.Names.Aliases
import HttpContract.Text.Names.Ancient
import HttpContract.Text.Names.Asian
import HttpContract.Text.Names.Pictures
import HttpContract.Text.Names.Scripts
import HttpContract.Text.Names.Signs
import HttpContract.Text.Names.Symbols
import HttpContract.Text.Quoted
import HttpContract.Text.Split

/-!
Characters by the names that Unicode gives them. Most names are listed; those of Hangul syllables and
of ideographs follow from their numbers.
-/
namespace HttpContract.Text

namespace CharName

def capital (c : Char) : Char :=
  if 0x61 ≤ c.toNat ∧ c.toNat ≤ 0x7a then Char.ofNat (c.toNat - 0x20) else c

def placeIn (name : List Char) (n : Nat) : List String → Option Nat
  | [] => none
  | line :: rest =>
    let names := splitAt ';' line.toList
    match names.idxOf? name with
    | some i => some (n + i)
    | none => placeIn name (n + names.length) rest

def listed? (name : List Char) (runs : List (Nat × String × List String)) : Option Nat :=
  runs.findSome? fun (first, start, lines) =>
    if start.toList.isPrefixOf name then placeIn (name.drop start.length) first lines else none

def numbered : List (String × List (Nat × Nat)) :=
  [("CJK COMPATIBILITY IDEOGRAPH-", [(0xf900, 0xfa6d), (0xfa70, 0xfad9), (0x2f800, 0x2fa1d)]),
    ("KHITAN SMALL SCRIPT CHARACTER-", [(0x18b00, 0x18cd5)]),
    ("NUSHU CHARACTER-", [(0x1b170, 0x1b2fb)])]

def unifiedIdeographs : String × List (Nat × Nat) :=
  ("CJK UNIFIED IDEOGRAPH-", [(0x3400, 0x4dbf), (0x4e00, 0x9fff), (0x20000, 0x2a6df),
    (0x2a700, 0x2b738), (0x2b740, 0x2b81d), (0x2b820, 0x2cea1), (0x2ceb0, 0x2ebe0),
    (0x30000, 0x3134a)])

/-- The number in capital hexadecimal digits behind `start`, if it is of one of these characters and
has as many digits as `isWidth` allows. -/
def numbered? (isWidth : Nat → Nat → Bool) (name : List Char)
    (family : String × List (Nat × Nat)) : Option Nat := do
  let digits := name.drop family.1.length
  if family.1.toList.isPrefixOf name && digits.all fun c => capital c = c then
    let n := (← digits.mapM hexDigit?).foldl (fun n d => 16 * n + d) 0
    if family.2.any (fun r => r.1 ≤ n && n ≤ r.2) && isWidth n digits.length then some n else none
  else none

def isShortest (n width : Nat) : Bool := width = if n < 0x10000 then 4 else 5

def selector? (name : List Char) (start : String) : Option Nat := do
  let n ← (List.range 256).find? fun n => name == start.toList ++ (toString (n + 1)).toList
  return if n < 16 then 0xfe00 + n else 0xe0100 + (n - 16)

def initials : List String :=
  ["G", "GG", "N", "D", "DD", "R", "M", "B", "BB", "S", "SS", "", "J", "JJ", "C", "K", "T", "P", "H"]

def medials : List String :=
  ["A", "AE", "YA", "YAE", "EO", "E", "YEO", "YE", "O", "WA", "WAE", "OE", "YO", "U", "WEO", "WE",
    "WI", "YU", "EU", "YI", "I"]

def finals : List String :=
  ["", "G", "GG", "GS", "N", "NJ", "NH", "D", "L", "LG", "LM", "LB", "LS", "LT", "LP", "LH", "M",
    "B", "BS", "S", "SS", "NG", "J", "C", "K", "T", "P", "H"]

def longest? (parts : List String) (s : List Char) : Option (Nat × List Char) :=
  (parts.zipIdx.filter fun p => p.1.toList.isPrefixOf s).foldl (fun best p =>
    match best with
    | some (_, rest) => if rest.length ≤ s.length - p.1.length then best
      else some (p.2, s.drop p.1.length)
    | none => some (p.2, s.drop p.1.length)) none

def syllableStart : List Char := "HANGUL SYLLABLE ".toList

def syllable? (s : List Char) : Option Nat := do
  let (initial, s) ← longest? initials s
  let (medial, s) ← longest? medials s
  let (final, s) ← longest? finals s
  if s.isEmpty then some (0xac00 + (initial * 21 + medial) * 28 + final) else none

def code? (name : List Char) : Option Nat :=
  let known := name.map capital
  if syllableStart.isPrefixOf name then syllable? (name.drop syllableStart.length)
  else numbered? (fun _ width => width = 4 || width = 5) name unifiedIdeographs
    <|> numbered.findSome? (numbered? isShortest known)
    <|> ["VARIATION SELECTOR-", "VS"].findSome? (selector? known)
    <|> (Names.aliases.lookup (String.ofList known))
    <|> [Names.scripts, Names.symbols, Names.asian, Names.ancient, Names.signs,
      Names.pictures].findSome? (listed? known)

end CharName

def charNamed? (name : List Char) : Option Char := (CharName.code? name).map Char.ofNat

end HttpContract.Text
