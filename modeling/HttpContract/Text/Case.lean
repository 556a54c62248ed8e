import HttpContract.Text.CaseTable

/-!
Small letters and capitals of text, by the full case rules of Unicode: one character may become
several, and a sigma at the end of a word has a form of its own.
-/
namespace HttpContract.Text

def moved (runs : Array (Nat × Nat × Nat × Int)) (c : Char) : Char :=
  match runs.find? fun r => r.1 ≤ c.toNat && c.toNat ≤ r.2.1 && (c.toNat - r.1) % r.2.2.1 == 0 with
  | some r => Char.ofNat (Int.toNat (c.toNat + r.2.2.2))
  | none => c

def lowerChar (c : Char) : Char :=
  if c.toNat < 0x80 then
    if 0x41 ≤ c.toNat ∧ c.toNat ≤ 0x5a then Char.ofNat (c.toNat + 0x20) else c
  else moved CaseTable.lowerRuns c

def upperChar (c : Char) : Char :=
  if c.toNat < 0x80 then
    if 0x61 ≤ c.toNat ∧ c.toNat ≤ 0x7a then Char.ofNat (c.toNat - 0x20) else c
  else moved CaseTable.upperRuns c

def isCased (c : Char) : Bool :=
  CaseTable.casedRuns.any fun r => r.1 ≤ c.toNat && c.toNat ≤ r.2

def isSkipped (c : Char) : Bool :=
  CaseTable.skippedRuns.any fun r => r.1 ≤ c.toNat && c.toNat ≤ r.2

def meetsLetter (s : List Char) : Bool :=
  match s.dropWhile isSkipped with
  | [] => false
  | c :: _ => isCased c

/-- `before` is what has been read, last character first: a sigma is final if a letter stands
before it and none after. -/
def lowerAfter (before : List Char) : List Char → List Char
  | [] => []
  | c :: rest =>
    let small :=
      if c.toNat = 0x3a3 then
        [if meetsLetter before && !meetsLetter rest then 'ς' else 'σ']
      else if c.toNat = 0x130 then ['i', '\u0307']
      else [lowerChar c]
    small ++ lowerAfter (c :: before) rest

def lower (s : List Char) : List Char := lowerAfter [] s

def upper (s : List Char) : List Char :=
  s.flatMap fun c =>
    if c.toNat < 0x80 then [upperChar c]
    else match CaseTable.upperSpellings.find? fun r => r.1 == c.toNat with
      | some r => r.2.map Char.ofNat
      | none => [upperChar c]

def sameLetters (a b : String) : Bool := lower a.toList == lower b.toList

def lowerText (s : String) : String := String.ofList (lower s.toList)

def upperText (s : String) : String := String.ofList (upper s.toList)

end HttpContract.Text
