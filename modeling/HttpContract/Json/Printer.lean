import HttpContract.Value.Text

/-!
The JSON text of values, on one line, with a space after each comma and colon. Characters are
written as they are, but for quotes, backslashes and control characters. Decimal numbers become
numbers; keys that are numbers, truth values or null become text.
-/
namespace HttpContract.Json

def escaped (c : Char) : List Char :=
  if c = '\x22' then ['\x5c', '\x22']
  else if c = '\x5c' then ['\x5c', '\x5c']
  else if c = '\n' then ['\x5c', 'n']
  else if c = '\r' then ['\x5c', 'r']
  else if c = '\t' then ['\x5c', 't']
  else if c = '\x08' then ['\x5c', 'b']
  else if c = '\x0c' then ['\x5c', 'f']
  else if c.toNat < 0x20 then ['\x5c', 'u'] ++ Text.hex 4 c.toNat
  else [c]

def quoted (s : List Char) : List Char := '\x22' :: s.flatMap escaped ++ ['\x22']

def integerText (n : Int) : Except JsonFault (List Char) :=
  if Number.isPrintableInteger n then .ok (Number.integerText n) else .error .longInteger

def boolText (b : Bool) : List Char := if b then "true".toList else "false".toList

def realText : Number.Real64 → List Char
  | .nan => "NaN".toList
  | .infinite negative => (if negative then ['-'] else []) ++ "Infinity".toList
  | x => x.text

/-- A decimal number is written as the binary number next to it. -/
def decimalText (d : Number.Decimal) : Except JsonFault (List Char) :=
  if d.isSignaling then .error .signalingNumber
  else match d with
    | .finite negative c e => .ok (realText (.ofScientific negative ⟨c, e⟩))
    | .infinite negative => .ok (realText (.infinite negative))
    | .nan _ _ _ => .ok (realText .nan)

def keyText : Value → Except JsonFault (List Char)
  | .text s => .ok s.toList
  | .real x => .ok (realText x)
  | .bool b => .ok (boolText b)
  | .null => .ok "null".toList
  | .int n => integerText n
  | v => .error (.unsupportedKey v.qualifiedTypeName)

def listText (pieces : List (List Char)) : List Char :=
  '[' :: Text.join ", ".toList pieces ++ [']']

def recordText (pieces : List (List Char)) : List Char :=
  '\x7b' :: Text.join ", ".toList pieces ++ ['\x7d']

mutual

def render : Value → Except JsonFault (List Char)
  | .null => .ok "null".toList
  | .bool b => .ok (boolText b)
  | .int n => integerText n
  | .real x => .ok (realText x)
  | .decimal d => decimalText d
  | .text s => .ok (quoted s.toList)
  | .list items => do
    let pieces ← renderItems items
    return listText pieces
  | .tuple items => do
    let pieces ← renderItems items
    return listText pieces
  | .map entries => do
    let pieces ← renderEntries entries
    return recordText pieces
  | .bytes _ => .error (.unsupported "bytes")
  | .element _ => .error (.unsupported "Element")
  | .mediaType _ => .error (.unsupported "ContentType")
  | .foreign name => .error (.unsupported name)

def renderItems : List Value → Except JsonFault (List (List Char))
  | [] => .ok []
  | v :: rest => do
    let piece ← render v
    let pieces ← renderItems rest
    return piece :: pieces

def renderEntries : List (Value × Value) → Except JsonFault (List (List Char))
  | [] => .ok []
  | (k, v) :: rest => do
    let key ← keyText k
    let value ← render v
    let pieces ← renderEntries rest
    return (quoted key ++ ": ".toList ++ value) :: pieces

end

def text (v : Value) : Result String :=
  match render v with
  | .ok s => .ok (String.ofList s)
  | .error fault => .error (.json fault)

end HttpContract.Json
