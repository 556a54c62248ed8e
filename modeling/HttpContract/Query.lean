import HttpContract.Encoding.Utf
import HttpContract.Message
import HttpContract.Text.Quoted

/-!
Query texts such as `a=1&b=x+y`. A plus stands for a space and a percent sign with two digits for a
byte; bytes are read as UTF-8, and what is none becomes a replacement character.
-/
namespace HttpContract.Query

def byte? (high low : Char) : Option UInt8 := do
  let high ← Text.hexDigit? high
  let low ← Text.hexDigit? low
  return UInt8.ofNat (high * 16 + low)

/-- The bytes of ASCII characters; a percent sign without two digits stands for itself. -/
def bytesOf (s : List Char) : List UInt8 :=
  match s with
  | '%' :: high :: low :: rest =>
    match byte? high low with
    | some b => b :: bytesOf rest
    | none => UInt8.ofNat ('%').toNat :: bytesOf (high :: low :: rest)
  | c :: rest => UInt8.ofNat c.toNat :: bytesOf rest
  | [] => []
termination_by s.length
decreasing_by all_goals simp; try omega

def isAscii (c : Char) : Bool := c.toNat < 0x80

/-- Runs of ASCII characters are decoded by themselves, all others stand for themselves. -/
def decoded (s : List Char) : List Char :=
  match s with
  | [] => []
  | c :: rest =>
    if isAscii c then
      let run := rest.takeWhile isAscii
      Encoding.lossy (Encoding.utf8Decode none (bytesOf (c :: run)))
        ++ decoded (rest.drop run.length)
    else c :: decoded rest
termination_by s.length
decreasing_by all_goals simp; try omega

def unescaped (s : List Char) : String :=
  String.ofList (decoded (s.map fun c => if c = '+' then ' ' else c))

def readPair (s : List Char) : String × String :=
  let (name, value) := Text.cutAt '=' s
  (unescaped name, unescaped (value.getD []))

def pairs (s : List Char) : List (String × String) :=
  ((Text.splitAt '&' s).filter fun piece => !piece.isEmpty).map readPair

def addValue (q : Fields) (name value : String) : Fields :=
  Keyed.put q name ((Keyed.get? q name).getD [] ++ [value])

def read (s : String) : Fields := (pairs s.toList).foldl (fun q e => addValue q e.1 e.2) []

end HttpContract.Query
