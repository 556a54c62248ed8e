import HttpContract.Number.Integer
import HttpContract.Regex.Use

/-!
Settings that all builders of one contract share, given outright or taken from the environment. The
default charset has to be a known encoding. Where examples are made after patterns, what makes them is
given with the settings; nothing is assumed of it.
-/
namespace HttpContract

structure Config where
  defaultCharset : String
  specification : String
  seed : Option Int
  /-- What a draft with this seed makes examples by. -/
  examples : Regex.Maker

structure Environment where
  defaultCharset : Option String
  specification : Option String
  seed : Option String
  deriving DecidableEq

namespace Config

def standardCharset : String := "utf-8"

/-- Examples are made by the first choice everywhere. -/
def standard : Config := ⟨standardCharset, "3.0.0", none, Regex.maker fun _ _ => 0⟩

def check (c : Config) : Result Config :=
  match Encoding.find c.defaultCharset with
  | .ok _ => .ok c
  | .error .cut => .error .unusableValue
  | .error _ => .error (.unknownDefaultCharset c.defaultCharset)

/-- A seed that is no integer counts as none. -/
def ofEnvironment (e : Environment) (examples : Option Int → Regex.Maker) : Result Config :=
  let seed := e.seed.bind fun s => Number.readInteger s.toList
  check ⟨e.defaultCharset.getD standard.defaultCharset,
    e.specification.getD standard.specification, seed, examples seed⟩

end Config

end HttpContract
