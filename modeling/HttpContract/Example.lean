import HttpContract.Config
import HttpContract.Generator
import HttpContract.Rule

/-!
Example values with the rule and the generator that describe them.
-/
namespace HttpContract

structure Example where
  value : Value
  rule : Option Rule
  generator : Option Generator

namespace Example

def literal (v : Value) : Example := ⟨v, none, none⟩

def like (v : Value) : Example := ⟨v, some .type, none⟩

/-- Any string; without an example, one of twenty characters is generated. -/
def string : Value → Example
  | .null => ⟨.text "string", some .type, some (.randomString 20)⟩
  | v => like v

def integer : Value → Example
  | .null => ⟨.int 100, some (.number .integer), some (.randomInt 0 Generator.greatestInt)⟩
  | v => ⟨v, some (.number .integer), none⟩

def decimal : Value → Example
  | .null =>
    ⟨.real (.ofInt 100), some (.number .decimal), some (.randomDecimal 10)⟩
  | v => ⟨v, some (.number .decimal), none⟩

def number : Value → Example
  | .null => ⟨.int 100, some (.number .number), some (.randomInt 0 Generator.greatestInt)⟩
  | v => ⟨v, some (.number .number), none⟩

def boolean : Value → Example
  | .null => ⟨.bool true, some .type, some .randomBoolean⟩
  | v => like v

def matching (pattern shown : String) : Example :=
  ⟨.text shown, some (.regex pattern (some shown)), none⟩

/-- An example that has been made after a pattern; another one is made at verification. -/
def sampled (pattern shown : String) : Example :=
  ⟨.text shown, some (.regex pattern none), some (.regex pattern)⟩

def regexp (examples : Regex.Maker) (pattern : String) : Option String → Result Example
  | some shown => .ok (matching pattern shown)
  | none => sampled pattern <$> examples [] pattern

def inclusion (part : String) : Example := ⟨.text part, some (.include part), none⟩

def timestamp (format value : String) : Example := ⟨.text value, some (.timestamp format), none⟩

def date (format value : String) : Example := ⟨.text value, some (.date format), none⟩

def time (format value : String) : Example := ⟨.text value, some (.time format), none⟩

def kindOf : Value → DataKind
  | .bool _ => .truth
  | .int _ => .integer
  | .real _ => .real
  | .decimal _ => .decimal
  | .text _ => .text
  | _ => .raw

def ofProviderState (expression : String) (v : Value) : Example :=
  ⟨v, some .type, some (.providerState expression (kindOf v))⟩

end Example

end HttpContract
