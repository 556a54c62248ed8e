/-!
Literals written between apostrophes, rewritten with double quotes. Between apostrophes an escaped
apostrophe stands for itself and a bare double quote gets an escape; a literal between double
quotes is copied; a literal that the text leaves open is closed at its end.
-/
namespace HttpContract.Text

inductive QuoteState
  | outside | double | single
  deriving DecidableEq

def requote : QuoteState → List Char → List Char
  | .outside, [] => []
  | .outside, c :: rest =>
    if c = '\x27' then '\x22' :: requote .single rest
    else if c = '\x22' then '\x22' :: requote .double rest
    else c :: requote .outside rest
  | .double, [] => ['\x22']
  | .double, '\x5c' :: c :: rest => '\x5c' :: c :: requote .double rest
  | .double, c :: rest =>
    if c = '\x22' then '\x22' :: requote .outside rest else c :: requote .double rest
  | .single, [] => ['\x22']
  | .single, '\x5c' :: c :: rest =>
    if c = '\x27' then '\x27' :: requote .single rest else '\x5c' :: c :: requote .single rest
  | .single, c :: rest =>
    if c = '\x27' then '\x22' :: requote .outside rest
    else if c = '\x22' then '\x5c' :: '\x22' :: requote .single rest
    else c :: requote .single rest

def withDoubleQuotes (s : String) : String := String.ofList (requote .outside s.toList)

end HttpContract.Text
