import HttpContract.Regex.Parser

/-!
Formats of dates and times: text with directives, each of which stands for a part of a date. A
format is met by way of a regular expression with a group for each directive; letters count the same
as capitals, and any run of white space is met by any other.
-/
namespace HttpContract.Calendar

def weekdayNames : List String :=
  ["monday", "tuesday", "wednesday", "thursday", "friday", "saturday", "sunday"]

def weekdayShorts : List String := ["mon", "tue", "wed", "thu", "fri", "sat", "sun"]

def monthNames : List String :=
  ["january", "february", "march", "april", "may", "june", "july", "august", "september",
    "october", "november", "december"]

def monthShorts : List String :=
  ["jan", "feb", "mar", "apr", "may", "jun", "jul", "aug", "sep", "oct", "nov", "dec"]

def simpleDirective : Char → Option String
  | 'd' => some "3[0-1]|[1-2]\\d|0[1-9]|[1-9]| [1-9]"
  | 'f' => some "[0-9]\x7b1,6\x7d"
  | 'H' => some "2[0-3]|[0-1]\\d|\\d"
  | 'I' => some "1[0-2]|0[1-9]|[1-9]"
  | 'G' => some "\\d\\d\\d\\d"
  | 'j' => some
    "36[0-6]|3[0-5]\\d|[1-2]\\d\\d|0[1-9]\\d|00[1-9]|[1-9]\\d|0[1-9]|[1-9]"
  | 'm' => some "1[0-2]|0[1-9]|[1-9]"
  | 'M' => some "[0-5]\\d|\\d"
  | 'S' => some "6[0-1]|[0-5]\\d|\\d"
  | 'U' => some "5[0-3]|[0-4]\\d|\\d"
  | 'W' => some "5[0-3]|[0-4]\\d|\\d"
  | 'w' => some "[0-6]"
  | 'u' => some "[1-7]"
  | 'V' => some "5[0-3]|0[1-9]|[1-4]\\d|\\d"
  | 'y' => some "\\d\\d"
  | 'Y' => some "\\d\\d\\d\\d"
  | 'z' => some
    "[+-]\\d\\d:?[0-5]\\d(:?[0-5]\\d(\\.\\d\x7b1,6\x7d)?)?|(?-i:Z)"
  | 'A' => some (String.intercalate "|" weekdayNames)
  | 'a' => some (String.intercalate "|" weekdayShorts)
  | 'B' => some (String.intercalate "|" monthNames)
  | 'b' => some (String.intercalate "|" monthShorts)
  | 'p' => some "am|pm"
  | 'Z' => some "utc|gmt"
  | _ => none

def compositeDirective : Char → Option String
  | 'c' => some "%a %b %d %H:%M:%S %Y"
  | 'x' => some "%m/%d/%y"
  | 'X' => some "%H:%M:%S"
  | _ => none

inductive FormatFault
  | directive (name : Char)
  | stray
  deriving DecidableEq

def isMark (c : Char) : Bool :=
  ['\x5c', '.', '^', '$', '*', '+', '?', '(', ')', '\x7b', '\x7d', '[', ']', '|'].contains c

def group (name : Char) (body : String) : List Char :=
  "(?P<".toList ++ name :: '>' :: body.toList ++ [')']

/-- The expression for a format of simple directives. `blank` tells whether white space has just
been read. -/
def simplePattern (blank : Bool) : List Char → List Char
  | [] => []
  | '%' :: c :: rest => group c ((simpleDirective c).getD "") ++ simplePattern false rest
  | c :: rest =>
    if Text.isBlank c then
      if blank then simplePattern true rest else "\\s+".toList ++ simplePattern true rest
    else c :: simplePattern false rest

/-- The expression for a format. A percent sign before white space or a mark is a directive without
a name, and named after itself. -/
def pattern (blank : Bool) : List Char → Except FormatFault (List Char)
  | [] => .ok []
  | ['%'] => .error .stray
  | '%' :: c :: rest =>
    if c = '%' then ('%' :: ·) <$> pattern false rest
    else match simpleDirective c, compositeDirective c with
      | some body, _ => (group c body ++ ·) <$> pattern false rest
      | none, some format => (simplePattern false format.toList ++ ·) <$> pattern false rest
      | none, none => .error (.directive (if isMark c || Text.isBlank c then '%' else c))
  | c :: rest =>
    if Text.isBlank c then
      if blank then pattern true rest else ("\\s+".toList ++ ·) <$> pattern true rest
    else if isMark c then ('\x5c' :: c :: ·) <$> pattern false rest
    else (c :: ·) <$> pattern false rest

end HttpContract.Calendar
