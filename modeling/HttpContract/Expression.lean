import HttpContract.Value.Text

/-!
Expressions over provider states: text with placeholders such as `${id}`, which run to the next
closing brace. A text without placeholders is the name of a value.
-/
namespace HttpContract.Expression

inductive Piece
  | literal (c : Char)
  | placeholder (key : List Char)
  deriving DecidableEq

def pieces (s : List Char) : List Piece :=
  match s with
  | [] => []
  | '$' :: '\x7b' :: inner =>
    let key := inner.takeWhile (· ≠ '\x7d')
    if key.length < inner.length then .placeholder key :: pieces (inner.drop (key.length + 1))
    else .literal '$' :: pieces ('\x7b' :: inner)
  | c :: rest => .literal c :: pieces rest
termination_by s.length
decreasing_by all_goals (simp only [List.length_cons, List.length_drop]; omega)

def keys (ps : List Piece) : List (List Char) :=
  ps.filterMap fun
    | .literal _ => none
    | .placeholder key => some key

abbrev Values := List (Value × Value)

def find (expression : String) (values : Values) (key : List Char) : Result Value :=
  match Value.lookup values (String.ofList key) with
  | some v => .ok v
  | none => .error (.undefinedPlaceholder (String.ofList key) expression)

def expand (expression : String) (values : Values) : List Piece → Result (List Char)
  | [] => .ok []
  | .literal c :: rest => do
    let s ← expand expression values rest
    return c :: s
  | .placeholder key :: rest => do
    let v ← find expression values key
    let piece ← v.plain
    let s ← expand expression values rest
    return piece ++ s

/-- A placeholder by itself stands for the value as it is. -/
def eval (expression : String) (values : Values) : Result Value :=
  match pieces expression.toList with
  | [.placeholder key] => find expression values key
  | ps =>
    if (keys ps).isEmpty then
      match Value.lookup values expression with
      | some v => .ok v
      | none => .error (.undefinedState expression)
    else do
      let _ ← (keys ps).mapM (find expression values)
      let s ← expand expression values ps
      return .text (String.ofList s)

end HttpContract.Expression
