import HttpContract.Number.Integer
import HttpContract.Regex.Match
import HttpContract.Text.CharName

/-!
Reading regular expressions. A backslash and the character after it are one token. Flags are settled
while reading: those that hold everywhere stand at the start of the expression, all others belong to
a group.
-/
namespace HttpContract.Regex

inductive Token
  | char (c : Char)
  | escape (c : Char)
  /-- A backslash with nothing after it. -/
  | dangling
  deriving DecidableEq

def Token.ofText : List Char → List Token
  | [] => []
  | ['\x5c'] => [.dangling]
  | '\x5c' :: c :: rest => .escape c :: Token.ofText rest
  | c :: rest => .char c :: Token.ofText rest

def Token.text : Token → List Char
  | char c => [c]
  | escape c => ['\x5c', c]
  | dangling => ['\x5c']

structure Flags where
  ignoreCase : Bool := false
  multiline : Bool := false
  dotAll : Bool := false
  verbose : Bool := false
  ascii : Bool := false
  unicode : Bool := false
  template : Bool := false

namespace Flags

def union (f g : Flags) : Flags :=
  ⟨f.ignoreCase || g.ignoreCase, f.multiline || g.multiline, f.dotAll || g.dotAll,
    f.verbose || g.verbose, f.ascii || g.ascii, f.unicode || g.unicode, f.template || g.template⟩

def meets (f g : Flags) : Bool :=
  f.ignoreCase && g.ignoreCase || f.multiline && g.multiline || f.dotAll && g.dotAll
    || f.verbose && g.verbose

/-- The flags of a group: of the two character sets the one that the group names counts. -/
def within (outer on off : Flags) : Flags :=
  ⟨(outer.ignoreCase || on.ignoreCase) && !off.ignoreCase,
    (outer.multiline || on.multiline) && !off.multiline,
    (outer.dotAll || on.dotAll) && !off.dotAll,
    (outer.verbose || on.verbose) && !off.verbose,
    if on.ascii || on.unicode then on.ascii else outer.ascii,
    if on.ascii || on.unicode then on.unicode else outer.unicode,
    outer.template⟩

def fold (f : Flags) : Fold :=
  if !f.ignoreCase then .exact else if f.ascii then .ascii else .unicode

def ofLetter : Char → Option Flags
  | 'i' => some { ignoreCase := true }
  | 'm' => some { multiline := true }
  | 's' => some { dotAll := true }
  | 'x' => some { verbose := true }
  | 'a' => some { ascii := true }
  | 'u' => some { unicode := true }
  | 't' => some { template := true }
  | _ => none

end Flags

inductive SyntaxFault
  | invalid
  | tooLarge
  | incompatible
  | longBound
  deriving DecidableEq

/-- How far an expression has been read. `groups` holds the widths of the groups by their number,
none for the whole expression and for groups still open. -/
structure Reading where
  tokens : List Token
  flags : Flags
  groups : Array (Option (Nat × Nat))
  names : List (String × Nat)
  /-- Within a look behind, only groups below this number may be referred to. -/
  groupLimit : Option Nat
  /-- Groups that a condition names by number, which may come later. -/
  awaited : List Nat
  usable : Bool

abbrev Reader := StateT Reading (Except SyntaxFault)

namespace Reader

def fail {α : Type} : Reader α := throw .invalid

def next : Reader (Option Token) := do
  match (← get).tokens with
  | [] => return none
  | .dangling :: _ => fail
  | t :: _ => return some t

def skip : Reader Unit := modify fun r => { r with tokens := r.tokens.tail }

def take : Reader (Option Token) := do
  let t ← next
  skip
  return t

def demand : Reader Token := do
  match ← take with
  | some t => return t
  | none => fail

def accept (c : Char) : Reader Bool := do
  if (← next) = some (.char c) then
    skip
    return true
  else return false

def expect (c : Char) : Reader Unit := do
  if !(← accept c) then fail

def takeWhile (n : Nat) (p : Char → Bool) : Reader (List Char) := do
  let plain (t : Token) : Option Char := match t with
    | .char c => if p c then some c else none
    | _ => none
  let taken := ((← get).tokens.take n).map plain |>.takeWhile Option.isSome |>.filterMap id
  modify fun r => { r with tokens := r.tokens.drop taken.length }
  return taken

def takeUntil (stop : Char) : Reader (List Char) := do
  let tokens := (← get).tokens
  let name := tokens.takeWhile (· ≠ .char stop)
  if name.isEmpty || name.length = tokens.length then fail
  modify fun r => { r with tokens := r.tokens.drop (name.length + 1) }
  return name.flatMap Token.text

def isOctalDigit (c : Char) : Bool := '0' ≤ c && c ≤ '7'

def isHexDigit (c : Char) : Bool :=
  Text.isAsciiDigit c || 'a' ≤ c && c ≤ 'f' || 'A' ≤ c && c ≤ 'F'

def hexValue (c : Char) : Nat :=
  if Text.isAsciiDigit c then c.toNat - 0x30 else c.toLower.toNat - 0x57

def ofBase (base : Nat) (s : List Char) : Nat :=
  s.foldl (fun n c => base * n + hexValue c) 0

def hexCode (n : Nat) : Reader Nat := do
  let digits ← takeWhile n isHexDigit
  if digits.length ≠ n then fail
  let code := ofBase 16 digits
  if 0x10ffff < code then fail
  return code

def namedCode : Reader Nat := do
  expect '\x7b'
  match Text.charNamed? (← takeUntil '\x7d') with
  | some c => return c.toNat
  | none => fail

def commonEscape (c : Char) : Reader (Option Nat) := do
  match c with
  | 'a' => return some 7
  | 'f' => return some 12
  | 'n' => return some 10
  | 'r' => return some 13
  | 't' => return some 9
  | 'v' => return some 11
  | 'x' => some <$> hexCode 2
  | 'u' => some <$> hexCode 4
  | 'U' => some <$> hexCode 8
  | 'N' => some <$> namedCode
  | _ =>
    if Text.isAsciiLetter c then fail
    if Text.isAsciiDigit c then return none else return some c.toNat

def classEscape (flags : Flags) : Char → Option SetItem
  | 'd' => some (.kind .digit false flags.ascii)
  | 'D' => some (.kind .digit true flags.ascii)
  | 's' => some (.kind .space false flags.ascii)
  | 'S' => some (.kind .space true flags.ascii)
  | 'w' => some (.kind .word false flags.ascii)
  | 'W' => some (.kind .word true flags.ascii)
  | _ => none

def setMember (flags : Flags) : Token → Reader SetItem
  | .dangling => fail
  | .char c => return .code c.toNat
  | .escape c => do
    match classEscape flags c with
    | some item => return item
    | none =>
      if c = 'b' then return .code 8
      if isOctalDigit c then
        let digits ← takeWhile 2 isOctalDigit
        let code := ofBase 8 (c :: digits)
        if 0o377 < code then fail
        return .code code
      match ← commonEscape c with
      | some code => return .code code
      | none => fail

def setMembers (flags : Flags) : Nat → List SetItem → Reader (List SetItem)
  | 0, _ => fail
  | fuel + 1, known => do
    let t ← demand
    if t = .char ']' && !known.isEmpty then return known.reverse
    let low ← setMember flags t
    if ← accept '-' then
      let t ← demand
      if t = .char ']' then return (.code 0x2d :: low :: known).reverse
      match low, ← setMember flags t with
      | .code lo, .code hi =>
        if hi < lo then fail
        setMembers flags fuel (.range lo hi :: known)
      | _, _ => fail
    else setMembers flags fuel (low :: known)

def set (flags : Flags) : Reader Node := do
  let negated ← accept '^'
  let items ← setMembers flags ((← get).tokens.length + 1) []
  return .one ⟨negated, items.eraseDups, flags.fold⟩

def isOpenGroup (group : Nat) : Reader Bool := do
  return match (← get).groups[group]? with
    | some (some _) => false
    | _ => true

/-- Within a look behind, a group has to be complete, and to stand before it. -/
def checkGroupLimit (group : Nat) : Reader Unit := do
  match (← get).groupLimit with
  | none => return ()
  | some limit => if (← isOpenGroup group) || limit ≤ group then fail

def groupRef (flags : Flags) (group : Nat) : Reader Node := do
  if ← isOpenGroup group then fail
  checkGroupLimit group
  return .ref group flags.fold

def code (flags : Flags) (n : Nat) : Node := .one (.ofCode flags.fold n)

/-- Three octal digits are a character, one or two digits a group. -/
def digitEscape (flags : Flags) (c : Char) : Reader Node := do
  if c = '0' then
    let digits ← takeWhile 2 isOctalDigit
    return code flags (ofBase 8 digits)
  let second ← takeWhile 1 Text.isAsciiDigit
  let third ←
    if isOctalDigit c && !second.isEmpty && second.all isOctalDigit then takeWhile 1 isOctalDigit
    else pure []
  if third.isEmpty then groupRef flags (ofBase 10 (c :: second))
  else
    let n := ofBase 8 (c :: second ++ third)
    if 0o377 < n then fail
    return code flags n

def escape (flags : Flags) (c : Char) : Reader (Node × Bool) := do
  match c with
  | 'A' => return (.anchor .textStart, true)
  | 'b' => return (.anchor (.boundary flags.ascii), true)
  | 'B' => return (.anchor (.noBoundary flags.ascii), true)
  | 'Z' => return (.anchor .textEnd, true)
  | _ =>
    match classEscape flags c with
    | some item => return (.one ⟨false, [item], flags.fold⟩, false)
    | none =>
      match ← commonEscape c with
      | some n => return (code flags n, false)
      | none => return (← digitEscape flags c, false)

def countLimit : Nat := 4294967295

def count (digits : List Char) : Reader Nat := do
  if Number.digitLimit < digits.length then throw .longBound
  let n := ofBase 10 digits
  if countLimit ≤ n then throw .tooLarge
  return n

/-- The bounds that a repetition mark sets. A brace that does not open two bounds stands for itself
and sets none. -/
def bounds (c : Char) : Reader (Option (Nat × Option Nat)) := do
  match c with
  | '?' => return some (0, some 1)
  | '*' => return some (0, none)
  | '+' => return some (1, none)
  | _ =>
    if (← next) = some (.char '\x7d') then return none
    let here := (← get).tokens
    let low ← takeWhile here.length Text.isAsciiDigit
    let ranged ← accept ','
    let high ← if ranged then takeWhile here.length Text.isAsciiDigit else pure low
    if !(← accept '\x7d') then
      modify fun r => { r with tokens := here }
      return none
    let _ ← next
    let min ← if low.isEmpty then pure 0 else count low
    if high.isEmpty then return some (min, none)
    let max ← count high
    if max < min then fail
    return some (min, some max)

inductive ItemKind
  | plain
  | place
  | repeated
  deriving DecidableEq

abbrev Item := List Node × ItemKind

def greedMark : Reader Greed := do
  if ← accept '?' then return .lazy
  if ← accept '+' then return .possessive
  return .greedy

def repeatLast (flags : Flags) (min : Nat) (max : Option Nat) :
    List Item → Reader (List Item)
  | (nodes, .plain) :: rest => do
    let greed ← greedMark
    if flags.template then modify fun r => { r with usable := false }
    return ([.times min max greed (.ofList nodes)], .repeated) :: rest
  | _ => fail

def lineComment : Reader Unit := do
  let tokens := (← get).tokens
  let rest := tokens.dropWhile (· ≠ .char '\n')
  if rest.isEmpty && tokens.contains .dangling then fail
  modify fun r => { r with tokens := rest.tail }

def groupComment : Reader Unit := do
  let tokens := (← get).tokens
  let rest := tokens.dropWhile (· ≠ .char ')')
  if rest.isEmpty then fail
  modify fun r => { r with tokens := rest.tail }

def flagLetters (on : Bool) : Nat → Char → Flags → Reader (Flags × Char)
  | 0, _, _ => fail
  | fuel + 1, c, known => do
    match Flags.ofLetter c with
    | none => fail
    | some flag =>
      let flags := known.union flag
      if (flag.ascii || flag.unicode) && (!on || flags.ascii && flags.unicode) then fail
      match ← demand with
      | .char d =>
        if d = ':' || on && (d = ')' || d = '-') then return (flags, d)
        flagLetters on fuel d flags
      | _ => fail

def flagGroup (c : Char) : Reader (Flags ⊕ (Flags × Flags)) := do
  let fuel := (← get).tokens.length + 1
  let (on, stop) ← if c = '-' then pure (({} : Flags), c) else flagLetters true fuel c {}
  if stop = ')' then return .inl on
  if on.template then fail
  if stop = ':' then return .inr (on, {})
  match ← demand with
  | .char d =>
    let (off, _) ← flagLetters false fuel d {}
    if off.template || on.meets off then fail
    return .inr (on, off)
  | _ => fail

def openGroup (name : Option String) : Reader Nat := do
  let r ← get
  let group := r.groups.size
  match name with
  | some name =>
    if (r.names.lookup name).isSome then fail
    modify fun r => { r with groups := r.groups.push none, names := r.names ++ [(name, group)] }
  | none => modify fun r => { r with groups := r.groups.push none }
  return group

def widthOf (node : Node) : Reader (Nat × Nat) := do
  let groups := (← get).groups
  return node.width fun i => match groups[i]? with
    | some (some w) => w
    | _ => (0, 0)

def closeGroup (group : Nat) (node : Node) : Reader Unit := do
  let w ← widthOf node
  modify fun r => { r with groups := r.groups.set! group (some w) }

def groupName (stop : Char) : Reader String := do
  let name ← takeUntil stop
  if !Text.isIdentifier name then fail
  return String.ofList name

def namedGroup (name : String) : Reader Nat := do
  match (← get).names.lookup name with
  | some group => return group
  | none => fail

def greatestGroup : Nat := 1073741823

def condition : Reader Nat := do
  let name ← takeUntil ')'
  let group ←
    if Text.isIdentifier name then namedGroup (String.ofList name)
    else match Number.readInteger name with
      | some n =>
        if n ≤ 0 || greatestGroup ≤ n then fail
        modify fun r => { r with awaited := n.toNat :: r.awaited }
        pure n.toNat
      | none => fail
  checkGroupLimit group
  return group

def lookBehind (negated : Bool) (node : Node) : Reader Node := do
  let (least, greatest) ← widthOf node
  if least ≠ greatest || countLimit < least then modify fun r => { r with usable := false }
  return .behind negated least node

def withGroupLimit (act : Reader Node) : Reader Node := do
  let r ← get
  match r.groupLimit with
  | some _ => act
  | none =>
    modify fun r => { r with groupLimit := some r.groups.size }
    let node ← act
    modify fun r => { r with groupLimit := none }
    return node

inductive Opening
  | nothing
  | item (node : Node)
  | capture (name : Option String)
  | plain
  | flagged (on off : Flags)
  | atomic
  | look (behind negated : Bool)
  | choice (group : Nat)
  | everywhere (flags : Flags)

def opening (flags : Flags) : Reader Opening := do
  if !(← accept '?') then return .capture none
  match ← demand with
  | .char 'P' =>
    if ← accept '<' then return .capture (some (← groupName '>'))
    if ← accept '=' then
      let name ← groupName ')'
      return .item (← groupRef flags (← namedGroup name))
    fail
  | .char ':' => return .plain
  | .char '#' =>
    groupComment
    return .nothing
  | .char '=' => return .look false false
  | .char '!' => return .look false true
  | .char '<' =>
    match ← demand with
    | .char '=' => return .look true false
    | .char '!' => return .look true true
    | _ => fail
  | .char '(' => return .choice (← condition)
  | .char '>' => return .atomic
  | .char c =>
    match ← flagGroup c with
    | .inl on => return .everywhere on
    | .inr (on, off) => return .flagged on off
  | _ => fail

def nodesOf (items : List Item) : List Node := items.reverse.flatMap Prod.fst

def nodeOf (alternatives : List (List Node)) : Node := .ofList (Node.branch alternatives)

mutual

/-- Alternatives up to the end or to a closing parenthesis; `depth` counts the parentheses around
them. -/
def alternatives (fuel : Nat) (flags : Flags) (depth : Nat) (first : Bool) :
    Reader (List (List Node)) :=
  match fuel with
  | 0 => fail
  | fuel + 1 => do
    let nodes ← sequence fuel flags (depth = 0 && first) []
    if ← accept '|' then
      let all := (← get).flags
      let flags := if depth = 0 then all else flags
      let others ← alternatives fuel flags depth false
      return nodes :: others
    else return [nodes]

/-- The items of one alternative, those that have been read last first. At the very start flags may
be set that hold everywhere. -/
def sequence (fuel : Nat) (flags : Flags) (first : Bool) (items : List Item) :
    Reader (List Node) :=
  match fuel with
  | 0 => fail
  | fuel + 1 => do
    match ← next with
    | none => return nodesOf items
    | some (.char c) =>
      if c = '|' || c = ')' then return nodesOf items
      skip
      -- In verbose expressions blanks count only inside of sets, and a hash begins a comment.
      if flags.verbose && [' ', '\t', '\n', '\r', '\x0b', '\x0c'].contains c then
        sequence fuel flags first items
      else if flags.verbose && c = '#' then
        lineComment
        sequence fuel flags first items
      else match c with
        | '[' =>
          let node ← set flags
          sequence fuel flags first (([node], .plain) :: items)
        | '.' => sequence fuel flags first (([.any flags.dotAll], .plain) :: items)
        | '^' =>
          let a := if flags.multiline then Anchor.lineStart else .textStart
          sequence fuel flags first (([.anchor a], .place) :: items)
        | '$' =>
          let a := if flags.multiline then Anchor.lineEnd else .lastLineEnd
          sequence fuel flags first (([.anchor a], .place) :: items)
        | '(' =>
          match ← opening flags with
          | .nothing => sequence fuel flags first items
          | .item node => sequence fuel flags first (([node], .plain) :: items)
          | .everywhere on =>
            -- Flags for the whole expression stand at its very start only.
            if !first || !items.isEmpty then fail
            let all := (← get).flags.union on
            modify fun r => { r with flags := all }
            sequence fuel all first items
          | .look behind negated =>
            let body := nodeOf <$> alternatives fuel flags 1 true
            let node ← if behind then withGroupLimit body else body
            expect ')'
            let node ← if behind then lookBehind negated node else pure (.ahead negated node)
            sequence fuel flags first (([node], .plain) :: items)
          | .choice group =>
            let yes ← sequence fuel flags false []
            let no ←
              if ← accept '|' then sequence fuel flags false [] else pure []
            expect ')'
            sequence fuel flags first
              (([.choose group (.ofList yes) (.ofList no)], .plain) :: items)
          | .atomic =>
            let body := nodeOf (← alternatives fuel flags 1 true)
            expect ')'
            sequence fuel flags first (([.atomic body], .plain) :: items)
          | .plain =>
            let nodes := Node.branch (← alternatives fuel flags 1 true)
            expect ')'
            sequence fuel flags first ((nodes, .plain) :: items)
          | .flagged on off =>
            let body := nodeOf (← alternatives fuel (flags.within on off) 1 true)
            expect ')'
            sequence fuel flags first (([.flagged body], .plain) :: items)
          | .capture name =>
            let group ← openGroup name
            let body := nodeOf (← alternatives fuel flags 1 true)
            expect ')'
            closeGroup group body
            sequence fuel flags first (([.group group body], .plain) :: items)
        | _ =>
          if ['*', '+', '?', '\x7b'].contains c then
            match ← bounds c with
            | none => sequence fuel flags first (([code flags c.toNat], .plain) :: items)
            | some (min, max) =>
              let items ← repeatLast flags min max items
              sequence fuel flags first items
          else sequence fuel flags first (([code flags c.toNat], .plain) :: items)
    | some (.escape c) =>
      skip
      let (node, place) ← escape flags c
      sequence fuel flags first (([node], if place then .place else .plain) :: items)
    | some .dangling => fail

end

def expression (fuel : Nat) : Reader Node := do
  let nodes ← alternatives fuel {} 0 true
  let r ← get
  if r.flags.ascii && r.flags.unicode then throw .incompatible
  if !r.tokens.isEmpty || r.awaited.any (r.groups.size ≤ ·) then fail
  return nodeOf nodes

end Reader

/-- Every step into a group or past an item takes a token, so three steps a token are enough. -/
def Pattern.parse (s : List Char) : Except SyntaxFault Pattern :=
  let tokens := Token.ofText s
  match (Reader.expression (3 * tokens.length + 3)).run ⟨tokens, {}, #[none], [], none, [], true⟩ with
  | .ok (root, r) => .ok ⟨root, r.groups.size - 1, r.names, r.usable⟩
  | .error fault => .error fault

end HttpContract.Regex
