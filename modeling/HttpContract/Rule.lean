import HttpContract.Keyed
import HttpContract.Value.Equality

/-!
Matching rules, the groups in which they are combined, and the categories that keep a group under
each key.
-/
namespace HttpContract

inductive NumberKind
  | number
  | integer
  | decimal
  deriving DecidableEq

inductive Rule
  /-- A rule of no kind, which asks for equality. -/
  | unspecified
  | regex (pattern : String) (example? : Option String)
  | type
  | minType (min : Int)
  | maxType (max : Int)
  | minMaxType (min max : Int)
  | number (kind : NumberKind)
  | include (part : String)
  | null
  | equality
  | ignoreOrder
  | minIgnoreOrder (min : Int)
  | maxIgnoreOrder (max : Int)
  | minMaxIgnoreOrder (min max : Int)
  | mediaType (text : String)
  | date (format : String)
  | time (format : String)
  | timestamp (format : String)
  deriving DecidableEq

namespace NumberKind

def name : NumberKind → String
  | number => "number"
  | integer => "integer"
  | decimal => "decimal"

def ofName? (s : String) : Option NumberKind :=
  [number, integer, decimal].find? fun k => k.name == s

end NumberKind

inductive RuleKind
  | unspecified
  | regex
  | type
  | minType
  | maxType
  | minMaxType
  | number
  | include
  | null
  | equality
  | ignoreOrder
  | minIgnoreOrder
  | maxIgnoreOrder
  | minMaxIgnoreOrder
  | mediaType
  | date
  | time
  | timestamp
  deriving DecidableEq

namespace Rule

def kind : Rule → RuleKind
  | unspecified => .unspecified
  | regex _ _ => .regex
  | type => .type
  | minType _ => .minType
  | maxType _ => .maxType
  | minMaxType _ _ => .minMaxType
  | number _ => .number
  | .include _ => .include
  | null => .null
  | equality => .equality
  | ignoreOrder => .ignoreOrder
  | minIgnoreOrder _ => .minIgnoreOrder
  | maxIgnoreOrder _ => .maxIgnoreOrder
  | minMaxIgnoreOrder _ _ => .minMaxIgnoreOrder
  | mediaType _ => .mediaType
  | date _ => .date
  | time _ => .time
  | timestamp _ => .timestamp

def parameters : Rule → List Value
  | regex pattern example? => [.text pattern, .ofText? example?]
  | unspecified | type | null | equality | ignoreOrder => []
  | minType n | maxType n | minIgnoreOrder n | maxIgnoreOrder n => [.int n]
  | minMaxType min max | minMaxIgnoreOrder min max => [.int min, .int max]
  | number kind => [.text kind.name]
  | .include s | mediaType s | date s | time s | timestamp s => [.text s]

/-- The fields of the rule in a contract document. The example of a pattern is left out. -/
def fields : Rule → List (String × Value)
  | unspecified => [("match", .text "")]
  | regex pattern _ => [("match", .text "regex"), ("regex", .text pattern)]
  | type => [("match", .text "type")]
  | minType min => [("match", .text "type"), ("min", .int min)]
  | maxType max => [("match", .text "type"), ("max", .int max)]
  | minMaxType min max => [("match", .text "type"), ("min", .int min), ("max", .int max)]
  | number kind => [("match", .text kind.name)]
  | .include part => [("match", .text "include"), ("value", .text part)]
  | null => [("match", .text "null")]
  | equality => [("match", .text "equality")]
  | ignoreOrder => [("match", .text "ignore-order")]
  | minIgnoreOrder min => [("match", .text "ignore-order"), ("min", .int min)]
  | maxIgnoreOrder max => [("match", .text "ignore-order"), ("max", .int max)]
  | minMaxIgnoreOrder min max =>
    [("match", .text "ignore-order"), ("min", .int min), ("max", .int max)]
  | mediaType text => [("match", .text "contentType"), ("value", .text text)]
  | date format => [("match", .text "date"), ("format", .text format)]
  | time format => [("match", .text "time"), ("format", .text format)]
  | timestamp format => [("match", .text "timestamp"), ("format", .text format)]

def document (rule : Rule) : Value := .record rule.fields

end Rule

namespace RuleKind

/-- The rule of this kind with these parameters. Any number will do if no kind of number is given,
and dates and times are written as usual if no format is. -/
def rule : RuleKind → List Value → Result Rule
  | unspecified, [] => .ok .unspecified
  | regex, [.text pattern] | regex, [.text pattern, .null] => .ok (.regex pattern none)
  | regex, [.text pattern, .text s] => .ok (.regex pattern (some s))
  | type, [] => .ok .type
  | minType, [.int n] => .ok (.minType n)
  | maxType, [.int n] => .ok (.maxType n)
  | minMaxType, [.int min, .int max] => .ok (.minMaxType min max)
  | number, [] => .ok (.number .number)
  | number, [.text name] =>
    match NumberKind.ofName? name with
    | some kind => .ok (.number kind)
    | none => .error .unusableValue
  | .include, [.text s] => .ok (.include s)
  | null, [] => .ok .null
  | equality, [] => .ok .equality
  | ignoreOrder, [] => .ok .ignoreOrder
  | minIgnoreOrder, [.int n] => .ok (.minIgnoreOrder n)
  | maxIgnoreOrder, [.int n] => .ok (.maxIgnoreOrder n)
  | minMaxIgnoreOrder, [.int min, .int max] => .ok (.minMaxIgnoreOrder min max)
  | mediaType, [.text s] => .ok (.mediaType s)
  | date, [] => .ok (.date "%Y-%m-%d")
  | date, [.text s] => .ok (.date s)
  | time, [] => .ok (.time "%H:%M:%S")
  | time, [.text s] => .ok (.time s)
  | timestamp, [] => .ok (.timestamp "%Y-%m-%dT%H:%M:%S")
  | timestamp, [.text s] => .ok (.timestamp s)
  | _, _ => .error .unsuitableType

/-- A rule is given back by its kind and its parameters. -/
theorem rule_parameters (r : Rule) : r.kind.rule r.parameters = .ok r := by
  cases r with
  | regex pattern shown => cases shown <;> rfl
  | number kind => cases kind <;> rfl
  | _ => rfl

end RuleKind

inductive RuleLogic
  | all
  | any
  deriving DecidableEq

def RuleLogic.name : RuleLogic → String
  | all => "AND"
  | any => "OR"

structure RuleGroup where
  rules : List Rule
  logic : RuleLogic
  deriving DecidableEq

def RuleGroup.document (g : RuleGroup) : Value :=
  .record [("matchers", .list (g.rules.map Rule.document)), ("combine", .text g.logic.name)]

abbrev RuleGroups := Keyed String RuleGroup

namespace RuleGroups

/-- A group after what is there under its key: the rules join, and the first logic stays. -/
def joined (there : Option RuleGroup) (group : RuleGroup) : RuleGroup :=
  match there with
  | some g => { g with rules := g.rules ++ group.rules }
  | none => group

def addGroup (m : RuleGroups) (key : String) (group : RuleGroup) : RuleGroups :=
  Keyed.put m key (joined (Keyed.get? m key) group)

def addRule (m : RuleGroups) (key : String) (rule : Rule) (logic : RuleLogic) : RuleGroups :=
  addGroup m key ⟨[rule], logic⟩

def addRules (m : RuleGroups) (key : String) (rules : List Rule) : RuleGroups :=
  rules.foldl (fun m rule => addRule m key rule .all) m

def setRule (m : RuleGroups) (key : String) (rule : Rule) (logic : RuleLogic) : RuleGroups :=
  Keyed.put m key ⟨[rule], logic⟩

def setGroup (m : RuleGroups) (key : String) (group : RuleGroup) : RuleGroups :=
  Keyed.put m key group

def count (m : RuleGroups) (key : String) : Nat :=
  match Keyed.get? m key with
  | some g => g.rules.length
  | none => 0

def merge (m other : RuleGroups) : RuleGroups :=
  other.foldl (fun m e => addGroup m e.1 e.2) m

theorem get?_addGroup (m : RuleGroups) (key other : String) (group : RuleGroup) :
    Keyed.get? (addGroup m key group) other =
      if key = other then some (joined (Keyed.get? m key) group) else Keyed.get? m other := by
  rw [addGroup, Keyed.get?_put]

/-- Groups of their own keys join what is there under these, and nothing else. -/
theorem get?_merge (m : RuleGroups) {other : RuleGroups} (h : (Keyed.keys other).Nodup)
    (key : String) :
    Keyed.get? (merge m other) key =
      match Keyed.get? other key with
      | some group => some (joined (Keyed.get? m key) group)
      | none => Keyed.get? m key := by
  induction other generalizing m with
  | nil => rfl
  | cons e rest ih =>
    obtain ⟨hk, hrest⟩ := List.nodup_cons.mp h
    refine (ih (addGroup m e.1 e.2) hrest).trans ?_
    rw [get?_addGroup]
    by_cases he : e.1 = key
    · have hn : Keyed.get? rest key = none := Keyed.get?_eq_none (he ▸ hk)
      rw [hn, if_pos he, Keyed.get?, if_pos he, he]
    · rw [if_neg he, Keyed.get?, if_neg he]

def Filled (m : RuleGroups) : Prop := ∀ e ∈ m, e.2.rules ≠ []

theorem filled_put {m : RuleGroups} (h : Filled m) (key : String) {group : RuleGroup}
    (hg : group.rules ≠ []) : Filled (Keyed.put m key group) := by
  intro e he
  rcases Keyed.mem_put he with rfl | hm
  · exact hg
  · exact h e hm

theorem filled_addGroup {m : RuleGroups} (h : Filled m) (key : String) {group : RuleGroup}
    (hg : group.rules ≠ []) : Filled (addGroup m key group) := by
  refine filled_put h key ?_
  unfold joined
  split
  · exact fun hr => hg (List.append_eq_nil_iff.mp hr).2
  · exact hg

theorem filled_addRule {m : RuleGroups} (h : Filled m) (key : String) (rule : Rule)
    (logic : RuleLogic) : Filled (addRule m key rule logic) := filled_addGroup h key (by simp)

theorem filled_setRule {m : RuleGroups} (h : Filled m) (key : String) (rule : Rule)
    (logic : RuleLogic) : Filled (setRule m key rule logic) := filled_put h key (by simp)

theorem filled_merge {m other : RuleGroups} (h : Filled m) (ho : Filled other) :
    Filled (merge m other) := by
  induction other generalizing m with
  | nil => exact h
  | cons e rest ih =>
    have he : Filled (addGroup m e.1 e.2) := filled_addGroup h e.1 (ho e (List.mem_cons_self ..))
    exact ih he fun d hd => ho d (List.mem_cons_of_mem e hd)

theorem nodup_keys_addRule {m : RuleGroups} (h : (Keyed.keys m).Nodup) (key : String) (rule : Rule)
    (logic : RuleLogic) : (Keyed.keys (addRule m key rule logic)).Nodup :=
  Keyed.nodup_keys_put h key _

/-- A category whose only key is empty is not keyed in a document. -/
def document (m : RuleGroups) : Value :=
  match m with
  | [("", group)] => group.document
  | m => .record (m.map fun e => (e.1, e.2.document))

end RuleGroups

abbrev RuleSet := Keyed String RuleGroups

namespace RuleSet

def category (s : RuleSet) (name : String) : RuleGroups := (Keyed.get? s name).getD []

def change (s : RuleSet) (name : String) (f : RuleGroups → RuleGroups) : RuleSet :=
  Keyed.put s name (f (category s name))

theorem category_change (s : RuleSet) (name other : String) (f : RuleGroups → RuleGroups) :
    category (change s name f) other =
      if name = other then f (category s name) else category s other := by
  unfold category change
  rw [Keyed.get?_put]
  split <;> rfl

def Filled (s : RuleSet) : Prop := ∀ name, RuleGroups.Filled (category s name)

theorem filled_change {s : RuleSet} (h : Filled s) (name : String) (f : RuleGroups → RuleGroups)
    (hf : RuleGroups.Filled (f (category s name))) : Filled (change s name f) := by
  intro other
  rw [category_change]
  split
  · exact hf
  · exact h other

def addCategory (s : RuleSet) (name : String) : RuleSet := change s name id

def mergeCategory (s : RuleSet) (name : String) (groups : RuleGroups) : RuleSet :=
  change s name fun m => RuleGroups.merge m groups

def hasCategory (s : RuleSet) (name : String) : Bool := (Keyed.get? s name).isSome

def isEmpty (s : RuleSet) : Bool := s.all fun e => e.2.isEmpty

def document (s : RuleSet) : Value :=
  .record ((s.filter fun e => !e.2.isEmpty).map fun e => (e.1, RuleGroups.document e.2))

def same (a b : RuleSet) : Bool := Value.same (document a) (document b)

end RuleSet

end HttpContract
