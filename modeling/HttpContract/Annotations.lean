import HttpContract.Example

/-!
The rules and generators that are collected while a body is put together, each under the path of its
place. No path stands there twice, and none without a rule.
-/
namespace HttpContract

structure Annotations where
  rules : RuleGroups
  /-- The generators by the path of their place. -/
  places : Keyed String Generator
  rules_distinct : (Keyed.keys rules).Nodup
  places_distinct : (Keyed.keys places).Nodup
  rules_filled : RuleGroups.Filled rules

namespace Annotations

def none : Annotations := ⟨[], [], .nil, .nil, by simp [RuleGroups.Filled]⟩

def generators (a : Annotations) : GeneratorSet :=
  match a.places with
  | [] => []
  | entries => [(.body, entries)]

def addRule (a : Annotations) (key : String) (rule : Rule) : Annotations :=
  { a with
    rules := RuleGroups.addRule a.rules key rule .all
    rules_distinct := RuleGroups.nodup_keys_addRule a.rules_distinct key rule .all
    rules_filled := RuleGroups.filled_addRule a.rules_filled key rule .all }

def addGenerator (a : Annotations) (key : String) (g : Generator) : Annotations :=
  { a with
    places := Keyed.put a.places key g
    places_distinct := Keyed.nodup_keys_put a.places_distinct key g }

def note (a : Annotations) (key : String) (e : Example) : Annotations :=
  let a := match e.rule with
    | some rule => a.addRule key rule
    | .none => a
  match e.generator with
  | some g => a.addGenerator key g
  | .none => a

end Annotations

end HttpContract
