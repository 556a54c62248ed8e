import HttpContract.Proofs.Draft.Rules
import HttpContract.Proofs.Matching.Keyed

/-!
Does a request satisfy the rules for its own path and query parameters? A match replaces the value and
adds a rule to those that are there, from the same interaction or an earlier one: the new value has
to satisfy all of them.
-/
namespace HttpContract

open Editing

/-! ## Groups that ask for all of their rules -/

namespace RuleGroups

def Joint (m : RuleGroups) : Prop := ∀ e ∈ m, e.2.logic = .all

theorem joint_addRule {m : RuleGroups} (h : Joint m) (key : String) (rule : Rule) :
    Joint (addRule m key rule .all) := by
  intro e he
  rcases Keyed.mem_put he with rfl | hm
  · show (joined (Keyed.get? m key) ⟨[rule], .all⟩).logic = .all
    cases hg : Keyed.get? m key with
    | some group => exact h (key, group) (Keyed.mem_of_get? hg)
    | none => rfl
  · exact h e hm

end RuleGroups

inductive MatchedPlace
  | path
  | parameter (name : String)
  deriving DecidableEq

namespace MatchedPlace

def category : MatchedPlace → String
  | path => "path"
  | parameter _ => "query"

def key : MatchedPlace → String
  | path => ""
  | parameter name => name

def items : MatchedPlace → List String
  | path => ["$"]
  | parameter name => [name]

def values (r : Request) : MatchedPlace → List String
  | path => [r.path]
  | parameter name => (Keyed.get? r.query name).getD []

/-- The text has no mismatch with itself by the rules for this place. -/
def Accepts (place : MatchedPlace) (rules : RuleSet) (value : String) : Prop :=
  rules.compare place.category place.items (.text value) (.text value) = .ok []

end MatchedPlace

namespace RuleSet

/-- All rules of a path or a parameter have to hold, and those of the path stand under one key. -/
structure Joint (s : RuleSet) : Prop where
  path : RuleGroups.Joint (s.category "path")
  query : RuleGroups.Joint (s.category "query")
  path_key : ∀ e ∈ s.category "path", e.1 = ""

theorem joint_nil : Joint [] :=
  ⟨fun _ h => absurd h List.not_mem_nil, fun _ h => absurd h List.not_mem_nil,
    fun _ h => absurd h List.not_mem_nil⟩

theorem Joint.change {s : RuleSet} (h : Joint s) {name : String} (hpath : name ≠ "path")
    (hquery : name ≠ "query") (f : RuleGroups → RuleGroups) : Joint (s.change name f) := by
  constructor
  · rw [category_change, if_neg hpath]
    exact h.path
  · rw [category_change, if_neg hquery]
    exact h.query
  · rw [category_change, if_neg hpath]
    exact h.path_key

theorem Joint.addQueryRule {s : RuleSet} (h : Joint s) (name : String) (rule : Rule) :
    Joint (s.change "query" fun m => RuleGroups.addRule m name rule .all) := by
  constructor
  · rw [category_change, if_neg (by decide)]
    exact h.path
  · rw [category_change, if_pos rfl]
    exact RuleGroups.joint_addRule h.query name rule
  · rw [category_change, if_neg (by decide)]
    exact h.path_key

theorem Joint.addPathRule {s : RuleSet} (h : Joint s) (rule : Rule) :
    Joint (s.change "path" fun m => RuleGroups.addRule m "" rule .all) := by
  constructor
  · rw [category_change, if_pos rfl]
    exact RuleGroups.joint_addRule h.path "" rule
  · rw [category_change, if_neg (by decide)]
    exact h.query
  · rw [category_change, if_pos rfl]
    intro e he
    rcases Keyed.mem_put he with rfl | hm
    · rfl
    · exact h.path_key e hm

theorem Joint.addRule {s : RuleSet} (h : Joint s) (place : MatchedPlace) (rule : Rule) :
    Joint (s.change place.category fun m => RuleGroups.addRule m place.key rule .all) := by
  cases place with
  | path => exact h.addPathRule rule
  | parameter name => exact h.addQueryRule name rule

end RuleSet

theorem RequestDraft.kept_joint : Kept RuleSet.Joint where
  header h name rule := h.change (by decide) (by decide) (RuleGroups.setRule · name rule .all)
  body h key rule := h.change (by decide) (by decide) (RuleGroups.addRule · key rule .all)
  merge h a := h.change (by decide) (by decide) (RuleGroups.merge · a.rules)
  query h name rule := h.addQueryRule name rule
  path h rule := h.addPathRule rule

namespace MatchedPlace

variable {place : MatchedPlace} {s : RuleSet} {value : String}

/-- Each rule under the key of the place has to accept a value. -/
theorem accepts_iff (h : s.Joint) :
    place.Accepts s value ↔ ∀ group, Keyed.get? (s.category place.category) place.key = some group →
      ∀ rule ∈ group.rules, rule.check place.items (.text value) (.text value) = .ok [] := by
  have hall : ∀ group, Keyed.get? (s.category place.category) place.key = some group →
      group.logic = .all := by
    intro group hg
    cases place with
    | path => exact h.path _ (Keyed.mem_of_get? hg)
    | parameter name => exact h.query _ (Keyed.mem_of_get? hg)
  have hcounts : place.Accepts s value ↔
      ∀ group, Keyed.get? (s.category place.category) place.key = some group →
        group.check place.items (.text value) (.text value) = .ok [] := by
    cases place with
    | path =>
      refine (RuleSet.compare_text_of_ne_body (by decide) (RuleSet.applies_path _) value).trans ?_
      show _ ↔ ∀ group, Keyed.get? (s.category "path") "" = some group → _
      cases hm : s.category "path" with
      | nil =>
        simp only [List.find?_nil, Keyed.get?, reduceCtorEq, false_implies, implies_true]
      | cons e rest =>
        have hkey : e.1 = "" := h.path_key e (hm ▸ List.mem_cons_self)
        rw [List.find?_cons, Keyed.get?, if_pos hkey]
        simp only [Option.some.injEq, forall_eq']
    | parameter name =>
      refine (RuleSet.compare_text_of_ne_body (by decide) (RuleSet.applies_query name) value).trans ?_
      show _ ↔ ∀ group, Keyed.get? (s.category "query") name = some group → _
      rw [Keyed.find?_key]
      cases Keyed.get? (s.category "query") name with
      | none => simp only [Option.map_none, reduceCtorEq, false_implies, implies_true]
      | some group =>
        simp only [Option.map_some, Option.some.injEq, forall_eq']
        exact Iff.rfl
  rw [hcounts]
  refine forall_congr' fun group => forall_congr' fun hg => ?_
  obtain ⟨rules, logic⟩ := group
  cases hall _ hg
  exact RuleGroup.check_all_iff

/-- A pattern that is added is one more condition on the values of its place. -/
theorem accepts_addRule (h : s.Joint) (pattern : String) (shown : Option String) :
    place.Accepts (s.change place.category fun m =>
        RuleGroups.addRule m place.key (.regex pattern shown) .all) value ↔
      place.Accepts s value ∧ Regex.fullMatch pattern value.toList = .ok true := by
  rw [accepts_iff (h.addRule place _), accepts_iff h, RuleSet.category_change, if_pos rfl, RuleGroups.addRule,
    RuleGroups.get?_addGroup, if_pos rfl]
  simp only [Option.some.injEq, forall_eq']
  cases Keyed.get? (s.category place.category) place.key with
  | none =>
    rw [RuleGroups.joined, List.forall_mem_singleton]
    simp only [reduceCtorEq, false_implies, implies_true, true_and]
    exact Comparison.regex_text_iff
  | some group =>
    rw [RuleGroups.joined, List.forall_mem_append, List.forall_mem_singleton]
    simp only [Option.some.injEq, forall_eq']
    exact and_congr_right fun _ => Comparison.regex_text_iff

theorem accepts_addRule_of_ne {other : MatchedPlace} (hne : place ≠ other) (h : s.Joint)
    (rule : Rule) :
    other.Accepts (s.change place.category fun m => RuleGroups.addRule m place.key rule .all) value ↔
      other.Accepts s value := by
  have hget : Keyed.get? ((s.change place.category fun m =>
      RuleGroups.addRule m place.key rule .all).category other.category) other.key =
        Keyed.get? (s.category other.category) other.key := by
    rw [RuleSet.category_change]
    split
    · rename_i hc
      rw [RuleGroups.addRule, RuleGroups.get?_addGroup, hc, if_neg]
      intro hk
      cases place <;> cases other <;> simp_all [category, key]
    · rfl
  rw [accepts_iff (h.addRule place rule), accepts_iff h, hget]

end MatchedPlace

/-! ## One match after the other -/

structure RequestMatch where
  place : MatchedPlace
  pattern : String
  shown : Option String

def RequestMatch.run (m : RequestMatch) : Editing RequestDraft Unit :=
  match m.place with
  | .path => (PathEdit.matchPath m.pattern m.shown).run
  | .parameter name => (RequestEdit.matchQuery name m.pattern m.shown).run

structure MatchExample where
  place : MatchedPlace
  pattern : String
  value : String

def MatchExample.Fits (e : MatchExample) (value : String) : Prop :=
  Regex.fullMatch e.pattern value.toList = .ok true

def RequestMatch.examples (d : RequestDraft) (m : RequestMatch) : List MatchExample :=
  match (perform (PartDraft.exampleFor m.pattern m.shown) d.part).1 with
  | .ok s => [⟨m.place, m.pattern, s⟩]
  | .error _ => []

namespace RequestDraft

structure Follows (d : RequestDraft) (made : List MatchExample) (d' : RequestDraft) : Prop where
  joint : RuleSet.Joint d'.part.rules
  values : ∀ place : MatchedPlace, place.values d'.build =
    match (made.filter (·.place = place)).getLast? with
    | some e => [e.value]
    | none => place.values d.build
  accepts : ∀ (place : MatchedPlace) (value : String), place.Accepts d'.build.rules value ↔
    place.Accepts d.build.rules value ∧ ∀ e ∈ made.filter (·.place = place), e.Fits value

theorem follows_nil {d : RequestDraft} (h : RuleSet.Joint d.part.rules) : d.Follows [] d where
  joint := h
  values _ := rfl
  accepts _ _ := (and_iff_left fun _ h => absurd h List.not_mem_nil).symm

def withExample (d : RequestDraft) (e : MatchExample) : RequestDraft :=
  match e.place with
  | .path => { d.addRule "path" "" (.regex e.pattern (some e.value)) with path := e.value }
  | .parameter name =>
    (d.addRule "query" name (.regex e.pattern (some e.value))).setParameter name e.value

theorem rules_withExample (d : RequestDraft) (e : MatchExample) :
    (d.withExample e).part.rules = RuleSet.change d.part.rules e.place.category fun m =>
      RuleGroups.addRule m e.place.key (.regex e.pattern (some e.value)) .all := by
  obtain ⟨place, pattern, value⟩ := e
  cases place <;> rfl

theorem values_withExample (d : RequestDraft) (e : MatchExample) (place : MatchedPlace) :
    place.values (d.withExample e).build =
      if e.place = place then [e.value] else place.values d.build := by
  obtain ⟨own, pattern, value⟩ := e
  cases own with
  | path =>
    cases place with
    | path => rfl
    | parameter name => rfl
  | parameter name =>
    cases place with
    | path => rfl
    | parameter other =>
      show (Keyed.get? (Keyed.put d.query name [value]) other).getD [] = _
      rw [Keyed.get?_put]
      by_cases h : name = other
      · rw [if_pos h, if_pos (congrArg _ h)]
        rfl
      · rw [if_neg h, if_neg fun hp => h (MatchedPlace.parameter.inj hp)]
        rfl

theorem Follows.withExample {d d' : RequestDraft} {made : List MatchExample}
    (h : d.Follows made d') (e : MatchExample) : d.Follows (made ++ [e]) (d'.withExample e) := by
  have hrules := rules_withExample d' e
  constructor
  · rw [hrules]
    exact h.joint.addRule e.place _
  · intro place
    rw [values_withExample, List.filter_append, List.filter_cons, List.filter_nil]
    by_cases hp : e.place = place
    · rw [if_pos hp, decide_eq_true hp, if_pos rfl, List.getLast?_concat]
    · rw [if_neg hp, decide_eq_false hp, if_neg nofun, List.append_nil]
      exact h.values place
  · intro place value
    show place.Accepts (d'.withExample e).part.rules value ↔ _
    rw [hrules, List.filter_append, List.filter_cons, List.filter_nil]
    by_cases hp : e.place = place
    · rw [decide_eq_true hp, if_pos rfl, List.forall_mem_append, List.forall_mem_singleton,
        ← and_assoc, ← h.accepts, ← hp]
      exact MatchedPlace.accepts_addRule h.joint e.pattern (some e.value)
    · rw [decide_eq_false hp, if_neg nofun, List.append_nil, ← h.accepts]
      exact MatchedPlace.accepts_addRule_of_ne hp h.joint _

def afterExample (d : RequestDraft) (pattern : String) (shown : Option String) : RequestDraft :=
  { d with part := (perform (PartDraft.exampleFor pattern shown) d.part).2 }

theorem Follows.afterExample {d d' : RequestDraft} {made : List MatchExample}
    (h : d.Follows made d') (pattern : String) (shown : Option String) :
    d.Follows made (d'.afterExample pattern shown) := by
  have hrules : (d'.afterExample pattern shown).part.rules = d'.part.rules := by
    cases shown <;> rfl
  refine ⟨hrules ▸ h.joint, fun place => ?_, fun place value => ?_⟩
  · rw [← h.values place]
    cases place <;> rfl
  · rw [← h.accepts place value]
    show place.Accepts (d'.afterExample pattern shown).part.rules value ↔ _
    rw [hrules]
    rfl

theorem perform_match (m : RequestMatch) (d : RequestDraft) :
    (perform m.run d).2 = match (perform (PartDraft.exampleFor m.pattern m.shown) d.part).1 with
      | .ok s => (d.afterExample m.pattern m.shown).withExample ⟨m.place, m.pattern, s⟩
      | .error _ => d.afterExample m.pattern m.shown := by
  obtain ⟨place, pattern, shown⟩ := m
  cases place with
  | path =>
    show (perform (onPart (PartDraft.exampleFor pattern shown) >>= fun s =>
      modify fun d => { d.addRule "path" "" (.regex pattern (some s)) with path := s }) d).2 = _
    rw [perform_bind, onPart, perform_within]
    cases (perform (PartDraft.exampleFor pattern shown) d.part).1 <;> rfl
  | parameter name =>
    show (perform (onPart (PartDraft.exampleFor pattern shown) >>= fun s =>
      modify fun d => (d.addRule "query" name (.regex pattern (some s))).setParameter name s) d).2 = _
    rw [perform_bind, onPart, perform_within]
    cases (perform (PartDraft.exampleFor pattern shown) d.part).1 <;> rfl

/-- A match that succeeds adds its example, and one that fails changes no values and no rules. -/
theorem Follows.after_match {d d' : RequestDraft} {made : List MatchExample} (h : d.Follows made d')
    (m : RequestMatch) : d.Follows (made ++ m.examples d') (perform m.run d').2 := by
  have hmade := h.afterExample m.pattern m.shown
  rw [perform_match, RequestMatch.examples]
  cases (perform (PartDraft.exampleFor m.pattern m.shown) d'.part).1 with
  | ok s => exact hmade.withExample _
  | error e => exact (List.append_nil made).symm ▸ hmade

def afterMatches (d : RequestDraft) (steps : List RequestMatch) : RequestDraft :=
  after RequestMatch.run d steps

def examples (d : RequestDraft) (steps : List RequestMatch) : List MatchExample :=
  noted RequestMatch.run RequestMatch.examples d steps

theorem follows_afterMatches {d : RequestDraft} (h : RuleSet.Joint d.part.rules)
    (steps : List RequestMatch) : d.Follows (d.examples steps) (d.afterMatches steps) :=
  after_relates (R := d.Follows) (fun _ _ m _ hr => hr.after_match m) (follows_nil h)

/-- Whatever a request was before, fresh or like an earlier one: a place that is not matched keeps its
values, and they satisfy its rules as before. A place that is matched takes the last example, and
this satisfies the rules if and only if it satisfies those that were there before and all patterns
of the other matches. -/
theorem accepts_own_values_iff {d : RequestDraft} (h : d.Reachable) (steps : List RequestMatch)
    (hfits : ∀ e ∈ d.examples steps, e.Fits e.value) (place : MatchedPlace) :
    let made := (d.examples steps).filter (·.place = place)
    let request := (d.afterMatches steps).build
    (made = [] → place.values request = place.values d.build
      ∧ ∀ value, place.Accepts request.rules value ↔ place.Accepts d.build.rules value)
    ∧ ∀ earlier last, made = earlier ++ [last] → place.values request = [last.value]
      ∧ (place.Accepts request.rules last.value ↔
        place.Accepts d.build.rules last.value ∧ ∀ e ∈ earlier, e.Fits last.value) := by
  intro made request
  have hf : d.Follows (d.examples steps) (d.afterMatches steps) :=
    follows_afterMatches (h.rules kept_joint RuleSet.joint_nil) steps
  have hvalues : place.values request = match made.getLast? with
      | some e => [e.value]
      | none => place.values d.build := hf.values place
  have haccepts : ∀ value, place.Accepts request.rules value ↔
      place.Accepts d.build.rules value ∧ ∀ e ∈ made, e.Fits value := hf.accepts place
  constructor
  · intro hnone
    rw [hnone] at hvalues haccepts
    exact ⟨hvalues, fun value => (haccepts value).trans
      (and_iff_left fun _ h => absurd h List.not_mem_nil)⟩
  · intro earlier last hlast
    have hown : last.Fits last.value := by
      have hmem : last ∈ made := hlast ▸ List.mem_append_right earlier List.mem_cons_self
      exact hfits last (List.mem_filter.mp hmem).1
    rw [hlast, List.getLast?_concat] at hvalues
    refine ⟨hvalues, (haccepts last.value).trans ?_⟩
    rw [hlast, List.forall_mem_append, List.forall_mem_singleton]
    exact and_congr_right fun _ => and_iff_left hown

/-- A request that begins like one whose parameter has been matched, and whose path is matched. -/
theorem accepts_own_path_inherited :
    let earlier := (ofConfig .standard).afterMatches [⟨.parameter "page", "[0-9]+", some "2"⟩]
    let d := ofRequest .standard earlier.build
    let steps : List RequestMatch := [⟨.path, "/orders/[0-9]+", some "/orders/1"⟩]
    d.Reachable ∧ d.examples steps = [⟨.path, "/orders/[0-9]+", "/orders/1"⟩]
    ∧ MatchedPlace.path.values (d.afterMatches steps).build = ["/orders/1"]
    ∧ MatchedPlace.path.Accepts (d.afterMatches steps).build.rules "/orders/1"
    ∧ (MatchedPlace.parameter "page").values (d.afterMatches steps).build = ["2"] := by
  intro earlier d steps
  have hd : d.Reachable :=
    .copy .standard (.edit (.matchQuery "page" "[0-9]+" (some "2")) (.fresh .standard))
  have hmade : d.examples steps = [⟨.path, "/orders/[0-9]+", "/orders/1"⟩] := rfl
  have hfits : ∀ e ∈ d.examples steps, e.Fits e.value := by
    rw [hmade, List.forall_mem_singleton]
    exact eq_ok_of_toOption (by decide +kernel)
  obtain ⟨-, hpath⟩ := accepts_own_values_iff hd steps hfits .path
  obtain ⟨hpage, -⟩ := accepts_own_values_iff hd steps hfits (.parameter "page")
  obtain ⟨hvalues, haccepts⟩ := hpath [] ⟨.path, "/orders/[0-9]+", "/orders/1"⟩ rfl
  exact ⟨hd, hmade, hvalues, haccepts.mpr ⟨rfl, fun _ h => absurd h List.not_mem_nil⟩, (hpage rfl).1⟩

/-- A path that is matched twice, each time with an example that fits: the second has a mismatch by
the first pattern. -/
theorem second_path_refused :
    let steps : List RequestMatch :=
      [⟨.path, "/orders/[0-9]+", some "/orders/1"⟩, ⟨.path, "/users/[a-z]+", some "/users/ann"⟩]
    let request := ((ofConfig .standard).afterMatches steps).build
    (∀ e ∈ (ofConfig .standard).examples steps, e.Fits e.value)
    ∧ request.path = "/users/ann" ∧ ¬MatchedPlace.path.Accepts request.rules request.path := by
  intro steps request
  have hmade : (ofConfig .standard).examples steps =
      [⟨.path, "/orders/[0-9]+", "/orders/1"⟩, ⟨.path, "/users/[a-z]+", "/users/ann"⟩] := rfl
  have hfound : (RuleSet.compare request.rules "path" ["$"] (.text request.path)
      (.text request.path)).toOption.map List.length = some 1 := by decide +kernel
  refine ⟨?_, rfl, fun h => ?_⟩
  · rw [hmade]
    refine List.forall_mem_cons.mpr ⟨?_, List.forall_mem_singleton.mpr ?_⟩
    · exact eq_ok_of_toOption (by decide +kernel)
    · exact eq_ok_of_toOption (by decide +kernel)
  · rw [show RuleSet.compare request.rules "path" ["$"] (.text request.path) (.text request.path) =
      .ok [] from h] at hfound
    cases hfound

end RequestDraft

end HttpContract
