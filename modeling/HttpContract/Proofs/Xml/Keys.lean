import HttpContract.Xml.Draft

/-!
The keys under which an XML document notes rules and generators. A step of one element notes them
below the path of that element only, however deep it goes.
-/
namespace HttpContract

namespace Annotations

def HasKey (a : Annotations) (key : String) : Prop :=
  key ∈ Keyed.keys a.rules ∨ key ∈ Keyed.keys a.places

theorem hasKey_addRule {a : Annotations} {key other : String} {rule : Rule} :
    (a.addRule key rule).HasKey other ↔ a.HasKey other ∨ other = key := by
  unfold HasKey addRule RuleGroups.addRule RuleGroups.addGroup
  rw [Keyed.mem_keys_put, or_right_comm]

theorem hasKey_addGenerator {a : Annotations} {key other : String} {g : Generator} :
    (a.addGenerator key g).HasKey other ↔ a.HasKey other ∨ other = key := by
  unfold HasKey addGenerator
  rw [Keyed.mem_keys_put, or_assoc]

theorem hasKey_note {a : Annotations} {key other : String} {e : Example} :
    (a.note key e).HasKey other ↔
      a.HasKey other ∨ (e.rule.isSome ∨ e.generator.isSome) ∧ other = key := by
  obtain ⟨value, rule, generator⟩ := e
  cases rule <;> cases generator <;> simp [note, hasKey_addRule, hasKey_addGenerator]

end Annotations

namespace Xml

def IsMark (mark : String) : Prop :=
  mark = "*" ∨ ∃ index, Value.integerShown index = .ok mark.toList

theorem isMark_of_shown {index : Int} {mark : List Char} (h : Value.integerShown index = .ok mark) :
    IsMark (String.ofList mark) :=
  .inr ⟨index, h.trans (congrArg Except.ok String.toList_ofList.symm)⟩

/-- What stands behind the path of an element in the keys of its rules: the name of one of its
attributes, the mark of its text, or such a key of one of its children. -/
inductive KeyBelow : List String → Prop
  | text : KeyBelow ["#text"]
  | attribute (name : String) : KeyBelow ["@" ++ name]
  | child {tag mark : String} {rest : List String} (hm : IsMark mark) (hr : KeyBelow rest) :
      KeyBelow (tag :: mark :: rest)

/-- The keys of `b` are those of `a`, and others only below `path`. -/
def AddsBelow (path : List String) (a b : Annotations) : Prop :=
  ∀ key, b.HasKey key → a.HasKey key ∨ ∃ below, KeyBelow below ∧ key = ruleKey path below

namespace AddsBelow

variable {path : List String} {a b c : Annotations}

theorem refl (path : List String) (a : Annotations) : AddsBelow path a a := fun _ => .inl

theorem trans (hab : AddsBelow path a b) (hbc : AddsBelow path b c) : AddsBelow path a c :=
  fun key hc => (hbc key hc).elim (hab key) .inr

theorem note (path : List String) (a : Annotations) {below : List String} (h : KeyBelow below)
    (e : Example) : AddsBelow path a (a.note (ruleKey path below) e) := fun _ hk =>
  (Annotations.hasKey_note.mp hk).imp_right fun hn => ⟨below, h, hn.2⟩

theorem of_child {tag mark : String} (hm : IsMark mark)
    (h : AddsBelow (path ++ [tag, mark]) a b) : AddsBelow path a b := by
  intro key hk
  refine (h key hk).imp_right ?_
  rintro ⟨below, hb, rfl⟩
  refine ⟨tag :: mark :: below, .child hm hb, ?_⟩
  rw [ruleKey, ruleKey, List.append_assoc]
  rfl

end AddsBelow

namespace Progress

/-- An example adds keys where it is noted, whether its text can be put in place or not. -/
theorem annotations_fillIn (p : Progress) (key : String) (e : Example)
    (place : String → Element → Element) :
    (p.fillIn key e place).annotations = p.annotations.note key e := by
  unfold fillIn
  split <;> rfl

theorem path_fillIn (p : Progress) (key : String) (e : Example)
    (place : String → Element → Element) : (p.fillIn key e place).node.path = p.node.path := by
  unfold fillIn
  split <;> rfl

theorem path_attributesStep (p : Progress) (entries : List (String × Example)) :
    (p.attributesStep entries).node.path = p.node.path := by
  induction entries generalizing p with
  | nil => rfl
  | cons e rest ih =>
    rw [attributesStep]
    split
    · exact path_fillIn ..
    · exact (ih _).trans (path_fillIn ..)

theorem path_appendCopies (p : Progress) (e : Element) (n : Nat) :
    (p.appendCopies e n).node.path = p.node.path := by
  induction n generalizing p with
  | zero => rfl
  | succ n ih => exact ih _

theorem annotations_appendCopies (p : Progress) (e : Element) (n : Nat) :
    (p.appendCopies e n).annotations = p.annotations := by
  induction n generalizing p with
  | zero => rfl
  | succ n ih => exact ih _

theorem addsBelow_attributeStep (p : Progress) (name : String) (e : Example) :
    AddsBelow p.node.path p.annotations (p.attributeStep name e).annotations := by
  rw [attributeStep, annotations_fillIn]
  exact .note _ _ (.attribute name) e

theorem addsBelow_textStep (p : Progress) (e : Example) :
    AddsBelow p.node.path p.annotations (p.textStep e).annotations := by
  rw [textStep, annotations_fillIn]
  exact .note _ _ .text e

theorem addsBelow_attributesStep (p : Progress) (entries : List (String × Example)) :
    AddsBelow p.node.path p.annotations (p.attributesStep entries).annotations := by
  induction entries generalizing p with
  | nil => exact .refl _ _
  | cons e rest ih =>
    obtain ⟨name, e⟩ := e
    have hfirst := addsBelow_attributeStep p name e
    have hpath : (p.attributeStep name e).node.path = p.node.path := path_fillIn ..
    rw [attributesStep]
    split
    · exact hfirst
    · exact hfirst.trans (hpath ▸ ih _)

end Progress

/-- The number of the child is written, or it stays without one and nothing is put into it. -/
theorem Progress.numbered_cases (p : Progress) (tag : String) (fill : Progress → Progress) :
    (∃ mark, Value.integerShown ((Keyed.get? p.node.counts tag).getD 0) = .ok mark ∧
        p.numbered tag fill = p.adopt (fill (p.child tag (String.ofList mark))))
      ∨ ∃ fault, Value.integerShown ((Keyed.get? p.node.counts tag).getD 0) = .error fault ∧
        p.numbered tag fill = p.adopt { p.child tag "" with fault := some fault } := by
  cases h : Value.integerShown ((Keyed.get? p.node.counts tag).getD 0) with
  | ok mark => exact .inl ⟨mark, rfl, by simp only [numbered, h]⟩
  | error fault => exact .inr ⟨fault, rfl, by simp only [numbered, h]⟩

theorem Progress.path_numbered (p : Progress) (tag : String) (fill : Progress → Progress) :
    (p.numbered tag fill).node.path = p.node.path := by
  obtain ⟨_, _, is⟩ | ⟨_, _, is⟩ := p.numbered_cases tag fill <;> rw [is] <;> rfl

/-- What a child notes stands below its parent too. -/
theorem Progress.addsBelow_numbered (p : Progress) (tag : String) {fill : Progress → Progress}
    (hfill : ∀ q : Progress, AddsBelow q.node.path q.annotations (fill q).annotations) :
    AddsBelow p.node.path p.annotations (p.numbered tag fill).annotations := by
  obtain ⟨mark, hmark, is⟩ | ⟨_, _, is⟩ := p.numbered_cases tag fill
  · rw [is]
    exact .of_child (isMark_of_shown hmark) (hfill (p.child tag (String.ofList mark)))
  · rw [is]
    exact .refl _ _

theorem Step.path_run (p : Progress) : (step : Step) → (step.run p).node.path = p.node.path
  | .attribute _ _ => Progress.path_fillIn ..
  | .attributes entries => p.path_attributesStep entries
  | .text _ => Progress.path_fillIn ..
  | .element _ _ => by
    rw [Step.run]
    exact Progress.path_numbered ..
  | .eachLike _ _ _ => by
    rw [Step.run]
    split
    · rfl
    · exact Progress.path_appendCopies ..
  | .namespaceOf _ _ => rfl
  | .refused _ => rfl

mutual

/-- What a step notes stands below the element that it belongs to. -/
theorem Step.addsBelow_run (p : Progress) :
    (step : Step) → AddsBelow p.node.path p.annotations (step.run p).annotations
  | .attribute name e => p.addsBelow_attributeStep name e
  | .attributes entries => p.addsBelow_attributesStep entries
  | .text e => p.addsBelow_textStep e
  | .element tag content => by
    rw [Step.run]
    exact Progress.addsBelow_numbered (p.count tag 1) tag fun q => content.addsBelow_fill q
  | .eachLike tag count steps => by
    have hinner : AddsBelow p.node.path p.annotations
        (Step.runAll ((p.count tag count).child tag "*") steps).annotations :=
      .of_child (.inl rfl) (Step.addsBelow_runAll ((p.count tag count).child tag "*") steps)
    rw [Step.run]
    split
    · exact hinner
    · rw [Progress.annotations_appendCopies]
      exact hinner
  | .namespaceOf name uri => .refl _ _
  | .refused fault => .refl _ _

theorem Content.addsBelow_fill (p : Progress) :
    (content : Content) → AddsBelow p.node.path p.annotations (content.fill p).annotations
  | .nothing => .refl _ _
  | .example e => p.addsBelow_textStep e
  | .steps steps => Step.addsBelow_runAll p steps

theorem Step.addsBelow_runAll (p : Progress) :
    (steps : List Step) → AddsBelow p.node.path p.annotations (Step.runAll p steps).annotations
  | [] => .refl _ _
  | step :: rest => by
    have hfirst := step.addsBelow_run p
    rw [Step.runAll]
    split
    · exact hfirst
    · exact hfirst.trans (step.path_run p ▸ Step.addsBelow_runAll (step.run p) rest)

end

end Xml

end HttpContract
