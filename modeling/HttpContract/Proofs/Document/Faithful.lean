import HttpContract.Generator
import HttpContract.Proofs.Document.Sections
import HttpContract.Proofs.Rule.History

/-!
Matching rules and generators are told by what is written of them in a document. Each is read back
from its fields, a rule without its example; both stand in the document in sections by category.
-/
namespace HttpContract

/-! ## Rules -/

namespace Rule

def withoutExample : Rule → Rule
  | regex pattern _ => .regex pattern none
  | rule => rule

theorem fields_withoutExample (r : Rule) : r.withoutExample.fields = r.fields := by
  cases r <;> rfl

theorem nodup_keys_fields (r : Rule) : (Keyed.keys r.fields).Nodup := by
  cases r <;> simp [fields, Keyed.keys]

theorem plain_of_mem_fields (r : Rule) : ∀ e ∈ r.fields, Value.Plain e.2 := by
  cases r <;> simp [fields, Value.Plain.text, Value.Plain.int]

def kindOf? (name : String) (hasMin hasMax : Bool) : Option RuleKind :=
  match name, hasMin, hasMax with
  | "", _, _ => some .unspecified
  | "regex", _, _ => some .regex
  | "type", false, false => some .type
  | "type", true, false => some .minType
  | "type", false, true => some .maxType
  | "type", true, true => some .minMaxType
  | "include", _, _ => some .include
  | "null", _, _ => some .null
  | "equality", _, _ => some .equality
  | "ignore-order", false, false => some .ignoreOrder
  | "ignore-order", true, false => some .minIgnoreOrder
  | "ignore-order", false, true => some .maxIgnoreOrder
  | "ignore-order", true, true => some .minMaxIgnoreOrder
  | "contentType", _, _ => some .mediaType
  | "date", _, _ => some .date
  | "time", _, _ => some .time
  | "timestamp", _, _ => some .timestamp
  | _, _, _ => none

def ofFields? (field : String → Option Value) : Option Rule := do
  let .text name ← field "match" | none
  match NumberKind.ofName? name with
  | some kind => some (.number kind)
  | none =>
    let kind ← kindOf? name (field "min").isSome (field "max").isSome
    (kind.rule (["regex", "min", "max", "value", "format"].filterMap field)).toOption

/-- A rule is read back from its fields, but for its example. -/
theorem ofFields?_fields (r : Rule) :
    ofFields? (Keyed.get? r.fields) = some r.withoutExample := by
  cases r with
  | number kind => cases kind <;> rfl
  | _ => rfl

theorem same_document_iff (r s : Rule) :
    Value.same r.document s.document = true ↔ r.withoutExample = s.withoutExample := by
  refine Value.same_record_of_reader nodup_keys_fields plain_of_mem_fields ofFields?_fields ?_ r s
  intro r s h
  rw [← fields_withoutExample r, h, fields_withoutExample]

end Rule

namespace RuleGroup

def withoutExamples (g : RuleGroup) : RuleGroup :=
  { g with rules := g.rules.map Rule.withoutExample }

theorem isLeaf_document (g : RuleGroup) : Value.IsLeaf g.document :=
  ⟨_, "matchers", _, rfl, by simp [Keyed.keys], rfl, rfl⟩

theorem same_document_iff (g h : RuleGroup) :
    Value.same g.document h.document = true ↔ g.withoutExamples = h.withoutExamples := by
  have hlogic : g.logic.name = h.logic.name ↔ g.logic = h.logic := by
    cases g.logic <;> cases h.logic <;> decide
  have hrules : List.Forall₂ (fun v w => Value.same v w = true) (g.rules.map Rule.document)
      (h.rules.map Rule.document) ↔
        g.rules.map Rule.withoutExample = h.rules.map Rule.withoutExample := by
    rw [List.forall₂_map_left_iff, List.forall₂_map_right_iff, ← List.forall₂_eq_eq_eq,
      List.forall₂_map_left_iff, List.forall₂_map_right_iff]
    simp only [Rule.same_document_iff]
  rw [document, document, Value.same_record_iff_mem]
  simp [Keyed.get?, Value.same_list_iff, Value.same_text, hrules, hlogic, withoutExamples]

end RuleGroup

/-- The same keys, and under each of them the same logic and the same rules one after the other,
whatever their examples. -/
def RuleGroups.Alike (m n : RuleGroups) : Prop :=
  ∀ key, (Keyed.get? m key).map RuleGroup.withoutExamples =
    (Keyed.get? n key).map RuleGroup.withoutExamples

namespace RuleSet

theorem document_eq_ofSections (s : RuleSet) :
    s.document = Value.ofSections id RuleGroup.document s := by
  have hsection (m : RuleGroups) :
      RuleGroups.document m = Value.ofSection RuleGroup.document m := by
    rcases m with _ | ⟨⟨k, g⟩, _ | ⟨d, rest⟩⟩
    · rfl
    · by_cases hk : k = ""
      · subst hk
        rfl
      · simp [RuleGroups.document, Value.ofSection, Value.nested, Keyed.mapValues, hk]
    · simp [RuleGroups.document, Value.ofSection, Value.nested, Keyed.mapValues]
  rw [document, Value.ofSections]
  simp only [hsection, id]

/-- Edits keep the keys of a set apart. -/
theorem distinct_after {s : RuleSet} (h : Keyed.Distinct s) (edits : List RuleEdit) :
    Keyed.Distinct (s.after edits) := by
  have hgifts {m : RuleGroups} (hm : (Keyed.keys m).Nodup) (gifts : List Gift) :
      (Keyed.keys (gifts.foldl Gift.apply m)).Nodup := by
    induction gifts generalizing m with
    | nil => exact hm
    | cons g gifts ih =>
      refine ih ?_
      unfold Gift.apply
      split <;> exact Keyed.nodup_keys_put hm _ _
  induction edits generalizing s with
  | nil => exact h
  | cons e edits ih =>
    refine ih ?_
    rw [RuleEdit.apply_eq_change]
    exact h.put e.category (hgifts (h.sectionAt e.category) e.gifts)

end RuleSet

/-! ## Generators -/

namespace Generator

theorem nodup_keys_fields (g : Generator) : (Keyed.keys g.fields).Nodup := by
  cases g <;> simp [fields, Keyed.keys]

theorem plain_of_mem_fields (g : Generator) : ∀ e ∈ g.fields, Value.Plain e.2 := by
  cases g <;> simp [fields, Value.Plain.text, Value.Plain.int]

def kindOf? : String → Option GeneratorKind
  | "" => some .unspecified
  | "ProviderState" => some .providerState
  | "RandomString" => some .randomString
  | "RandomInt" => some .randomInt
  | "RandomDecimal" => some .randomDecimal
  | "RandomBoolean" => some .randomBoolean
  | "Regex" => some .regex
  | "Uuid" => some .uuid
  | _ => none

def ofFields? (field : String → Option Value) : Option Generator := do
  let .text name ← field "type" | none
  let kind ← kindOf? name
  (kind.generator (["expression", "dataType", "size", "min", "max", "digits", "regex"].filterMap
    field)).toOption

theorem ofFields?_fields (g : Generator) : ofFields? (Keyed.get? g.fields) = some g := by
  have hread : ofFields? (Keyed.get? g.fields) = (g.kind.generator g.parameters).toOption := by
    cases g <;> rfl
  rw [hread, GeneratorKind.generator_parameters]
  rfl

theorem same_document_iff (g h : Generator) :
    Value.same g.document h.document = true ↔ g = h :=
  Value.same_record_of_reader nodup_keys_fields plain_of_mem_fields ofFields?_fields
    (fun _ _ h => congrArg fields h) g h

theorem isLeaf_document (g : Generator) : Value.IsLeaf g.document := by
  obtain ⟨name, hname⟩ : ∃ name, Keyed.get? g.fields "type" = some (.text name) := by
    cases g <;> exact ⟨_, rfl⟩
  exact ⟨g.fields, "type", .text name, rfl, nodup_keys_fields g, hname, rfl⟩

end Generator

namespace GeneratorSet

theorem document_eq_ofSections (s : GeneratorSet) :
    s.document = Value.ofSections Place.name Generator.document s := by
  rw [document, Value.ofSections]
  congr 1
  induction s with
  | nil => rfl
  | cons e s ih =>
    rw [List.filterMap_cons, ih]
    obtain ⟨place, m⟩ := e
    rcases m with _ | ⟨⟨k, g⟩, _ | ⟨d, rest⟩⟩
    · rfl
    · by_cases hk : k = ""
      · subst hk
        rfl
      · simp [Value.ofSection, Value.nested, Keyed.mapValues, hk]
    · simp [Value.ofSection, Value.nested, Keyed.mapValues]

theorem distinct_add {s : GeneratorSet} (h : Keyed.Distinct s) (place : Place) (key : String)
    (g : Generator) : Keyed.Distinct (s.add place key g) :=
  h.put place (Keyed.nodup_keys_put (h.sectionAt place) key g)

/-- Sets without empty places are equal if they have the same generators under all keys. -/
theorem same_iff {s t : GeneratorSet} (hs : Keyed.Distinct s) (ht : Keyed.Distinct t)
    (hsn : ∀ e ∈ s, e.2 ≠ []) (htn : ∀ e ∈ t, e.2 ≠ []) :
    s.same t = true ↔
      ∀ place key, Keyed.get? (s.forPlace place) key = Keyed.get? (t.forPlace place) key := by
  have hfilter {s : GeneratorSet} (hsn : ∀ e ∈ s, e.2 ≠ []) :
      s.filter (fun e => !e.2.isEmpty) = s :=
    List.filter_eq_self.mpr fun e he => by simpa using hsn e he
  have hentries (m n : Keyed String Generator) (hm : (Keyed.keys m).Nodup)
      (hn : (Keyed.keys n).Nodup) : Keyed.sameEntries m n = true ↔
        ∀ key, (Keyed.get? m key).map id = (Keyed.get? n key).map id := by
    simp only [Option.map_id_fun, id]
    exact Keyed.sameEntries_iff hm hn
  have hrel := Keyed.forall_rel_sections_iff (R := fun m n => Keyed.sameEntries m n = true)
    hentries hs ht
  rw [hfilter hsn, hfilter htn, ← Keyed.forall_rel_get?_iff hs.1 ht.1] at hrel
  simp only [Option.map_id_fun, id] at hrel
  refine Iff.trans ?_ hrel
  rw [same, Bool.and_eq_true, beq_iff_eq, List.all_eq_true]
  refine and_congr_right fun _ => forall_congr' fun e => forall_congr' fun _ => ?_
  cases Keyed.get? t e.1 <;> simp

end GeneratorSet

/-! ## Documents -/

/-- Two sets of rules have equal documents exactly if their categories are alike, where one without
keys is as good as none. Two sets of generators have equal documents exactly if they have the same
generator under every key of every place; if no place is empty, they are then equal. -/
theorem documents_are_faithful :
    (∀ a b : RuleSet, Keyed.Distinct a → Keyed.Distinct b →
      (Value.same a.document b.document = true ↔
        ∀ name, RuleGroups.Alike (a.category name) (b.category name)))
    ∧ ∀ s t : GeneratorSet, Keyed.Distinct s → Keyed.Distinct t →
      (Value.same s.document t.document = true ↔
        ∀ place key, Keyed.get? (s.forPlace place) key = Keyed.get? (t.forPlace place) key)
      ∧ ((∀ e ∈ s, e.2 ≠ []) → (∀ e ∈ t, e.2 ≠ []) →
        (Value.same s.document t.document = true ↔ s.same t = true)) := by
  refine ⟨fun a b ha hb => ?_, fun s t hs ht => ?_⟩
  · rw [RuleSet.document_eq_ofSections, RuleSet.document_eq_ofSections]
    exact Value.same_ofSections_iff Function.injective_id RuleGroup.isLeaf_document
      RuleGroup.same_document_iff ha hb
  · have hplaces : Function.Injective Place.name := by
      intro p q
      cases p <;> cases q <;> decide
    have htold : Value.same s.document t.document = true ↔
        ∀ place key, Keyed.get? (s.forPlace place) key = Keyed.get? (t.forPlace place) key := by
      have hcore (g h : Generator) : Value.same g.document h.document = true ↔ id g = id h :=
        Generator.same_document_iff g h
      have hsections := Value.same_ofSections_iff hplaces Generator.isLeaf_document hcore hs ht
      simp only [Option.map_id_fun, id] at hsections
      rwa [GeneratorSet.document_eq_ofSections, GeneratorSet.document_eq_ofSections]
    exact ⟨htold, fun hsn htn => htold.trans (GeneratorSet.same_iff hs ht hsn htn).symm⟩

/-- The order of edits, an empty category and the example of a pattern are no difference. A
generator of a whole body is told from one under the key that its first field is called by. -/
theorem documents_are_faithful_reordered :
    let a := RuleSet.after [] [.addRule "path" "" (.regex "a+" (some "aa")) .all,
      .addCategory "header", .addRule "body" "$.a" .type .any]
    let b := RuleSet.after [] [.addRule "body" "$.a" .type .any,
      .addRule "path" "" (.regex "a+" none) .all]
    let s := GeneratorSet.add [] .body "" .uuid
    let t := GeneratorSet.add [] .body "type" .uuid
    (∀ name, RuleGroups.Alike (a.category name) (b.category name))
    ∧ Value.same s.document t.document = false := by
  intro a b s t
  have hempty : Keyed.Distinct ([] : RuleSet) := by decide
  have ha : Keyed.Distinct a := RuleSet.distinct_after hempty _
  have hb : Keyed.Distinct b := RuleSet.distinct_after hempty _
  have hnone : Keyed.Distinct ([] : GeneratorSet) := by decide
  have hs : Keyed.Distinct s := GeneratorSet.distinct_add hnone _ _ _
  have ht : Keyed.Distinct t := GeneratorSet.distinct_add hnone _ _ _
  constructor
  · have hsame : Value.same a.document b.document = true := by decide
    exact (documents_are_faithful.1 a b ha hb).mp hsame
  · rw [Bool.eq_false_iff, Ne, (documents_are_faithful.2 s t hs ht).1]
    intro h
    have hbody := h .body ""
    revert hbody
    decide

end HttpContract
