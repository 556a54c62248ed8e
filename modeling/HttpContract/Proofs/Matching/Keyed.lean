import HttpContract.Matching.Selection
import HttpContract.Proofs.Success

/-!
Values outside of bodies: the first group whose key is that of the value counts, and a value that is
compared with itself satisfies a group if it matches all of its patterns.
-/
namespace HttpContract

namespace Comparison

theorem equality_text (path : List String) (s : String) :
    equality path (.text s) (.text s) = .ok [] := by
  have hsame : agrees (.text s) (.text s) = .ok true := by
    show Except.ok (decide (s = s)) = .ok true
    rw [decide_eq_true rfl]
  unfold equality
  rw [hsame]
  rfl

theorem regex_text (pattern : String) (path : List String) (expected : Value) (s : String) :
    regex pattern path expected (.text s) = (do
      if ← Regex.fullMatch pattern s.toList then return []
      mismatch path expected (.text s)
        ("Expected " ++ ("'" ++ s ++ "'") ++ " to match '" ++ pattern ++ "'")) := by
  have hcontainers : areContainers expected (.text s) = false := by
    cases expected <;> rfl
  show (do
    let matched ← Regex.fullMatch pattern s.toList
    if matched || areContainers expected (.text s) then return []
    mismatch path expected (.text s)
      ("Expected " ++ ("'" ++ s ++ "'") ++ " to match '" ++ pattern ++ "'") : Outcome) = _
  simp only [hcontainers, Bool.or_false]

theorem regex_text_iff {pattern : String} {path : List String} {expected : Value} {s : String} :
    regex pattern path expected (.text s) = .ok [] ↔
      Regex.fullMatch pattern s.toList = .ok true := by
  rw [regex_text]
  cases Regex.fullMatch pattern s.toList with
  | error e => exact iff_of_false nofun nofun
  | ok matched =>
    cases matched with
    | true => exact iff_of_true rfl rfl
    | false => exact iff_of_false nofun nofun

/-- The comparison fails only if the pattern cannot be used. -/
theorem exists_regex_text_iff {pattern : String} {path : List String} {expected : Value} {s : String} :
    (∃ found, regex pattern path expected (.text s) = .ok found) ↔
      ∃ b, Regex.fullMatch pattern s.toList = .ok b := by
  rw [regex_text]
  cases Regex.fullMatch pattern s.toList with
  | error e => exact iff_of_false (fun ⟨_, h⟩ => nomatch h) fun ⟨_, h⟩ => nomatch h
  | ok matched =>
    refine iff_of_true ?_ ⟨matched, rfl⟩
    cases matched with
    | true => exact ⟨_, rfl⟩
    | false => exact ⟨_, rfl⟩

end Comparison

/-- No rule of a group finds a mismatch if the group that asks for all of them finds none. -/
theorem RuleGroup.check_all_iff {rules : List Rule} {path : List String} {expected actual : Value} :
    check ⟨rules, .all⟩ path expected actual = .ok [] ↔
      ∀ rule ∈ rules, rule.check path expected actual = .ok [] := by
  have hcheck : check ⟨rules, .all⟩ path expected actual =
      (rules.mapM fun rule : Rule => rule.check path expected actual).map List.flatten := rfl
  rw [hcheck]
  clear hcheck
  induction rules with
  | nil => exact iff_of_true rfl fun _ h => absurd h List.not_mem_nil
  | cons rule rules ih =>
    rw [List.forall_mem_cons, List.mapM_cons]
    refine Iff.trans ?_ (and_congr_right fun _ => ih)
    cases rule.check path expected actual with
    | error e => exact iff_of_false nofun fun h => nomatch h.1
    | ok found =>
      cases rules.mapM fun rule : Rule => rule.check path expected actual with
      | error e => exact iff_of_false nofun fun h => nomatch h.2
      | ok others =>
        show Except.ok (found ++ others.flatten) = .ok [] ↔
          Except.ok found = .ok [] ∧ Except.ok others.flatten = .ok []
        simp only [Except.ok.injEq, List.append_eq_nil_iff]

/-- One rule without mismatches is enough for a group that asks for any of them, but all of them have
to be usable. -/
theorem RuleGroup.check_any_iff {rules : List Rule} (hne : rules ≠ []) {path : List String}
    {expected actual : Value} :
    check ⟨rules, .any⟩ path expected actual = .ok [] ↔
      (∀ rule ∈ rules, ∃ found, rule.check path expected actual = .ok found) ∧
        ∃ rule ∈ rules, rule.check path expected actual = .ok [] := by
  by_cases husable : ∀ rule ∈ rules, ∃ found, rule.check path expected actual = .ok found
  · rw [and_iff_right husable]
    obtain ⟨f, hf⟩ : ∃ f : Rule → List Mismatch,
        ∀ rule ∈ rules, rule.check path expected actual = .ok (f rule) := by
      refine ⟨fun rule => (rule.check path expected actual).toOption.getD [], fun rule hrule => ?_⟩
      obtain ⟨found, h⟩ := husable rule hrule
      show _ = Except.ok ((rule.check path expected actual).toOption.getD [])
      rw [h]
      rfl
    have hsettled : (∃ rule ∈ rules, rule.check path expected actual = .ok []) ↔
        (rules.map f).any List.isEmpty = true := by
      simp only [List.any_map, List.any_eq_true, Function.comp_apply, List.isEmpty_iff]
      refine exists_congr fun rule => and_congr_right fun hrule => ?_
      rw [hf rule hrule, Except.ok.injEq]
    rw [check, mapM_ok hf, hsettled]
    show (if (rules.map f).any List.isEmpty then Except.ok [] else .ok (rules.map f).flatten) = _ ↔ _
    by_cases hany : (rules.map f).any List.isEmpty
    · exact iff_of_true (if_pos hany) hany
    · refine iff_of_false (fun h => hany ?_) hany
      rw [if_neg hany, Except.ok.injEq, List.flatten_eq_nil_iff] at h
      obtain ⟨rule, hrule⟩ := List.exists_mem_of_ne_nil rules hne
      have hmem : f rule ∈ rules.map f := List.mem_map_of_mem hrule
      exact List.any_eq_true.mpr ⟨f rule, hmem, List.isEmpty_iff.mpr (h _ hmem)⟩
  · refine iff_of_false (fun h => husable ?_) fun h => husable h.1
    obtain ⟨results, hresults, -⟩ := exists_of_bind_ok h
    exact exists_mapM_ok_iff.mp ⟨results, hresults⟩

namespace RuleSet

variable {s : RuleSet} {category : String} {path : List String} {p : String → Bool}

/-- Outside of bodies the first group that applies counts. -/
theorem best_of_ne_body (hcategory : category ≠ "body")
    (happlies : ∀ key, applies category path key = .ok (p key)) :
    s.best category path = .ok (((s.category category).find? fun e => p e.1).map Prod.snd) := by
  have hgroups : s.applicable category path = .ok ((s.category category).filter fun e => p e.1) :=
    filterM_ok fun e _ => happlies e.1
  rw [best, hgroups, ← List.head?_filter]
  cases (s.category category).filter fun e => p e.1 with
  | nil => rfl
  | cons first rest => exact if_neg hcategory

/-- A text has no mismatch with itself where the first group that applies finds none. -/
theorem compare_text_of_ne_body (hcategory : category ≠ "body")
    (happlies : ∀ key, applies category path key = .ok (p key)) (v : String) :
    s.compare category path (.text v) (.text v) = .ok [] ↔
      ∀ e, (s.category category).find? (fun e => p e.1) = some e →
        e.2.check path (.text v) (.text v) = .ok [] := by
  rw [compare, best_of_ne_body hcategory happlies]
  cases (s.category category).find? fun e => p e.1 with
  | none => exact iff_of_true (Comparison.equality_text path v) nofun
  | some e =>
    constructor
    · rintro h _ ⟨⟩
      exact h
    · intro h
      exact h e rfl

theorem applies_header (name key : String) :
    applies "header" [name] key = .ok (Text.sameLetters key name) := by
  rw [applies, if_neg (by decide), if_pos (by decide)]
  exact congrArg Except.ok (Bool.and_true _)

theorem applies_query (name key : String) : applies "query" [name] key = .ok (key = name) := by
  rw [applies, if_neg (by decide), if_pos (by decide)]
  exact congrArg Except.ok (Bool.and_true _)

theorem applies_path (path : List String) (key : String) : applies "path" path key = .ok true := by
  rw [applies, if_neg (by decide), if_neg (by decide)]

end RuleSet

end HttpContract
