import HttpContract.Proofs.Matching.Highest
import HttpContract.Proofs.Path.Agreement

/-!
When the choice of a group for a path is made at all. Outside of bodies it always is. In a body whose
keys are read as path expressions one thing prevents it: a key with an index at a place where the
path has digits that are read as no number.
-/
namespace HttpContract.RuleSet

open HttpContract.Path

variable {s : RuleSet} {category key : String} {tokens : List PathToken} {path : List String}

/-! ## One key -/

/-- The key leads to the path, or it does not, or it stumbles. -/
theorem applies_body_cases (hkey : parse key = .ok tokens) (path : List String) :
    (tokens ≠ [] ∧ Leads tokens path ∧ applies "body" path key = .ok true)
    ∨ (¬(tokens ≠ [] ∧ Leads tokens path) ∧ ¬Stumbles tokens path
      ∧ applies "body" path key = .ok false)
    ∨ (Stumbles tokens path ∧ applies "body" path key = .error .unusableValue) := by
  have happlies : applies "body" path key = (matchLength tokens path).map fun n => decide (0 < n) := by
    rw [applies, if_pos rfl, hkey]
    rfl
  rw [happlies]
  obtain ⟨hne, hl, hm⟩ | ⟨hl, hs, hm⟩ | ⟨hs, hm⟩ := matchLength_cases tokens path
  · refine .inl ⟨hne, hl, ?_⟩
    rw [hm]
    exact congrArg Except.ok (decide_eq_true (List.length_pos_iff.mpr hne))
  · exact .inr (.inl ⟨hl, hs, by rw [hm]; rfl⟩)
  · exact .inr (.inr ⟨hs, by rw [hm]; rfl⟩)

theorem leads_of_applies (hkey : parse key = .ok tokens)
    (h : applies "body" path key = .ok true) : tokens ≠ [] ∧ Leads tokens path := by
  obtain ⟨hne, hl, -⟩ | ⟨-, -, ha⟩ | ⟨-, ha⟩ := applies_body_cases hkey path
  · exact ⟨hne, hl⟩
  · cases h.symm.trans ha
  · cases h.symm.trans ha

theorem applies_body_iff (hkey : parse key = .ok tokens) :
    applies "body" path key = .ok true ↔ tokens ≠ [] ∧ Leads tokens path := by
  refine ⟨leads_of_applies hkey, fun hl => ?_⟩
  obtain ⟨-, -, ha⟩ | ⟨hn, -, -⟩ | ⟨hs, -⟩ := applies_body_cases hkey path
  · exact ha
  · exact absurd hl hn
  · exact absurd hl.2 hs.not_leads

theorem rank_of_leads (hkey : parse key = .ok tokens) (hne : tokens ≠ [])
    (h : Leads tokens path) :
    rank path key = .ok (2 ^ tokens.countP PathToken.isLiteral, key.length) := by
  rw [rank, hkey]
  show (do return (← totalWeight tokens path, key.length)) = _
  rw [h.totalWeight_eq hne]
  rfl

theorem exists_applies_of_ne (hcategory : category ≠ "body") (path : List String) (key : String) :
    ∃ b, applies category path key = .ok b := by
  rw [applies, if_neg hcategory]
  split
  · exact ⟨_, rfl⟩
  · exact ⟨_, rfl⟩

/-! ## A category -/

/-- A key of the body stumbles over the path. -/
def Trips (s : RuleSet) (category : String) (path : List String) : Prop :=
  category = "body" ∧ ∃ e ∈ s.category "body", ∃ tokens, parse e.1 = .ok tokens ∧ Stumbles tokens path

theorem exists_applicable_iff (hkeys : ∀ e ∈ s.category "body", ∃ tokens, parse e.1 = .ok tokens)
    (category : String) (path : List String) :
    (∃ groups, s.applicable category path = .ok groups) ↔ ¬s.Trips category path := by
  rw [applicable, exists_filterM_ok_iff]
  by_cases hcategory : category = "body"
  · subst hcategory
    constructor
    · rintro h ⟨-, e, he, tokens, hkey, hs⟩
      obtain ⟨b, hb⟩ := h e he
      obtain ⟨-, hl, -⟩ | ⟨-, hn, -⟩ | ⟨-, ha⟩ := applies_body_cases hkey path
      · exact hs.not_leads hl
      · exact hn hs
      · cases hb.symm.trans ha
    · intro h e he
      obtain ⟨tokens, hkey⟩ := hkeys e he
      obtain ⟨-, -, ha⟩ | ⟨-, -, ha⟩ | ⟨hs, -⟩ := applies_body_cases hkey path
      · exact ⟨true, ha⟩
      · exact ⟨false, ha⟩
      · exact absurd ⟨rfl, e, he, tokens, hkey, hs⟩ h
  · exact iff_of_true (fun e _ => exists_applies_of_ne hcategory path e.1)
      fun h => hcategory h.1

/-- The groups that apply in a body are those under the keys that lead to the path. -/
theorem mem_applicable_iff (hkeys : ∀ e ∈ s.category "body", ∃ tokens, parse e.1 = .ok tokens)
    {groups : RuleGroups} (h : s.applicable "body" path = .ok groups) (e : String × RuleGroup) :
    e ∈ groups ↔ e ∈ s.category "body"
      ∧ ∃ tokens, parse e.1 = .ok tokens ∧ tokens ≠ [] ∧ Leads tokens path := by
  obtain ⟨p, hp, rfl⟩ := exists_of_filterM_ok h
  rw [List.mem_filter]
  refine and_congr_right fun he => ?_
  constructor
  · intro htrue
    obtain ⟨tokens, hkey⟩ := hkeys e he
    have happ := hp e he
    rw [htrue] at happ
    exact ⟨tokens, hkey, (applies_body_iff hkey).mp happ⟩
  · rintro ⟨tokens, hkey, hl⟩
    have happ : applies "body" path e.1 = .ok true := (applies_body_iff hkey).mpr hl
    exact Except.ok.inj ((hp e he).symm.trans happ)

/-- Every group that applies in a body has a rank. -/
theorem exists_rank (hkeys : ∀ e ∈ s.category "body", ∃ tokens, parse e.1 = .ok tokens)
    {groups : RuleGroups} (h : s.applicable "body" path = .ok groups) :
    ∃ rankOf : String × RuleGroup → Nat × Nat, ∀ e ∈ groups, rank path e.1 = .ok (rankOf e) := by
  refine ⟨fun e => (rank path e.1).toOption.getD (0, 0), fun e he => ?_⟩
  obtain ⟨-, tokens, hkey, hne, hl⟩ := (mem_applicable_iff hkeys h e).mp he
  simp only [rank_of_leads hkey hne hl]
  rfl

theorem exists_best_iff (hkeys : ∀ e ∈ s.category "body", ∃ tokens, parse e.1 = .ok tokens)
    (category : String) (path : List String) :
    (∃ group, s.best category path = .ok group) ↔ ¬s.Trips category path := by
  rw [← exists_applicable_iff hkeys]
  constructor
  · rintro ⟨group, h⟩
    obtain ⟨groups, hg, -⟩ := exists_of_bind_ok h
    exact ⟨groups, hg⟩
  · rintro ⟨groups, hg⟩
    by_cases hcategory : category = "body"
    · subst hcategory
      obtain ⟨rankOf, hr⟩ := exists_rank hkeys hg
      exact ⟨_, best_of_applicable hg hr⟩
    · rw [best, hg]
      cases groups with
      | nil => exact ⟨none, rfl⟩
      | cons first rest => exact ⟨some first.2, if_neg hcategory⟩

theorem exists_isDefined_iff (hkeys : ∀ e ∈ s.category "body", ∃ tokens, parse e.1 = .ok tokens)
    (category : String) (path : List String) :
    (∃ defined, s.isDefined category path = .ok defined) ↔ ¬s.Trips category path := by
  rw [← exists_applicable_iff hkeys]
  constructor
  · rintro ⟨defined, h⟩
    obtain ⟨groups, hg, -⟩ := exists_of_bind_ok h
    exact ⟨groups, hg⟩
  · rintro ⟨groups, hg⟩
    exact ⟨!groups.isEmpty, by rw [isDefined, hg]; rfl⟩

/-! ## What prevents a result -/

/-- An expression is read, or refused for a fault of its own, unless it has digits for an index that
are read as no number; and where all keys of the body are read, the choice of a group is made
unless a key stumbles over such digits in the path. -/
theorem read_and_choose_iff (expression : String)
    (hkeys : ∀ e ∈ s.category "body", ∃ tokens, parse e.1 = .ok tokens)
    (category : String) (path : List String) :
    (((∃ tokens, parse expression = .ok tokens)
        ∨ ∃ fault, parse expression = .error (.path fault expression)) ↔
      ¬∃ rest, expression.toList = '$' :: rest ∧ HasUnreadableIndex rest)
    ∧ ((∃ groups, s.applicable category path = .ok groups) ↔ ¬s.Trips category path)
    ∧ ((∃ defined, s.isDefined category path = .ok defined) ↔ ¬s.Trips category path)
    ∧ ((∃ group, s.best category path = .ok group) ↔ ¬s.Trips category path) := by
  refine ⟨?_, exists_applicable_iff hkeys category path, exists_isDefined_iff hkeys category path,
    exists_best_iff hkeys category path⟩
  rw [← parse_eq_unusableValue_iff]
  obtain ⟨tokens, h⟩ | ⟨fault, h⟩ | h := parse_cases expression
  · exact iff_of_true (.inl ⟨tokens, h⟩) (by rw [h]; nofun)
  · exact iff_of_true (.inr ⟨fault, h⟩) (by rw [h]; nofun)
  · refine iff_of_false ?_ (not_not_intro h)
    rintro (⟨tokens, ht⟩ | ⟨fault, hf⟩)
    · cases h.symm.trans ht
    · cases h.symm.trans hf

theorem unreadable_superscript : Unreadable ['²'] :=
  ⟨by decide, List.forall_mem_singleton.mpr (by decide +kernel),
    .inl ⟨'²', List.mem_singleton_self _, by decide +kernel⟩⟩

/-- A key for any index does not stumble over a digit that is no decimal one. -/
theorem read_and_choose_any_index :
    (∀ e ∈ RuleSet.category [("body", [("$[*]", ⟨[.type], .all⟩)])] "body",
      ∃ tokens, parse e.1 = .ok tokens)
    ∧ ((∃ tokens, parse "$[*]" = .ok tokens) ∨ ∃ fault, parse "$[*]" = .error (.path fault "$[*]"))
    ∧ ∃ group, best [("body", [("$[*]", ⟨[.type], .all⟩)])] "body" ["$", "²"] = .ok group := by
  have hkey : parse "$[*]" = .ok [.root, .starIndex] := eq_ok_of_toOption (by decide +kernel)
  have hkeys : ∀ e ∈ RuleSet.category [("body", [("$[*]", ⟨[.type], .all⟩)])] "body",
      ∃ tokens, parse e.1 = .ok tokens := by
    intro e he
    rw [List.mem_singleton.mp he]
    exact ⟨_, hkey⟩
  obtain ⟨hread, -, -, hbest⟩ := read_and_choose_iff "$[*]" hkeys "body" ["$", "²"]
  refine ⟨hkeys, hread.mpr ?_, hbest.mpr ?_⟩
  · rw [← parse_eq_unusableValue_iff, hkey]
    simp only [reduceCtorEq, not_false_eq_true]
  · rintro ⟨-, e, he, tokens, ht, hs⟩
    rw [List.mem_singleton.mp he] at ht
    cases hkey.symm.trans ht
    rcases hs with _ | ⟨-, _ | ⟨-, ⟨⟩⟩⟩

/-- A digit that is no decimal one is refused without a fault as an index, and where an index stands
no group is chosen. -/
theorem superscript_not_chosen :
    parse "$[²]" = .error .unusableValue
    ∧ parse "$[0]" = .ok [.root, .index 0]
    ∧ ¬∃ group, best [("body", [("$[0]", ⟨[.type], .all⟩)])] "body" ["$", "²"] = .ok group := by
  have hkey : parse "$[0]" = .ok [.root, .index 0] := eq_ok_of_toOption (by decide +kernel)
  refine ⟨parse_eq_unusableValue_iff.mpr ?_, hkey, ?_⟩
  · exact ⟨['[', '²', ']'], rfl, [], [], ['²'], [], rfl, .nil, unreadable_superscript⟩
  · rw [exists_best_iff, Classical.not_not]
    · exact ⟨rfl, _, List.mem_singleton.mpr rfl, _, hkey,
        .later rfl (.here unreadable_superscript (Nat.le_refl 0))⟩
    · intro e he
      rw [List.mem_singleton.mp he]
      exact ⟨_, hkey⟩

end HttpContract.RuleSet
