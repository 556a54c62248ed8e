import HttpContract.Rule.Edit

/-!
A set of rules told from the edits that have made it. Each edit gives rules for keys of one
category. What stands under a key comes from what was given for it since it was last set; what was
given for other keys, or in other categories, does not matter.
-/
namespace HttpContract

structure Gift where
  key : String
  group : RuleGroup
  replaces : Bool
  deriving DecidableEq

namespace Gift

def apply (m : RuleGroups) (g : Gift) : RuleGroups :=
  if g.replaces then RuleGroups.setGroup m g.key g.group
  else RuleGroups.addGroup m g.key g.group

/-- What a history of gifts leaves under their key: all rules from the last replacing gift on, or
from the first gift if none replaces, with the logic of the gift that they begin with. -/
def Leaves (history : List Gift) : Option RuleGroup → Prop
  | none => history = []
  | some group => ∃ before first rest, history = before ++ first :: rest
      ∧ (first.replaces = true ∨ before = []) ∧ (∀ later ∈ rest, later.replaces = false)
      ∧ group.rules = (first :: rest).flatMap (fun g => g.group.rules)
      ∧ group.logic = first.group.logic

end Gift

namespace RuleEdit

def category : RuleEdit → String
  | addCategory category | mergeCategory category _ | addRule category _ _ _
  | addRules category _ _ | setRule category _ _ _ | setGroup category _ _ => category

def gifts : RuleEdit → List Gift
  | addCategory _ => []
  | mergeCategory _ groups => groups.map fun e => ⟨e.1, e.2, false⟩
  | addRule _ key rule logic => [⟨key, ⟨[rule], logic⟩, false⟩]
  | addRules _ key rules => rules.map fun rule => ⟨key, ⟨[rule], .all⟩, false⟩
  | setRule _ key rule logic => [⟨key, ⟨[rule], logic⟩, true⟩]
  | setGroup _ key group => [⟨key, group, true⟩]

/-- An edit is the change of its category by all that it gives. -/
theorem apply_eq_change (s : RuleSet) (e : RuleEdit) :
    RuleEdit.apply s e = s.change e.category fun m => e.gifts.foldl Gift.apply m := by
  have hfold {α : Type} (m : RuleGroups) (l : List α) (f : α → Gift) :
      (l.map f).foldl Gift.apply m = l.foldl (fun m a => Gift.apply m (f a)) m := List.foldl_map
  cases e with
  | mergeCategory category groups =>
    simp only [apply, RuleSet.mergeCategory, gifts, hfold]
    rfl
  | addRules category key rules =>
    simp only [apply, gifts, hfold]
    rfl
  | _ => rfl

def giftsTo (category : String) (edits : List RuleEdit) : List Gift :=
  (edits.filter fun e => e.category = category).flatMap gifts

def giftsFor (category key : String) (edits : List RuleEdit) : List Gift :=
  (giftsTo category edits).filter fun g => g.key = key

theorem giftsTo_append (category : String) (past edits : List RuleEdit) :
    giftsTo category (past ++ edits) = giftsTo category past ++ giftsTo category edits := by
  rw [giftsTo, List.filter_append, List.flatMap_append]
  rfl

theorem giftsTo_cons (category : String) (e : RuleEdit) (edits : List RuleEdit) :
    giftsTo category (e :: edits) =
      (if e.category = category then e.gifts else []) ++ giftsTo category edits := by
  unfold giftsTo
  by_cases h : e.category = category <;> simp [h]

end RuleEdit

namespace Gift

/-! ## One category -/

theorem get?_apply (m : RuleGroups) (g : Gift) (key : String) :
    Keyed.get? (apply m g) key =
      if g.key = key then
        some (if g.replaces then g.group else RuleGroups.joined (Keyed.get? m key) g.group)
      else Keyed.get? m key := by
  unfold apply
  by_cases hk : g.key = key
  · subst hk
    cases g.replaces <;> simp [RuleGroups.setGroup, RuleGroups.addGroup, Keyed.get?_put]
  · cases g.replaces <;> simp [RuleGroups.setGroup, RuleGroups.addGroup, Keyed.get?_put, hk]

theorem keys_apply (m : RuleGroups) (g : Gift) :
    Keyed.keys (apply m g) =
      if g.key ∈ Keyed.keys m then Keyed.keys m else Keyed.keys m ++ [g.key] := by
  unfold apply
  split <;> exact Keyed.keys_put _ _ _

/-- One more gift is the whole history if it replaces, and joins what is left otherwise. -/
theorem Leaves.concat {history : List Gift} {there : Option RuleGroup} (h : Leaves history there)
    (g : Gift) :
    Leaves (history ++ [g])
      (some (if g.replaces then g.group else RuleGroups.joined there g.group)) := by
  by_cases hg : g.replaces = true
  · rw [if_pos hg]
    exact ⟨history, g, [], rfl, .inl hg, by simp, by simp, rfl⟩
  rw [if_neg hg]
  cases there with
  | none =>
    rw [show history = [] from h]
    exact ⟨[], g, [], rfl, .inr rfl, by simp, by simp [RuleGroups.joined], rfl⟩
  | some group =>
    obtain ⟨before, first, rest, rfl, hf, hr, hrules, hlogic⟩ := h
    refine ⟨before, first, rest ++ [g], by simp, hf, ?_, ?_, hlogic⟩
    · intro d hd
      rcases List.mem_append.mp hd with hd | hd
      · exact hr d hd
      · rw [List.mem_singleton.mp hd]
        exact Bool.eq_false_iff.mpr hg
    · simp [RuleGroups.joined, hrules]

/-- A history tells all about what it leaves. -/
theorem Leaves.unique {history : List Gift} {a b : Option RuleGroup} (ha : Leaves history a)
    (hb : Leaves history b) : a = b := by
  -- Where one of two beginnings came earlier, the other one would not replace, and be no beginning.
  have same {before before' : List Gift} {first first' : Gift} {rest rest' as : List Gift}
      (hr : ∀ later ∈ rest, later.replaces = false) (hf : first'.replaces = true ∨ before' = [])
      (hbefore : before' = before ++ as) (hrest : first :: rest = as ++ first' :: rest') :
      first = first' ∧ rest = rest' := by
    cases as with
    | nil => simpa using hrest
    | cons d as =>
      injection hrest with _ hrest
      have hm : first' ∈ rest := by simp [hrest]
      rcases hf with hf | hf
      · rw [hr first' hm] at hf
        cases hf
      · simp [hf] at hbefore
  cases a with
  | none =>
    cases b with
    | none => rfl
    | some h =>
      obtain ⟨before, first, rest, he, -⟩ := hb
      simp [show history = [] from ha] at he
  | some g =>
    obtain ⟨before, first, rest, rfl, hf, hr, hrules, hlogic⟩ := ha
    cases b with
    | none => simp [Leaves] at hb
    | some h =>
      obtain ⟨before', first', rest', he, hf', hr', hrules', hlogic'⟩ := hb
      have hsame : first = first' ∧ rest = rest' := by
        obtain ⟨as, hbefore, hrest⟩ | ⟨as, hbefore, hrest⟩ := List.append_eq_append_iff.mp he
        · exact same hr hf' hbefore hrest
        · exact (same hr' hf hbefore hrest).imp Eq.symm Eq.symm
      obtain ⟨rfl, rfl⟩ := hsame
      obtain ⟨rules, logic⟩ := g
      obtain ⟨rules', logic'⟩ := h
      simp_all

/-- After several gifts a key has what those for it leave. -/
theorem Leaves.foldl {past : List Gift} {m : RuleGroups} {key : String}
    (h : Leaves past (Keyed.get? m key)) (gifts : List Gift) :
    Leaves (past ++ gifts.filter fun g => g.key = key)
      (Keyed.get? (gifts.foldl apply m) key) := by
  induction gifts generalizing past m with
  | nil => simpa using h
  | cons g gifts ih =>
    rw [List.foldl_cons]
    by_cases hk : g.key = key
    · have hg : Leaves (past ++ [g]) (Keyed.get? (apply m g) key) := by
        rw [get?_apply, if_pos hk]
        exact h.concat g
      simpa [hk] using ih hg
    · have hg : Leaves past (Keyed.get? (apply m g) key) := by
        rw [get?_apply, if_neg hk]
        exact h
      simpa [hk] using ih hg

/-- A key that is there already is no new one. -/
theorem eraseDups_concat (past : List String) (key : String) :
    (past ++ [key]).eraseDups =
      if key ∈ past.eraseDups then past.eraseDups else past.eraseDups ++ [key] := by
  by_cases h : key ∈ past <;>
    simp [List.eraseDups_append, List.cons_removeAll, List.eraseDups_cons, h]

theorem keys_foldl {past : List String} {m : RuleGroups} (h : Keyed.keys m = past.eraseDups)
    (gifts : List Gift) :
    Keyed.keys (gifts.foldl apply m) = (past ++ gifts.map key).eraseDups := by
  induction gifts generalizing past m with
  | nil => simpa using h
  | cons g gifts ih =>
    have hg : Keyed.keys (apply m g) = (past ++ [g.key]).eraseDups := by
      rw [keys_apply, eraseDups_concat, h]
    simpa using ih hg

end Gift

namespace RuleSet

open RuleEdit

/-! ## Runs of edits -/

/-- A category after some edits is what all that was given for it makes of it. -/
theorem category_after (s : RuleSet) (edits : List RuleEdit) (name : String) :
    category (s.after edits) name = (giftsTo name edits).foldl Gift.apply (category s name) := by
  induction edits generalizing s with
  | nil => rfl
  | cons e edits ih =>
    rw [giftsTo_cons, List.foldl_append]
    refine (ih (RuleEdit.apply s e)).trans ?_
    rw [apply_eq_change, category_change]
    by_cases h : e.category = name
    · rw [if_pos h, if_pos h, h]
    · rw [if_neg h, if_neg h]
      rfl

theorem keys_after {past : List String} {s : RuleSet} (h : Keyed.keys s = past.eraseDups)
    (edits : List RuleEdit) :
    Keyed.keys (s.after edits) = (past ++ edits.map RuleEdit.category).eraseDups := by
  induction edits generalizing past s with
  | nil => rwa [List.map_nil, List.append_nil]
  | cons e edits ih =>
    have he : Keyed.keys (RuleEdit.apply s e) = (past ++ [e.category]).eraseDups := by
      rw [apply_eq_change, change, Keyed.keys_put, Gift.eraseDups_concat, h]
    rw [List.map_cons, List.append_cons]
    exact ih he

end RuleSet

/-! ## Merging -/

namespace RuleGroups

theorem keys_merge (m : RuleGroups) {other : RuleGroups} (h : (Keyed.keys other).Nodup) :
    Keyed.keys (merge m other) =
      Keyed.keys m ++ (Keyed.keys other).filter fun key => key ∉ Keyed.keys m := by
  induction other generalizing m with
  | nil => exact (List.append_nil _).symm
  | cons e rest ih =>
    obtain ⟨hk, hrest⟩ := List.nodup_cons.mp h
    have hadd : Keyed.keys (addGroup m e.1 e.2) = _ := Keyed.keys_put m e.1 _
    have hmerge : merge m (e :: rest) = merge (addGroup m e.1 e.2) rest := rfl
    have hkeys : Keyed.keys (e :: rest) = e.1 :: Keyed.keys rest := rfl
    rw [hmerge, ih _ hrest, hkeys]
    by_cases hm : e.1 ∈ Keyed.keys m
    · rw [hadd, if_pos hm, List.filter_cons_of_neg (by simpa using hm)]
    · have hnew : (Keyed.keys rest).filter (fun key => key ∉ Keyed.keys m ++ [e.1]) =
          (Keyed.keys rest).filter fun key => key ∉ Keyed.keys m := by
        refine List.filter_congr fun key hr => ?_
        have hne : key ≠ e.1 := fun he => hk (he ▸ hr)
        simp [hne]
      rw [hadd, if_neg hm, hnew, List.filter_cons_of_pos (by simpa using hm), List.append_assoc,
        List.singleton_append]

theorem nodup_keys_merge {m : RuleGroups} (h : (Keyed.keys m).Nodup) (other : RuleGroups) :
    (Keyed.keys (merge m other)).Nodup := by
  induction other generalizing m with
  | nil => exact h
  | cons e rest ih => exact ih (Keyed.nodup_keys_put h e.1 _)

theorem merge_empty_left {m : RuleGroups} (h : (Keyed.keys m).Nodup) : merge [] m = m := by
  have hnil : (Keyed.keys ([] : RuleGroups)).Nodup := List.nodup_nil
  refine Keyed.eq_of_get? (nodup_keys_merge hnil m) ?_ fun key => ?_
  · rw [keys_merge [] h]
    simp [Keyed.keys]
  · rw [get?_merge [] h]
    cases Keyed.get? m key <;> rfl

/-- Three categories are merged from either side. -/
theorem merge_assoc {m n o : RuleGroups} (hm : (Keyed.keys m).Nodup) (hn : (Keyed.keys n).Nodup)
    (ho : (Keyed.keys o).Nodup) : merge (merge m n) o = merge m (merge n o) := by
  have hno := nodup_keys_merge hn o
  refine Keyed.eq_of_get? (nodup_keys_merge (nodup_keys_merge hm n) o) ?_ fun key => ?_
  · rw [keys_merge _ ho, keys_merge m hn, keys_merge m hno, keys_merge n ho, List.filter_append,
      List.filter_filter, List.append_assoc]
    congr 2
    refine List.filter_congr fun key _ => ?_
    by_cases hkm : key ∈ Keyed.keys m <;> simp [hkm]
  · rw [get?_merge _ ho, get?_merge m hn, get?_merge m hno, get?_merge n ho]
    cases Keyed.get? o key with
    | none => rfl
    | some g =>
      cases Keyed.get? n key with
      | none => rfl
      | some f =>
        cases Keyed.get? m key with
        | none => rfl
        | some e => simp [joined]

end RuleGroups

namespace RuleSet

open RuleEdit

/-- In a set that edits have made from nothing, the group under a key of a category is what the
gifts for it leave. Keys stand in the order in which they were first given, and so do the
categories. What gives nothing for a key leaves it as it is. Categories are merged from either side,
and the empty one changes nothing. -/
theorem after_from_history :
    (∀ edits : List RuleEdit,
      (∀ name key, Gift.Leaves (giftsFor name key edits)
        (Keyed.get? (category (after [] edits) name) key))
      ∧ (∀ name, Keyed.keys (category (after [] edits) name) =
        ((giftsTo name edits).map Gift.key).eraseDups)
      ∧ Keyed.keys (after [] edits) = (edits.map RuleEdit.category).eraseDups
      ∧ ∀ e name key, giftsFor name key [e] = [] →
        Keyed.get? (category (after [] (edits ++ [e])) name) key =
          Keyed.get? (category (after [] edits) name) key)
    ∧ ∀ m n o : RuleGroups, (Keyed.keys m).Nodup → (Keyed.keys n).Nodup → (Keyed.keys o).Nodup →
      RuleGroups.merge (RuleGroups.merge m n) o = RuleGroups.merge m (RuleGroups.merge n o)
      ∧ RuleGroups.merge m [] = m ∧ RuleGroups.merge [] m = m := by
  have hleaves (edits : List RuleEdit) (name key : String) :
      Gift.Leaves (giftsFor name key edits) (Keyed.get? (category (after [] edits) name) key) := by
    have hnone : Gift.Leaves [] (Keyed.get? (category [] name) key) := rfl
    rw [category_after]
    exact hnone.foldl (giftsTo name edits)
  have hnames : Keyed.keys ([] : RuleSet) = [].eraseDups := rfl
  have hkeys : Keyed.keys ([] : RuleGroups) = [].eraseDups := rfl
  refine ⟨fun edits => ⟨hleaves edits, fun name => ?_, keys_after hnames edits, ?_⟩,
    fun m n o hm hn ho => ⟨RuleGroups.merge_assoc hm hn ho, rfl, RuleGroups.merge_empty_left hm⟩⟩
  · rw [category_after]
    exact Gift.keys_foldl hkeys (giftsTo name edits)
  · intro e name key he
    have hsame : giftsFor name key (edits ++ [e]) = giftsFor name key edits := by
      rw [giftsFor, giftsTo_append, List.filter_append, ← giftsFor, ← giftsFor, he,
        List.append_nil]
    refine Gift.Leaves.unique (hleaves (edits ++ [e]) name key) ?_
    rw [hsame]
    exact hleaves edits name key

/-- What is merged joins, what is set replaces, and both keep the place of the key. -/
theorem after_from_history_body :
    let edits : List RuleEdit :=
      [.addRule "body" "$.a" .type .any, .addRule "header" "$.a" .null .all,
        .mergeCategory "body" [("$.b", ⟨[.null], .all⟩), ("$.a", ⟨[.equality], .all⟩)],
        .setRule "body" "$.b" (.minType 1) .any, .addRules "body" "$.b" [.type]]
    let m : RuleGroups := [("$.a", ⟨[.type], .any⟩)]
    let n : RuleGroups := [("$.b", ⟨[.null], .all⟩), ("$.a", ⟨[.equality], .all⟩)]
    let o : RuleGroups := [("$.c", ⟨[.type], .all⟩), ("$.b", ⟨[.type], .any⟩)]
    Keyed.keys (category (after [] edits) "body") = ["$.a", "$.b"]
    ∧ Keyed.get? (category (after [] edits) "body") "$.b" = some ⟨[.minType 1, .type], .any⟩
    ∧ (Keyed.keys m).Nodup ∧ (Keyed.keys n).Nodup ∧ (Keyed.keys o).Nodup
    ∧ RuleGroups.merge (RuleGroups.merge m n) o = RuleGroups.merge m (RuleGroups.merge n o) := by
  intro edits m n o
  have hm : (Keyed.keys m).Nodup := by decide
  have hn : (Keyed.keys n).Nodup := by decide
  have ho : (Keyed.keys o).Nodup := by decide
  obtain ⟨hleaves, hkeys, -, -⟩ := after_from_history.1 edits
  have hset : Gift.Leaves (giftsFor "body" "$.b" edits) (some ⟨[.minType 1, .type], .any⟩) :=
    ⟨[⟨"$.b", ⟨[.null], .all⟩, false⟩], ⟨"$.b", ⟨[.minType 1], .any⟩, true⟩,
      [⟨"$.b", ⟨[.type], .all⟩, false⟩], by decide, .inl rfl, by decide, by decide, rfl⟩
  exact ⟨(hkeys "body").trans (by decide), (hleaves "body" "$.b").unique hset, hm, hn, ho,
    (after_from_history.2 m n o hm hn ho).1⟩

end RuleSet

end HttpContract
