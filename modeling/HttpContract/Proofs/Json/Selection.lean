import HttpContract.Proofs.Json.Keys
import HttpContract.Proofs.Json.Tidy
import HttpContract.Proofs.Matching.Highest
import Mathlib.Data.List.Nodup

/-!
Which rules count for a value of a tidy document: those that were noted at its own place. Rules of
the lists and objects around it apply too, but rank lower, and no others apply.
-/
namespace HttpContract.Json

open HttpContract.Path RuleSet

namespace Level

def weight : Level → Nat
  | field _ | item _ => 2
  | template => 1

theorem weight_pos (l : Level) : 0 < l.weight := by
  cases l <;> simp [weight]

end Level

theorem isDigit_of_toString (n : Nat) :
    ((toString n).toList.isEmpty || !(toString n).toList.all Text.isDigit) = false := by
  have hne : (toString n).toList.isEmpty = false := by
    rw [Number.toList_toString]
    simpa using Number.digitsOf_ne_nil n
  have hd : (toString n).toList.all Text.isDigit = true := by
    rw [Number.toList_toString]
    exact List.all_eq_true.mpr fun c hc =>
      Number.isDigit_of_isAsciiDigit (Number.isAsciiDigit_of_mem_digitsOf hc)
  rw [hne, hd]
  rfl

theorem weight_index {i : Nat} (h : i < 10 ^ Number.digitLimit) (n : Nat) :
    Path.weight (toString i) (.index n) = .ok (if i = n then 2 else 0) := by
  rw [Path.weight, isDigit_of_toString, Number.toList_toString, Number.readInteger_digitsOf,
    if_pos h]
  simp only [Bool.false_eq_true, if_false, Int.natCast_inj]

theorem weight_of_covers {l : Level} {element : String} (h : Covers l element)
    (hw : l.Writable) : Path.weight element l.token = .ok l.weight := by
  cases h with
  | field name => rw [Level.token, Path.weight, if_pos rfl, Level.weight]
  | item n => rw [Level.token, weight_index hw, if_pos rfl, Level.weight]
  | template n =>
    rw [Level.token, Path.weight, isDigit_of_toString]
    rfl

/-- Beside a level there are only levels that agree with nothing that it covers. -/
theorem weight_of_beside {nodes : List Node} {e x y : Entry} {l other : Level} {element : String}
    (hx : e.enter? nodes l = some x) (hy : e.enter? nodes other = some y) (h : Covers l element)
    (hw : l.Writable) (hne : other ≠ l) : Path.weight element other.token = .ok 0 := by
  cases e with
  | value v => cases l <;> cases hx
  | node n =>
    cases h with
    | field name =>
      cases other with
      | field name' =>
        have : element ≠ name' := fun he => hne (he ▸ rfl)
        rw [Level.token, Path.weight, if_neg this]
      | item i =>
        obtain ⟨m, fields, hm, hc, -⟩ := Entry.enter?_field.mp hx
        obtain ⟨m', items, hm', hc', -⟩ := Entry.enter?_item.mp hy
        cases hm.symm.trans hm'
        cases hc.symm.trans hc'
      | template => cases hy
    | item i =>
      cases other with
      | field name =>
        obtain ⟨m, fields, hm, hc, -⟩ := Entry.enter?_field.mp hy
        obtain ⟨m', items, hm', hc', -⟩ := Entry.enter?_item.mp hx
        cases hm.symm.trans hm'
        cases hc.symm.trans hc'
      | item j =>
        have : i ≠ j := fun he => hne (he ▸ rfl)
        rw [Level.token, weight_index hw, if_neg this]
      | template => cases hy
    | template i => cases hx
  | copies k n =>
    cases l with
    | template =>
      cases other with
      | template => exact absurd rfl hne
      | _ => cases hy
    | _ => cases hx

theorem agree_cons {token : PathToken} {element : String} {w : Nat}
    (h : Path.weight element token = .ok w) (tokens : List PathToken) (path : List String) :
    agree (token :: tokens) (element :: path) = if w = 0 then .ok false else agree tokens path := by
  rw [agree, h]
  rfl

/-- The tokens of a place in the document agree with a position exactly if the place leads to the
one that the position goes along. -/
theorem agree_along {nodes : List Node} {e y : Entry} {place other : List Level}
    {position : List String} (hp : Along nodes e place position)
    (hy : e.walk? nodes other = some y) (hw : ∀ l ∈ place, l.Writable)
    (hlen : other.length ≤ position.length) :
    agree (other.map Level.token) position = .ok (decide (other <+: place)) := by
  induction hp generalizing other with
  | here e =>
    rw [List.length_eq_zero_iff.mp (Nat.le_zero.mp hlen)]
    rfl
  | within v position =>
    -- No place leads into a value.
    cases other with
    | nil => rfl
    | cons l other => cases l <;> cases hy
  | @enter e e' l element place position he hl hp ih =>
    cases other with
    | nil => simp [agree]
    | cons l' other =>
      obtain ⟨y', hey, hy'⟩ := Option.bind_eq_some_iff.mp hy
      rw [List.forall_mem_cons] at hw
      by_cases hl' : l' = l
      · subst hl'
        cases he.symm.trans hey
        have hpre : (l' :: other <+: l' :: place) ↔ other <+: place := by
          rw [List.cons_prefix_cons, and_iff_right rfl]
        rw [List.map_cons, agree_cons (weight_of_covers hl hw.1),
          if_neg (Nat.pos_iff_ne_zero.mp l'.weight_pos),
          ih hy' hw.2 (Nat.le_of_succ_le_succ hlen)]
        simp only [hpre]
      · have hpre : ¬(l' :: other <+: l :: place) := fun h =>
          hl' (List.cons_prefix_cons.mp h).1
        rw [List.map_cons, agree_cons (weight_of_beside he hey hl hw.1 hl'), if_pos rfl,
          decide_eq_false hpre]

/-- A rule applies at a position of a document exactly if it was noted on the way there. -/
theorem applies_of_walk {nodes : List Node} {e y : Entry} {place other : List Level}
    {position : List String} (hp : Along nodes e place position)
    (hy : e.walk? nodes other = some y) (hw : ∀ l ∈ place, l.Writable)
    (ho : ∀ l ∈ other, l.Writable) :
    applies "body" ("$" :: position) (keyOf other) = .ok (decide (other <+: place)) := by
  have hparse := (parse_keyOf_iff other).mpr ho
  rw [applies, if_pos rfl, hparse]
  show (do
    let n ← matchLength (.root :: other.map Level.token) ("$" :: position)
    return decide (0 < n) : Result Bool) = _
  by_cases hlen : other.length ≤ position.length
  · have hagree : agree (.root :: other.map Level.token) ("$" :: position) =
        .ok (decide (other <+: place)) := agree_along hp hy hw hlen
    have hlong : ¬(position.length + 1 < other.length + 1) := by omega
    rw [matchLength_eq, hagree]
    by_cases hpre : other <+: place
    · simp [hpre, hlong]
      rfl
    · simp [hpre, hlong]
      rfl
  · have hpre : ¬other <+: place := fun h => hlen (Nat.le_trans h.length_le hp.length_le)
    have hlong : position.length < other.length := by omega
    simp [matchLength_eq, hlong, hpre]

theorem weights_along {nodes : List Node} {e : Entry} {place other : List Level}
    {position : List String} (hp : Along nodes e place position) (hpre : other <+: place)
    (hw : ∀ l ∈ place, l.Writable) :
    weights (other.map Level.token) position = .ok (other.map Level.weight) := by
  induction hp generalizing other with
  | here | within =>
    rw [List.prefix_nil.mp hpre]
    rfl
  | enter he hl hp ih =>
    cases other with
    | nil => rfl
    | cons l' other =>
      rw [List.forall_mem_cons] at hw
      obtain ⟨rfl, hrest⟩ := List.cons_prefix_cons.mp hpre
      rw [List.map_cons, weights, weight_of_covers hl hw.1, ih hrest hw.2]
      rfl

def rankOf (place : List Level) : Nat × Nat :=
  ((2 :: place.map Level.weight).foldl (· * ·) 1, (keyOf place).length)

theorem rank_along {nodes : List Node} {e : Entry} {place other : List Level}
    {position : List String} (hp : Along nodes e place position) (hpre : other <+: place)
    (hw : ∀ l ∈ place, l.Writable) :
    rank ("$" :: position) (keyOf other) = .ok (rankOf other) := by
  have ho : ∀ l ∈ other, l.Writable := fun l hl => hw l (hpre.subset hl)
  have hweights : weights (.root :: other.map Level.token) ("$" :: position) =
      .ok (2 :: other.map Level.weight) := by
    rw [weights, weights_along hp hpre hw]
    rfl
  rw [rank, (parse_keyOf_iff other).mpr ho]
  show (do
    let w ← totalWeight (.root :: other.map Level.token) ("$" :: position)
    return (w, (keyOf other).length) : Result (Nat × Nat)) = _
  rw [totalWeight, hweights]
  rfl

theorem le_foldl_mul (l : List Level) (n : Nat) :
    n ≤ (l.map Level.weight).foldl (· * ·) n := by
  induction l generalizing n with
  | nil => exact Nat.le_refl n
  | cons a l ih =>
    calc
      n ≤ n * a.weight := Nat.le_mul_of_pos_right n a.weight_pos
      _ ≤ (l.map Level.weight).foldl (· * ·) (n * a.weight) := ih _

theorem written_ne_nil (l : Level) : l.written.toList ≠ [] := by
  cases l with
  | field name =>
    rw [Level.toList_written_field]
    split <;> simp
  | item n => simp [Level.toList_written_item]
  | template => decide

/-- A place ranks above all that lead to it. -/
theorem isAbove_rankOf {place other : List Level} (hpre : other <+: place) (hne : other ≠ place) :
    isAbove (rankOf place) (rankOf other) = true := by
  obtain ⟨rest, rfl⟩ := hpre
  have hrest : rest ≠ [] := fun h => hne (by rw [h, List.append_nil])
  obtain ⟨l, rest, rfl⟩ := List.exists_cons_of_ne_nil hrest
  have hweight : (rankOf other).1 ≤ (rankOf (other ++ l :: rest)).1 := by
    simp only [rankOf, List.map_append, List.foldl_cons, List.foldl_append]
    exact le_foldl_mul (l :: rest) _
  have hlength : (rankOf other).2 < (rankOf (other ++ l :: rest)).2 := by
    have hl : 0 < l.written.toList.length := List.length_pos_iff.mpr (written_ne_nil l)
    simp only [rankOf, ← String.length_toList, toList_keyOf, List.flatMap_append,
      List.flatMap_cons, List.length_cons, List.length_append]
    omega
  simp only [isAbove, Bool.or_eq_true, Bool.and_eq_true, decide_eq_true_eq]
  omega

/-! ## The rules of a tidy document -/

theorem Level.token_injective {l l' : Level} (h : l.token = l'.token) : l = l' := by
  cases l <;> cases l' <;> cases h <;> rfl

theorem keyOf_injective {place other : List Level} (hp : ∀ l ∈ place, l.Writable)
    (ho : ∀ l ∈ other, l.Writable) (h : keyOf place = keyOf other) : place = other := by
  have hparse := (parse_keyOf_iff place).mpr hp
  rw [h, (parse_keyOf_iff other).mpr ho] at hparse
  injection hparse with hparse
  injection hparse with _ htokens
  exact ((List.map_inj_right fun _ _ => Level.token_injective).mp htokens).symm

def Mark.group? (m : Mark) : Option (String × RuleGroup) :=
  m.rule.map fun rule => (keyOf m.place, ⟨[rule], .all⟩)

/-- Marks with keys of their own leave one group each. -/
theorem rules_of_marks {marks : List Mark} {a : Annotations}
    (h : (Keyed.keys a.rules ++ marks.map fun m => keyOf m.place).Nodup) :
    (marks.foldl mark a).rules = a.rules ++ marks.filterMap Mark.group? := by
  induction marks generalizing a with
  | nil => exact (List.append_nil _).symm
  | cons m marks ih =>
    rw [List.map_cons] at h
    cases hr : m.rule with
    | none =>
      have hm : (mark a m).rules = a.rules := by rw [rules_mark, hr]
      have hg : m.group? = none := by rw [Mark.group?, hr, Option.map_none]
      have hnodup : (Keyed.keys (mark a m).rules ++ marks.map fun m => keyOf m.place).Nodup := by
        rw [hm]
        exact h.sublist (List.Sublist.append_left (List.sublist_cons_self _ _) _)
      rw [List.foldl_cons, ih hnodup, hm, List.filterMap_cons_none hg]
    | some rule =>
      have hnew : keyOf m.place ∉ Keyed.keys a.rules := fun hk =>
        (List.nodup_append.mp h).2.2 _ hk _ List.mem_cons_self rfl
      have hm : (mark a m).rules = a.rules ++ [(keyOf m.place, ⟨[rule], .all⟩)] := by
        rw [rules_mark, hr]
        show Keyed.put a.rules _ (RuleGroups.joined (Keyed.get? a.rules _) _) = _
        rw [Keyed.get?_eq_none hnew, Keyed.put_of_not_mem hnew]
        rfl
      have hg : m.group? = some (keyOf m.place, ⟨[rule], .all⟩) := by
        rw [Mark.group?, hr, Option.map_some]
      have hnodup : (Keyed.keys (mark a m).rules ++ marks.map fun m => keyOf m.place).Nodup := by
        rw [hm]
        simpa [Keyed.keys] using h
      rw [List.foldl_cons, ih hnodup, hm, List.filterMap_cons_some hg, List.append_assoc]
      rfl

theorem Chart.Placed.rules_eq {F : Rule → Entry → Prop} {c : Chart} (h : c.Placed F) :
    c.draft.annotations.rules = c.marks.filterMap Mark.group? := by
  rw [h.sound.annotations, rules_of_marks]
  · rfl
  · show (c.marks.map (keyOf ∘ Mark.place)).Nodup
    have hw : ∀ place ∈ c.marks.map Mark.place, ∀ l ∈ place, l.Writable := by
      intro place hp
      obtain ⟨m, hm, rfl⟩ := List.mem_map.mp hp
      exact h.marksWritable hm
    rw [← List.map_map]
    exact List.Nodup.map_on (fun p hp q hq => keyOf_injective (hw p hp) (hw q hq)) h.distinct

def Draft.ruleSet (d : Draft) : RuleSet := [("body", d.annotations.rules)]

theorem size_replicate {bound : Comparison.Bound} {k : Nat} (h : bound.allows k = true)
    (otherwise : List String → Value → Value → Comparison.Outcome) (path : List String)
    (expected v : Value) :
    Comparison.size bound otherwise path expected (.list (List.replicate k v)) = .ok [] := by
  simp only [Comparison.size, Value.size?, List.length_replicate, h, if_true]

/-- A rule finds nothing to object to in what it fits, if that can be written down. -/
theorem check_of_fits {rule : Rule} {x : Entry} (h : Fits rule x) (f : Nat → Value)
    (hs : ∀ k n, x = .copies k n → ∃ s, (x.toValue f).described = .ok s) (path : List String) :
    rule.check path (x.toValue f) (x.toValue f) = .ok [] := by
  cases h with
  | value h => exact h path
  | type k n =>
    obtain ⟨s, hs⟩ := hs k n rfl
    rw [Rule.check, Comparison.type, hs]
    rfl
  | @least size k h n =>
    obtain ⟨s, hs⟩ := hs k n rfl
    have hk : (Comparison.Bound.least size).allows k = true := decide_eq_true h
    rw [Rule.check, Comparison.sizedType, hs]
    exact size_replicate hk Comparison.type path _ (f n)
  | @greatest size k h n =>
    obtain ⟨s, hs⟩ := hs k n rfl
    have hk : (Comparison.Bound.greatest size).allows k = true := decide_eq_true h
    rw [Rule.check, Comparison.sizedType, hs]
    exact size_replicate hk Comparison.type path _ (f n)

/-- Of the rules that were noted on the way to a position, that of the longest place counts, and it
counts alone. -/
theorem best_along {F : Rule → Entry → Prop} {c : Chart} (h : c.Placed F) {place : List Level}
    {position : List String} (hp : Along c.draft.nodes (.node 0) place position) {m : Mark}
    (hm : m ∈ c.marks) {rule : Rule} (hr : m.rule = some rule) (hpre : m.place <+: place)
    (hlong : ∀ m' ∈ c.marks, m'.rule ≠ none → m'.place <+: place → m'.place <+: m.place) :
    c.draft.ruleSet.best "body" ("$" :: position) = .ok (some ⟨[rule], .all⟩) := by
  have hcategory : c.draft.ruleSet.category "body" = c.marks.filterMap Mark.group? := h.rules_eq
  obtain ⟨end', hend⟩ := hp.exists_walk
  have hw : ∀ l ∈ place, l.Writable := h.writable.of_walk hend
  have applies_at {m' : Mark} (hm' : m' ∈ c.marks) :
      applies "body" ("$" :: position) (keyOf m'.place) = .ok (decide (m'.place <+: place)) := by
    obtain ⟨y, hy, -⟩ := h.fits m' hm'
    exact applies_of_walk hp hy hw (h.marksWritable hm')
  have hown : (keyOf m.place, (⟨[rule], .all⟩ : RuleGroup)) ∈ c.draft.ruleSet.category "body" := by
    rw [hcategory]
    exact List.mem_filterMap.mpr ⟨m, hm, by rw [Mark.group?, hr, Option.map_some]⟩
  refine best_eq hown ?_ (rank_along hp hpre hw) fun e he => ?_
  · rw [applies_at hm, decide_eq_true hpre]
  · rw [hcategory] at he
    obtain ⟨m', hm', hg⟩ := List.mem_filterMap.mp he
    obtain ⟨rule', hr', rfl⟩ := Option.map_eq_some_iff.mp hg
    have happ := applies_at hm'
    by_cases hpre' : m'.place <+: place
    · rw [decide_eq_true hpre'] at happ
      by_cases hplace : m'.place = m.place
      · -- No two marks share their place.
        have hsame : m' = m := List.inj_on_of_nodup_map h.distinct hm' hm hplace
        subst hsame
        cases hr.symm.trans hr'
        exact .inl rfl
      · have hnone : m'.rule ≠ none := by
          rw [hr']
          exact Option.some_ne_none rule'
        have hup := hlong m' hm' hnone hpre'
        exact .inr (.inr ⟨happ, _, rank_along hp hpre' hw, isAbove_rankOf hup hplace⟩)
    · rw [decide_eq_false hpre'] at happ
      exact .inr (.inl happ)

/-- The group that counts at a position where a rule was noted is the one of this rule alone. -/
theorem best_of_mark {c : Chart} (h : c.Faithful) {m : Mark} (hm : m ∈ c.marks) {rule : Rule}
    (hr : m.rule = some rule) {position : List String}
    (hp : List.Forall₂ Covers m.place position) :
    c.draft.ruleSet.best "body" ("$" :: position) = .ok (some ⟨[rule], .all⟩) := by
  obtain ⟨x, hx, -⟩ := h.fits m hm
  exact best_along h (.of_walk hx hp) hm hr List.prefix_rfl fun _ _ _ hpre => hpre

/-- For every document that is put together tidily, and every rule that was noted: its place shows
in the document, and wherever it shows, with whatever indices, the group that counts is that of the
rule alone, and it finds nothing to object to in the value there. A comparison of copies writes
their list down, which has to be possible for that: no integer in it may have too many digits. -/
theorem own_rule_counts (config : Config) (root : Root) {moves : List (Nat × Step)}
    (ht : (Draft.begin config root).TidyRun moves) :
    let c := (Chart.begin config root).after moves
    let d := (Draft.begin config root).after moves
    ∀ m ∈ c.marks, ∀ rule, m.rule = some rule →
      (∃ position v, List.Forall₂ Covers m.place position ∧ StandsAt d.value position v)
      ∧ ∀ position v, List.Forall₂ Covers m.place position → StandsAt d.value position v →
        d.ruleSet.best "body" ("$" :: position) = .ok (some ⟨[rule], .all⟩)
        ∧ ((∀ k n, d.entryAt? m.place = some (.copies k n) → ∃ s, v.described = .ok s) →
          d.ruleSet.compare "body" ("$" :: position) v v = .ok []) := by
  intro c d m hm rule hr
  have hd : c.draft = d := (Chart.begin config root).draft_after moves
  have h : c.Faithful := (Chart.faithful_begin config root).after ht
  obtain ⟨x, hx, hfit⟩ := h.fits m hm
  rw [← hd, value_eq_nodeValue]
  refine ⟨?_, fun position v hp hv => ?_⟩
  · obtain ⟨position, hp, hv⟩ := exists_standsAt h.forward hx (fun k n he => by cases he)
    exact ⟨position, _, hp, hv⟩
  · have hbest := best_of_mark h hm hr hp
    have hvalue : v = x.toValue (nodeValue c.draft.nodes) := eq_of_standsAt h.forward hx hp hv
    refine ⟨hbest, fun hs => ?_⟩
    have hcheck : rule.check ("$" :: position) v v = .ok [] := by
      rw [hx] at hs
      rw [hvalue] at hs ⊢
      exact check_of_fits (hfit rule hr) _ (fun k n he => hs k n (congrArg some he)) _
    rw [RuleSet.compare, hbest]
    show RuleGroup.check ⟨[rule], .all⟩ ("$" :: position) v v = _
    rw [RuleGroup.check, List.mapM_cons, hcheck]
    rfl

def listOfTwo : List (Nat × Step) :=
  [(0, .eachLike "items" 2), (1, .put "name" (.string (.text "x")))]

theorem tidyRun_listOfTwo : (Draft.begin .standard .object).TidyRun listOfTwo := by
  refine ⟨fun n step hn hs => ?_, fun n step hn hs => ?_, trivial⟩
  · cases hn
    cases hs
    exact ⟨by decide, by decide, by decide, by decide⟩
  · cases hn
    cases hs
    refine ⟨⟨by decide, by decide, by decide, by decide⟩, fun rule hr path => ?_⟩
    cases hr
    rfl

theorem own_rule_counts_listOfTwo :
    (Draft.begin .standard .object).TidyRun listOfTwo
    ∧ ((Draft.begin .standard .object).after listOfTwo).ruleSet.compare "body"
      ["$", "items", "1", "name"] (.text "x") (.text "x") = .ok [] := by
  refine ⟨tidyRun_listOfTwo, ?_⟩
  have h := own_rule_counts .standard .object tidyRun_listOfTwo
    ⟨[.field "items", .template, .field "name"], some .type, none⟩
    (List.mem_cons_of_mem _ List.mem_cons_self) .type rfl
  have hv : StandsAt ((Draft.begin .standard .object).after listOfTwo).value
      ["items", "1", "name"] (.text "x") := .field rfl (.item (i := 1) rfl (.field rfl (.here _)))
  exact (h.2 _ _ (.cons (.field _) (.cons (.template 1) (.cons (.field _) .nil))) hv).2
    fun k n he => by cases he

end HttpContract.Json
