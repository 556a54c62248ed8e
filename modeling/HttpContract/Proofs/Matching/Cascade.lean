import HttpContract.Proofs.Matching.Applicable

/-!
Rules hold for everything below the place they are noted for. The tokens of a key stand for the
start of a path, one for each of its first elements, and nothing further down is looked at: a key
that applies to a path applies to every longer one, and weighs as much there.
-/
namespace HttpContract

namespace Path

variable {tokens : List PathToken} {path : List String}

/-! ## Place by place -/

def AgreeUpTo (tokens : List PathToken) (path : List String) (k : Nat) : Prop :=
  ∀ i < k, ∀ token element, tokens[i]? = some token → path[i]? = some element → Agrees element token

structure StandsFor (tokens : List PathToken) (path : List String) : Prop where
  one_le : 1 ≤ tokens.length
  length_le : tokens.length ≤ path.length
  agree : AgreeUpTo tokens path tokens.length

/-- Where an index is compared with an element at all, the element is not digits that are read as no
number. -/
def ReadsIndices (tokens : List PathToken) (path : List String) : Prop :=
  tokens.length ≤ path.length → ∀ i n element, AgreeUpTo tokens path i →
    tokens[i]? = some (.index n) → path[i]? = some element → ¬Unreadable element.toList

theorem agreeUpTo_zero (tokens : List PathToken) (path : List String) : AgreeUpTo tokens path 0 :=
  fun i hi => absurd hi i.not_lt_zero

theorem agreeUpTo_cons_iff {token : PathToken} {element : String} {k : Nat} :
    AgreeUpTo (token :: tokens) (element :: path) (k + 1) ↔
      Agrees element token ∧ AgreeUpTo tokens path k := by
  constructor
  · intro h
    refine ⟨h 0 k.succ_pos token element rfl rfl, fun i hi t e ht he => ?_⟩
    exact h (i + 1) (Nat.succ_lt_succ hi) t e ht he
  · rintro ⟨hfirst, hrest⟩ i hi t e ht he
    cases i with
    | zero =>
      cases ht
      cases he
      exact hfirst
    | succ i => exact hrest i (Nat.lt_of_succ_lt_succ hi) t e ht he

theorem leads_iff :
    Leads tokens path ↔ tokens.length ≤ path.length ∧ AgreeUpTo tokens path tokens.length := by
  constructor
  · intro h
    refine ⟨h.length_le, ?_⟩
    induction h with
    | nil path => exact agreeUpTo_zero [] path
    | cons h _ ih => exact agreeUpTo_cons_iff.mpr ⟨h, ih⟩
  · rintro ⟨hlen, h⟩
    induction tokens generalizing path with
    | nil => exact .nil path
    | cons token tokens ih =>
      cases path with
      | nil => cases hlen
      | cons element path =>
        obtain ⟨hfirst, hrest⟩ := agreeUpTo_cons_iff.mp h
        exact .cons hfirst (ih (Nat.le_of_succ_le_succ hlen) hrest)

theorem standsFor_iff : StandsFor tokens path ↔ tokens ≠ [] ∧ Leads tokens path := by
  rw [leads_iff, ← List.length_pos_iff]
  exact ⟨fun h => ⟨h.one_le, h.length_le, h.agree⟩, fun h => ⟨h.1, h.2.1, h.2.2⟩⟩

/-- Tokens stumble at the place of an index, if everything before it agrees. -/
theorem stumbles_iff :
    Stumbles tokens path ↔ tokens.length ≤ path.length ∧ ∃ i n element, AgreeUpTo tokens path i
      ∧ tokens[i]? = some (.index n) ∧ path[i]? = some element ∧ Unreadable element.toList := by
  constructor
  · intro h
    refine ⟨h.length_le, ?_⟩
    induction h with
    | here hu _ => exact ⟨0, _, _, agreeUpTo_zero _ _, rfl, rfl, hu⟩
    | later h _ ih =>
      obtain ⟨i, n, element, hbefore, ht, he, hu⟩ := ih
      exact ⟨i + 1, n, element, agreeUpTo_cons_iff.mpr ⟨h, hbefore⟩, ht, he, hu⟩
  · rintro ⟨hlen, i, n, element, hbefore, ht, he, hu⟩
    -- Along the place of the index: what stands before it agrees, and is passed over one by one.
    induction i generalizing tokens path with
    | zero =>
      cases tokens with
      | nil => cases ht
      | cons token tokens =>
        cases path with
        | nil => cases he
        | cons first path =>
          cases ht
          cases he
          exact .here hu (Nat.le_of_succ_le_succ hlen)
    | succ i ih =>
      cases tokens with
      | nil => cases ht
      | cons token tokens =>
        cases path with
        | nil => cases he
        | cons first path =>
          obtain ⟨hfirst, hrest⟩ := agreeUpTo_cons_iff.mp hbefore
          exact .later hfirst (ih (Nat.le_of_succ_le_succ hlen) hrest ht he)

theorem ReadsIndices.not_stumbles (h : ReadsIndices tokens path) : ¬Stumbles tokens path := by
  intro hs
  obtain ⟨hlen, i, n, element, hbefore, ht, he, hu⟩ := stumbles_iff.mp hs
  exact h hlen i n element hbefore ht he hu

theorem matchLength_of_not_standsFor (h : ReadsIndices tokens path)
    (hn : ¬StandsFor tokens path) : matchLength tokens path = .ok 0 := by
  obtain ⟨hne, hl, -⟩ | ⟨-, -, hm⟩ | ⟨hs, -⟩ := matchLength_cases tokens path
  · exact absurd (standsFor_iff.mpr ⟨hne, hl⟩) hn
  · exact hm
  · exact absurd hs h.not_stumbles

/-! ## Longer paths -/

theorem Leads.append (h : Leads tokens path) (below : List String) :
    Leads tokens (path ++ below) := by
  induction h with
  | nil path => exact .nil (path ++ below)
  | cons h _ ih => exact .cons h ih

end Path

namespace RuleSet

open HttpContract.Path

/-- A key applies to the paths that its tokens stand for at the start, however far they go on. -/
theorem applies_to_all_below {key : String} {tokens : List PathToken}
    (hkey : parse key = .ok tokens) (path : List String) :
    (ReadsIndices tokens path →
      (StandsFor tokens path → matchLength tokens path = .ok tokens.length)
      ∧ (¬StandsFor tokens path → matchLength tokens path = .ok 0))
    ∧ (applies "body" path key = .ok true ↔ StandsFor tokens path)
    ∧ (applies "body" path key = .ok true → ∀ below : List String,
      matchLength tokens path = .ok tokens.length
      ∧ matchLength tokens (path ++ below) = .ok tokens.length
      ∧ applies "body" (path ++ below) key = .ok true
      ∧ ∃ w, 0 < w ∧ totalWeight tokens path = .ok w ∧ totalWeight tokens (path ++ below) = .ok w) := by
  refine ⟨fun hread => ⟨fun h => ?_, matchLength_of_not_standsFor hread⟩, ?_, fun happ below => ?_⟩
  · obtain ⟨hne, hl⟩ := standsFor_iff.mp h
    exact hl.matchLength_eq hne
  · rw [applies_body_iff hkey, standsFor_iff]
  · obtain ⟨hne, hl⟩ := (applies_body_iff hkey).mp happ
    have hbelow : Leads tokens (path ++ below) := hl.append below
    refine ⟨hl.matchLength_eq hne, hbelow.matchLength_eq hne,
      (applies_body_iff hkey).mpr ⟨hne, hbelow⟩, ?_⟩
    exact ⟨_, Nat.two_pow_pos _, hl.totalWeight_eq hne, hbelow.totalWeight_eq hne⟩

/-- A key for the first item applies below it too, though what stands there could not be compared
with an index. -/
theorem applies_to_all_below_item :
    let tokens : List PathToken := [.root, .field "items", .index 0]
    let path := ["$", "items", "0"]
    parse "$.items[0]" = .ok tokens ∧ ReadsIndices tokens path ∧ StandsFor tokens path
    ∧ matchLength tokens path = .ok 3
    ∧ matchLength tokens (path ++ ["²"]) = .ok 3
    ∧ applies "body" (path ++ ["²"]) "$.items[0]" = .ok true
    ∧ ∃ w, 0 < w ∧ totalWeight tokens path = .ok w ∧ totalWeight tokens (path ++ ["²"]) = .ok w := by
  intro tokens path
  have hkey : parse "$.items[0]" = .ok tokens := eq_ok_of_toOption (by decide +kernel)
  have hzero : Agrees "0" (.index 0) := by
    show readIndex "0".toList = .ok 0
    decide +kernel
  have hread : ReadsIndices tokens path := by
    intro _ i n element _ ht he hu
    match i with
    | 0 => cases ht
    | 1 => cases ht
    | 2 =>
      cases he
      cases (readIndex_of_unreadable hu).symm.trans hzero
    | i + 3 => cases ht
  have hstands : StandsFor tokens path :=
    standsFor_iff.mpr ⟨by decide, .cons rfl (.cons rfl (.cons hzero (.nil [])))⟩
  obtain ⟨hlength, happlies, hbelow⟩ := applies_to_all_below hkey path
  obtain ⟨-, hmore, happ, hweight⟩ := hbelow (happlies.mpr hstands) ["²"]
  exact ⟨hkey, hread, hstands, (hlength hread).1 hstands, hmore, happ, hweight⟩

end RuleSet

end HttpContract
