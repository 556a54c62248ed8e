import HttpContract.Proofs.Path.Refusal

/-!
Which paths a path expression leads to. Its tokens are compared with the elements one by one, up to
the first that disagrees; a comparison can only fail where an index meets digits that are read as
no number.
-/
namespace HttpContract

def PathToken.isLiteral : PathToken → Bool
  | root | field _ | index _ => true
  | star | starIndex => false

def PathToken.worth (token : PathToken) : Nat := if token.isLiteral then 2 else 1

theorem PathToken.worth_ne_zero (token : PathToken) : token.worth ≠ 0 := by
  unfold worth
  split <;> decide

namespace Path

open Text

/-! ## One element -/

def Agrees (element : String) : PathToken → Prop
  | .root => element = "$"
  | .field name => element = name
  | .index n => readIndex element.toList = .ok n
  | .star => True
  | .starIndex => element.toList ≠ [] ∧ ∀ c ∈ element.toList, isDigit c = true

theorem weight_index (element : String) (n : Nat) :
    weight element (.index n) = match readIndex element.toList with
      | .ok m => .ok (if m = n then 2 else 0)
      | .error (some _) => .ok 0
      | .error none => .error .unusableValue := by
  rw [weight, readIndex]
  generalize element.toList = digits
  split
  · rfl
  · rename_i htest
    have hd : digits ≠ [] ∧ ∀ c ∈ digits, isDigit c = true := by simpa using htest
    rw [Number.readInteger_of_isDigit hd.1 hd.2]
    by_cases hr : digits.all isDecimalDigit ∧ digits.length ≤ Number.digitLimit
    · simp only [if_pos hr, Int.natCast_inj, Int.toNat_natCast]
    · simp only [if_neg hr]

/-- An element agrees with a token, or it does not, or it cannot be compared with it. -/
theorem weight_cases (element : String) (token : PathToken) :
    (Agrees element token ∧ weight element token = .ok token.worth)
    ∨ (¬Agrees element token ∧ weight element token = .ok 0)
    ∨ (∃ n, token = .index n ∧ Unreadable element.toList
      ∧ weight element token = .error .unusableValue) := by
  cases token with
  | root =>
    by_cases h : element = "$"
    · exact .inl ⟨h, congrArg Except.ok (if_pos h)⟩
    · exact .inr (.inl ⟨h, congrArg Except.ok (if_neg h)⟩)
  | field name =>
    by_cases h : element = name
    · exact .inl ⟨h, congrArg Except.ok (if_pos h)⟩
    · exact .inr (.inl ⟨h, congrArg Except.ok (if_neg h)⟩)
  | index n =>
    rw [weight_index]
    cases h : readIndex element.toList with
    | ok m =>
      by_cases hm : m = n
      · exact .inl ⟨h.trans (congrArg Except.ok hm), congrArg Except.ok (if_pos hm)⟩
      · refine .inr (.inl ⟨fun ha => hm ?_, congrArg Except.ok (if_neg hm)⟩)
        exact Except.ok.inj (h.symm.trans ha)
    | error fault =>
      cases fault with
      | some fault =>
        refine .inr (.inl ⟨fun ha => ?_, rfl⟩)
        cases h.symm.trans ha
      | none => exact .inr (.inr ⟨n, rfl, unreadable_of_readIndex h, rfl⟩)
  | star => exact .inl ⟨trivial, rfl⟩
  | starIndex =>
    rw [weight, Agrees]
    generalize element.toList = digits
    split
    · rename_i h
      refine .inr (.inl ⟨fun ⟨hne, hd⟩ => ?_, rfl⟩)
      rw [List.all_eq_true.mpr hd] at h
      exact hne (by simpa using h)
    · rename_i h
      exact .inl ⟨by simpa using h, rfl⟩

theorem Agrees.weight_eq {element : String} {token : PathToken} (h : Agrees element token) :
    weight element token = .ok token.worth := by
  obtain ⟨-, hw⟩ | ⟨hn, -⟩ | ⟨n, rfl, hu, -⟩ := weight_cases element token
  · exact hw
  · exact absurd h hn
  · cases (readIndex_of_unreadable hu).symm.trans h

/-! ## A path -/

inductive Leads : List PathToken → List String → Prop
  | nil (path : List String) : Leads [] path
  | cons {token : PathToken} {element : String} {tokens : List PathToken} {path : List String}
      (h : Agrees element token) (hs : Leads tokens path) : Leads (token :: tokens) (element :: path)

/-- The path is long enough, and the tokens agree with it up to an index that meets digits that are
read as no number. -/
inductive Stumbles : List PathToken → List String → Prop
  | here {n : Nat} {element : String} {tokens : List PathToken} {path : List String}
      (h : Unreadable element.toList) (hlen : tokens.length ≤ path.length) :
      Stumbles (.index n :: tokens) (element :: path)
  | later {token : PathToken} {element : String} {tokens : List PathToken} {path : List String}
      (h : Agrees element token) (hs : Stumbles tokens path) :
      Stumbles (token :: tokens) (element :: path)

theorem Leads.length_le {tokens : List PathToken} {path : List String} (h : Leads tokens path) :
    tokens.length ≤ path.length := by
  induction h with
  | nil path => exact Nat.zero_le _
  | cons _ _ ih => exact Nat.succ_le_succ ih

theorem Stumbles.length_le {tokens : List PathToken} {path : List String}
    (h : Stumbles tokens path) : tokens.length ≤ path.length := by
  induction h with
  | here _ hlen => exact Nat.succ_le_succ hlen
  | later _ _ ih => exact Nat.succ_le_succ ih

theorem Stumbles.not_leads {tokens : List PathToken} {path : List String}
    (h : Stumbles tokens path) : ¬Leads tokens path := by
  induction h with
  | here h _ =>
    rintro (_ | ⟨ha, -⟩)
    cases (readIndex_of_unreadable h).symm.trans ha
  | later _ _ ih =>
    rintro (_ | ⟨-, hs⟩)
    exact ih hs

/-- A path that is long enough agrees with the tokens, or it does not, or they stumble over it. -/
theorem agree_cases {tokens : List PathToken} {path : List String}
    (hlen : tokens.length ≤ path.length) :
    (Leads tokens path ∧ agree tokens path = .ok true)
    ∨ (¬Leads tokens path ∧ ¬Stumbles tokens path ∧ agree tokens path = .ok false)
    ∨ (Stumbles tokens path ∧ agree tokens path = .error .unusableValue) := by
  induction tokens generalizing path with
  | nil => exact .inl ⟨.nil path, agree_nil path⟩
  | cons token tokens ih =>
    cases path with
    | nil => cases hlen
    | cons element path =>
      replace hlen : tokens.length ≤ path.length := Nat.le_of_succ_le_succ hlen
      obtain ⟨ha, hw⟩ | ⟨ha, hw⟩ | ⟨n, rfl, hu, hw⟩ := weight_cases element token
      · have hstep : agree (token :: tokens) (element :: path) = agree tokens path := by
          rw [agree, hw]
          exact if_neg token.worth_ne_zero
        rw [hstep]
        obtain ⟨hs, h⟩ | ⟨hs, hn, h⟩ | ⟨hs, h⟩ := ih hlen
        · exact .inl ⟨.cons ha hs, h⟩
        · refine .inr (.inl ⟨fun hl => ?_, fun hl => ?_, h⟩)
          · cases hl with
            | cons _ hl => exact hs hl
          · cases hl with
            | here hu _ => cases (readIndex_of_unreadable hu).symm.trans ha
            | later _ hl => exact hn hl
        · exact .inr (.inr ⟨.later ha hs, h⟩)
      · refine .inr (.inl ⟨fun hl => ?_, fun hl => ?_, by rw [agree, hw]; rfl⟩)
        · cases hl with
          | cons h _ => exact ha h
        · cases hl with
          | here hu _ =>
            rw [weight_index, readIndex_of_unreadable hu] at hw
            cases hw
          | later h _ => exact ha h
      · exact .inr (.inr ⟨.here hu hlen, by rw [agree, hw]; rfl⟩)

/-- The tokens lead to the place of their own number of elements, or nowhere, or they stumble. -/
theorem matchLength_cases (tokens : List PathToken) (path : List String) :
    (tokens ≠ [] ∧ Leads tokens path ∧ matchLength tokens path = .ok tokens.length)
    ∨ (¬(tokens ≠ [] ∧ Leads tokens path) ∧ ¬Stumbles tokens path ∧ matchLength tokens path = .ok 0)
    ∨ (Stumbles tokens path ∧ matchLength tokens path = .error .unusableValue) := by
  rw [matchLength_eq]
  split
  · rename_i h
    rw [Bool.or_eq_true, List.isEmpty_iff, decide_eq_true_eq] at h
    refine .inr (.inl ⟨fun hl => ?_, fun hs => ?_, rfl⟩)
    · exact h.elim hl.1 fun hlt => Nat.not_lt.mpr hl.2.length_le hlt
    · rcases h with rfl | hlt
      · cases hs
      · exact Nat.not_lt.mpr hs.length_le hlt
  · rename_i h
    have ⟨hne, hlen⟩ : tokens ≠ [] ∧ tokens.length ≤ path.length := by
      simpa [List.isEmpty_iff] using h
    obtain ⟨hl, ha⟩ | ⟨hl, hs, ha⟩ | ⟨hs, ha⟩ := agree_cases hlen
    · exact .inl ⟨hne, hl, by rw [ha]; rfl⟩
    · exact .inr (.inl ⟨fun h => hl h.2, hs, by rw [ha]; rfl⟩)
    · exact .inr (.inr ⟨hs, by rw [ha]; rfl⟩)

theorem Leads.matchLength_eq {tokens : List PathToken} {path : List String}
    (h : Leads tokens path) (hne : tokens ≠ []) : matchLength tokens path = .ok tokens.length := by
  obtain ⟨-, -, hm⟩ | ⟨hn, -⟩ | ⟨hs, -⟩ := matchLength_cases tokens path
  · exact hm
  · exact absurd ⟨hne, h⟩ hn
  · exact absurd h hs.not_leads

/-! ## Weights -/

theorem Leads.weights_eq {tokens : List PathToken} {path : List String} (h : Leads tokens path) :
    weights tokens path = .ok (tokens.map PathToken.worth) := by
  induction h with
  | nil path => rw [weights]; rfl; nofun
  | cons h _ ih =>
    rw [weights, h.weight_eq, ih]
    rfl

theorem foldl_worth (tokens : List PathToken) (n : Nat) :
    (tokens.map PathToken.worth).foldl (· * ·) n = n * 2 ^ tokens.countP PathToken.isLiteral := by
  induction tokens generalizing n with
  | nil => exact (Nat.mul_one n).symm
  | cons token tokens ih =>
    rw [List.map_cons, List.foldl_cons, ih, PathToken.worth, List.countP_cons]
    cases token.isLiteral with
    | true => rw [if_pos rfl, if_pos rfl, Nat.pow_succ, Nat.mul_right_comm, Nat.mul_assoc]
    | false => rw [if_neg nofun, if_neg nofun, Nat.mul_one, Nat.add_zero]

/-- Every literal token doubles the weight. -/
theorem Leads.totalWeight_eq {tokens : List PathToken} {path : List String} (h : Leads tokens path)
    (hne : tokens ≠ []) :
    totalWeight tokens path = .ok (2 ^ tokens.countP PathToken.isLiteral) := by
  have hmap : (tokens.map PathToken.worth).isEmpty = false := by simpa using hne
  rw [totalWeight, h.weights_eq]
  show Except.ok (if (tokens.map PathToken.worth).isEmpty then 0
    else (tokens.map PathToken.worth).foldl (· * ·) 1) = _
  rw [hmap, foldl_worth, Nat.one_mul]
  rfl

end Path

end HttpContract
