import HttpContract.Proofs.Path.Reading

/-!
How path expressions are refused. A fault says what is wrong with the expression, with one exception:
digits in brackets that pass the test of an index, but are read as no number.
-/
namespace HttpContract.Path

open Text

/-! ## Indices -/

def Unreadable (digits : List Char) : Prop :=
  digits ≠ [] ∧ (∀ c ∈ digits, isDigit c = true) ∧
    ((∃ c ∈ digits, isDecimalDigit c = false) ∨ Number.digitLimit < digits.length)

theorem readInteger_eq_none_iff {digits : List Char} (hne : digits ≠ [])
    (h : ∀ c ∈ digits, isDigit c = true) :
    Number.readInteger digits = none ↔ Unreadable digits := by
  rw [Number.readInteger_of_isDigit hne h, Unreadable, and_iff_right hne, and_iff_right h]
  simp only [ite_eq_right_iff, reduceCtorEq, imp_false, Classical.not_and_iff_not_or_not,
    List.all_eq_true, Classical.not_forall, Bool.not_eq_true, Nat.not_le, exists_prop]

theorem readIndex_of_unreadable {digits : List Char} (h : Unreadable digits) :
    readIndex digits = .error none := by
  obtain ⟨hne, hd, -⟩ := id h
  have htest : (digits.isEmpty || !digits.all isDigit) = false := by
    simpa [List.isEmpty_iff] using ⟨hne, hd⟩
  rw [readIndex, if_neg (by simp [htest]), (readInteger_eq_none_iff hne hd).mpr h]

theorem unreadable_of_readIndex {digits : List Char} (h : readIndex digits = .error none) :
    Unreadable digits := by
  unfold readIndex at h
  split at h
  · cases h
  · rename_i htest
    have hd : digits ≠ [] ∧ ∀ c ∈ digits, isDigit c = true := by simpa using htest
    split at h
    · cases h
    · rename_i hn
      exact (readInteger_eq_none_iff hd.1 hd.2).mp hn

theorem Unreadable.not_mem {digits : List Char} (h : Unreadable digits) : ']' ∉ digits := by
  intro hm
  cases h.2.1 _ hm

/-! ## Tokens -/

theorem readBracket_of_unreadable {digits : List Char} (h : Unreadable digits) (position : Nat)
    (rest : List Char) : readBracket position (digits ++ ']' :: rest) = .error none := by
  obtain ⟨c, ds, rfl⟩ := List.exists_cons_of_ne_nil h.1
  have hc : isDigit c = true := h.2.1 c List.mem_cons_self
  unfold readBracket
  split
  · rename_i he
    injection he with he
    subst he
    cases hc
  · rename_i he
    injection he with he
    subst he
    cases hc
  · rw [takeWhile_ne_append h.not_mem, if_neg (by simp), readIndex_of_unreadable h]
    rfl

theorem unreadable_of_readBracket {position : Nat} {s : List Char}
    (h : readBracket position s = .error none) :
    ∃ digits rest, s = digits ++ ']' :: rest ∧ Unreadable digits := by
  unfold readBracket at h
  split at h
  · cases h
  · dsimp only at h
    split at h
    · split at h
      · cases h
      · cases h
    · cases h
  · dsimp only at h
    split at h
    · cases h
    · rename_i hl
      obtain ⟨rest, hs⟩ := exists_of_takeWhile_ne hl
      cases hi : readIndex (s.takeWhile (· ≠ ']')) with
      | ok n =>
        rw [hi] at h
        cases h
      | error fault =>
        rw [hi] at h
        cases h
        exact ⟨_, rest, hs, unreadable_of_readIndex hi⟩

def HasUnreadableIndex (s : List Char) : Prop :=
  ∃ before tokens digits rest, s = before ++ '[' :: (digits ++ ']' :: rest)
    ∧ Spells before tokens ∧ Unreadable digits

theorem HasUnreadableIndex.cons {text s : List Char} {token : PathToken} (ht : TokenText text token)
    (h : HasUnreadableIndex s) : HasUnreadableIndex (text ++ s) := by
  obtain ⟨before, tokens, digits, rest, rfl, hs, hd⟩ := h
  exact ⟨text ++ before, token :: tokens, digits, rest, (List.append_assoc ..).symm, .cons ht hs, hd⟩

theorem readTokens_of_hasUnreadableIndex {s : List Char} (h : HasUnreadableIndex s)
    (position : Nat) : readTokens position s = .error none := by
  obtain ⟨before, tokens, digits, rest, rfl, hs, hd⟩ := h
  have hopens : Opens ('[' :: (digits ++ ']' :: rest)) := .inr rfl
  rw [hs.readTokens_append hopens, readTokens, readBracket_of_unreadable hd]
  rfl

theorem of_bind_cons_error {r : Except (Option PathFault) (List PathToken)} {token : PathToken}
    {e : Option PathFault} (h : (do let rest ← r; pure (token :: rest)) = .error e) :
    r = .error e := by
  cases r with
  | ok rest => cases h
  | error e' =>
    cases h
    rfl

theorem hasUnreadableIndex_of_readTokens {position : Nat} {s : List Char}
    (h : readTokens position s = .error none) : HasUnreadableIndex s := by
  induction position, s using readTokens.induct with
  | case1 position =>
    rw [readTokens] at h
    cases h
  | case2 position rest ih =>
    rw [readTokens] at h
    exact (ih (of_bind_cons_error h)).cons .star
  | case3 position rest ih =>
    rw [readTokens] at h
    rcases of_bind_error h with hb | ⟨⟨token, n⟩, hb, hrest⟩
    · -- What begins with a quote is no index.
      obtain ⟨digits, after, hs, hd⟩ := unreadable_of_readBracket hb
      obtain ⟨c, ds, rfl⟩ := List.exists_cons_of_ne_nil hd.1
      have hc : isDigit c = true := hd.2.1 c List.mem_cons_self
      injection hs with he
      subst he
      cases hc
    · obtain ⟨text, after, hs, rfl, ht⟩ := bracketText_of_readBracket hb
      have hafter := ih text.length (of_bind_cons_error hrest)
      rw [hs, List.drop_left] at hafter
      cases text with
      | nil => exact absurd rfl ht.ne_nil
      | cons c text =>
        injection hs with hc hs
        subst hc hs
        exact hafter.cons (.quoted ht)
  | case4 position rest h1 h2 name hn =>
    rw [readTokens, if_pos hn] at h
    · cases h
    · exact h1
    · exact h2
  | case5 position rest h1 h2 name hn =>
    rename_i ih
    rw [readTokens, if_neg hn] at h
    · have hne : name ≠ [] := by simpa using hn
      have hc := List.all_eq_true.mp (List.all_takeWhile (p := isFieldChar) (l := rest))
      have hs : name ++ rest.drop name.length = rest :=
        List.prefix_iff_eq_append.mp (List.takeWhile_prefix isFieldChar)
      have h := (ih (of_bind_cons_error h)).cons (.named hne hc)
      rwa [List.cons_append, hs] at h
    · exact h1
    · exact h2
  | case6 position rest ih =>
    rw [readTokens] at h
    rcases of_bind_error h with hb | ⟨⟨token, n⟩, hb, hrest⟩
    · obtain ⟨digits, after, rfl, hd⟩ := unreadable_of_readBracket hb
      exact ⟨[], [], digits, after, rfl, .nil, hd⟩
    · obtain ⟨text, after, rfl, rfl, ht⟩ := bracketText_of_readBracket hb
      have hafter := ih text.length (of_bind_cons_error hrest)
      rw [List.drop_left] at hafter
      exact hafter.cons (.bracket ht)
  | case7 position c tail h1 h2 h3 h4 =>
    rw [readTokens] at h
    · cases h
    · exact h1
    · exact h2
    · exact h3
    · exact h4

/-! ## Expressions -/

/-- An expression is refused without a fault exactly if it holds digits that are read as no index. -/
theorem parse_eq_unusableValue_iff {expression : String} :
    parse expression = .error .unusableValue ↔
      ∃ s, expression.toList = '$' :: s ∧ HasUnreadableIndex s := by
  constructor
  · intro h
    unfold parse at h
    split at h
    · cases h
    · cases h
    · rename_i hr
      unfold readAll at hr
      split at hr
      · cases hr
      · rename_i s he
        exact ⟨s, he, hasUnreadableIndex_of_readTokens (of_bind_cons_error hr)⟩
      · cases hr
  · rintro ⟨s, hs, h⟩
    rw [parse, hs, readAll, readTokens_of_hasUnreadableIndex h]
    rfl

/-- An expression is read, or refused for a fault of its own, or without one. -/
theorem parse_cases (expression : String) :
    (∃ tokens, parse expression = .ok tokens)
      ∨ (∃ fault, parse expression = .error (.path fault expression))
      ∨ parse expression = .error .unusableValue := by
  unfold parse
  split
  · exact .inl ⟨_, rfl⟩
  · exact .inr (.inl ⟨_, rfl⟩)
  · exact .inr (.inr rfl)

end HttpContract.Path
