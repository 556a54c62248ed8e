import HttpContract.Path
import HttpContract.Proofs.Number.Digits
import HttpContract.Proofs.Success

/-!
The texts that are read as path expressions: those of their tokens, one after the other. Each token
ends where the next one opens, so that an expression reads the same with more tokens behind it.
-/
namespace HttpContract

namespace Path

open Text

/-! ## Brackets -/

inductive BracketText : List Char → PathToken → Prop
  | star : BracketText ['*', ']'] .starIndex
  | quoted {name : List Char} (hne : name ≠ []) (hq : '\x27' ∉ name) :
      BracketText ('\x27' :: (name ++ ['\x27', ']'])) (.field (String.ofList name))
  | index {digits : List Char} {n : Nat} (h : readIndex digits = .ok n) :
      BracketText (digits ++ [']']) (.index n)

theorem BracketText.ne_nil {text : List Char} {token : PathToken} (h : BracketText text token) :
    text ≠ [] := by
  cases h <;> simp

theorem BracketText.of_field {text : List Char} {name : String}
    (h : BracketText text (.field name)) :
    text = '\x27' :: (name.toList ++ ['\x27', ']']) ∧ name ≠ "" ∧ '\x27' ∉ name.toList := by
  generalize ht : PathToken.field name = token at h
  cases h with
  | quoted hne hq =>
    cases ht
    rw [String.toList_ofList]
    exact ⟨rfl, fun he => hne (String.ofList_eq_empty_iff.mp he), hq⟩
  | _ => cases ht

theorem BracketText.of_index {text : List Char} {n : Nat} (h : BracketText text (.index n)) :
    ∃ digits, text = digits ++ [']'] ∧ readIndex digits = .ok n := by
  generalize ht : PathToken.index n = token at h
  cases h with
  | index h =>
    cases ht
    exact ⟨_, rfl, h⟩
  | _ => cases ht

theorem BracketText.of_starIndex {text : List Char} (h : BracketText text .starIndex) :
    text = ['*', ']'] := by
  generalize ht : PathToken.starIndex = token at h
  cases h with
  | star => rfl
  | _ => cases ht

theorem takeWhile_ne_append {c : Char} {s : List Char} (h : c ∉ s) (rest : List Char) :
    (s ++ c :: rest).takeWhile (· ≠ c) = s := by
  have hs : ∀ d ∈ s, decide (d ≠ c) = true := by
    intro d hd
    simp only [decide_eq_true_eq]
    rintro rfl
    exact h hd
  rw [List.takeWhile_append_of_pos hs]
  simp

theorem exists_of_takeWhile_ne {c : Char} {s : List Char}
    (h : (s.takeWhile (· ≠ c)).length ≠ s.length) :
    ∃ rest, s = s.takeWhile (· ≠ c) ++ c :: rest := by
  induction s with
  | nil => exact absurd rfl h
  | cons d s ih =>
    by_cases hd : d = c
    · exact ⟨s, by simp [hd]⟩
    · simp only [List.takeWhile_cons, hd, ne_eq, not_false_eq_true, decide_true, if_true,
        List.length_cons, Nat.succ.injEq] at h ⊢
      obtain ⟨rest, hr⟩ := ih h
      exact ⟨rest, by rw [List.cons_append, ← hr]⟩

theorem not_mem_takeWhile_ne (c : Char) (s : List Char) : c ∉ s.takeWhile (· ≠ c) := by
  intro h
  have := List.all_eq_true.mp (List.all_takeWhile (p := (· ≠ c)) (l := s)) c h
  simp at this

theorem digits_of_readIndex {digits : List Char} {n : Nat} (h : readIndex digits = .ok n) :
    digits ≠ [] ∧ ∀ c ∈ digits, isDigit c = true := by
  unfold readIndex at h
  split at h
  · cases h
  · rename_i hd
    simpa using hd

theorem not_mem_of_readIndex {digits : List Char} {n : Nat} (h : readIndex digits = .ok n) :
    ']' ∉ digits := by
  intro hm
  cases (digits_of_readIndex h).2 _ hm

theorem readIndex_digitsOf (n : Nat) : readIndex (Number.digitsOf n) =
    if n < 10 ^ Number.digitLimit then .ok n else .error none := by
  have hne : (Number.digitsOf n).isEmpty = false := by simpa using Number.digitsOf_ne_nil n
  have hd : (Number.digitsOf n).all isDigit = true := List.all_eq_true.mpr fun c hc =>
    Number.isDigit_of_isAsciiDigit (Number.isAsciiDigit_of_mem_digitsOf hc)
  simp only [readIndex, hne, hd, Number.readInteger_digitsOf]
  by_cases h : n < 10 ^ Number.digitLimit <;> simp [h]

/-- A token in brackets is read as far as it is written, whatever follows. -/
theorem BracketText.readBracket {text : List Char} {token : PathToken} (h : BracketText text token)
    (position : Nat) (rest : List Char) :
    readBracket position (text ++ rest) = .ok (token, text.length) := by
  cases h with
  | star => rfl
  | @quoted name hne hq =>
    have happ : '\x27' :: (name ++ ['\x27', ']']) ++ rest =
        '\x27' :: (name ++ '\x27' :: (']' :: rest)) := by simp
    rw [happ, Path.readBracket, takeWhile_ne_append hq, List.drop_left]
    rw [if_neg (by simpa using hne)]
    simp
  | @index digits n h =>
    obtain ⟨hne, hd⟩ := digits_of_readIndex h
    obtain ⟨c, ds, rfl⟩ := List.exists_cons_of_ne_nil hne
    have hc : isDigit c = true := hd c List.mem_cons_self
    have hb : ']' ∉ c :: ds := not_mem_of_readIndex h
    have happ : c :: ds ++ [']'] ++ rest = c :: ds ++ ']' :: rest := by simp
    rw [happ]
    unfold Path.readBracket
    split
    · rename_i he
      injection he with he
      subst he
      cases hc
    · rename_i he
      injection he with he
      subst he
      cases hc
    · rw [takeWhile_ne_append hb, if_neg (by simp), h]
      simp [Except.map]

/-- A text up to a bracket can be cut at that bracket in one way only. -/
theorem append_bracket_inj {s t rest after : List Char} (hs : ']' ∉ s) (ht : ']' ∉ t)
    (h : s ++ ']' :: rest = t ++ ']' :: after) : s = t ∧ rest = after := by
  have hst : s = t := by rw [← takeWhile_ne_append hs rest, h, takeWhile_ne_append ht]
  subst hst
  exact ⟨rfl, (List.cons.inj (List.append_cancel_left h)).2⟩

theorem bracketText_of_readBracket {position n : Nat} {s : List Char} {token : PathToken}
    (h : readBracket position s = .ok (token, n)) :
    ∃ text rest, s = text ++ rest ∧ n = text.length ∧ BracketText text token := by
  unfold readBracket at h
  split at h
  · cases h
    exact ⟨['*', ']'], _, rfl, rfl, .star⟩
  · rename_i s
    dsimp only at h
    split at h
    · rename_i rest hr
      split at h
      · cases h
      · rename_i hne
        cases h
        have hs := List.prefix_iff_eq_append.mp (List.takeWhile_prefix (· ≠ '\x27') (l := s))
        rw [hr] at hs
        refine ⟨_, rest, ?_, ?_, .quoted (by simpa using hne) (not_mem_takeWhile_ne _ s)⟩
        · simpa using hs.symm
        · simp
    · cases h
  · dsimp only at h
    split at h
    · cases h
    · rename_i hl
      obtain ⟨rest, hs⟩ := exists_of_takeWhile_ne hl
      cases hi : readIndex (s.takeWhile (· ≠ ']')) with
      | error e =>
        rw [hi] at h
        cases h
      | ok i =>
        rw [hi] at h
        cases h
        exact ⟨_, rest, by rw [List.append_assoc]; exact hs, by simp, .index hi⟩

/-! ## Tokens -/

inductive TokenText : List Char → PathToken → Prop
  | star : TokenText ['.', '*'] .star
  | named {name : List Char} (hne : name ≠ []) (hc : ∀ c ∈ name, isFieldChar c = true) :
      TokenText ('.' :: name) (.field (String.ofList name))
  | quoted {text : List Char} {token : PathToken} (h : BracketText ('\x27' :: text) token) :
      TokenText ('.' :: '[' :: '\x27' :: text) token
  | bracket {text : List Char} {token : PathToken} (h : BracketText text token) :
      TokenText ('[' :: text) token

def Opens : List Char → Prop
  | [] => True
  | c :: _ => c = '.' ∨ c = '['

theorem TokenText.opens {text : List Char} {token : PathToken} (h : TokenText text token)
    (rest : List Char) : Opens (text ++ rest) := by
  cases h with
  | star => exact .inl rfl
  | named => exact .inl rfl
  | quoted => exact .inl rfl
  | bracket => exact .inr rfl

theorem takeWhile_isFieldChar_append {name rest : List Char}
    (hc : ∀ c ∈ name, isFieldChar c = true) (hr : Opens rest) :
    (name ++ rest).takeWhile isFieldChar = name := by
  rw [List.takeWhile_append_of_pos hc]
  cases rest with
  | nil => exact List.append_nil name
  | cons c rest =>
    obtain rfl | rfl := hr <;> exact List.append_nil name

theorem bind_cons (r : Except (Option PathFault) (List PathToken)) (token : PathToken) :
    (do let tokens ← r; pure (token :: tokens)) = r.map (token :: ·) := by
  cases r <;> rfl

/-- One token is read as far as it is written, if what follows opens another one. -/
theorem TokenText.readTokens {text : List Char} {token : PathToken} (h : TokenText text token)
    {rest : List Char} (hr : Opens rest) (position : Nat) :
    readTokens position (text ++ rest) =
      (readTokens (position + text.length) rest).map (token :: ·) := by
  cases h with
  | star =>
    show Path.readTokens position ('.' :: '*' :: rest) = _
    rw [Path.readTokens]
    exact bind_cons _ _
  | @named name hne hc =>
    obtain ⟨c, cs, rfl⟩ := List.exists_cons_of_ne_nil hne
    have hfirst : isFieldChar c = true := hc c List.mem_cons_self
    have hpos : position + 1 + (c :: cs).length = position + ('.' :: c :: cs).length := by
      simp only [List.length_cons]
      omega
    show Path.readTokens position ('.' :: (c :: cs ++ rest)) = _
    rw [Path.readTokens, takeWhile_isFieldChar_append hc hr, if_neg (by simp), List.drop_left, hpos]
    · exact bind_cons _ _
    · rintro s he
      injection he with he
      rw [he] at hfirst
      cases hfirst
    · rintro s he
      injection he with he
      rw [he] at hfirst
      cases hfirst
  | @quoted text token h =>
    have hb := h.readBracket (position + 2) rest
    have hpos : position + 2 + ('\x27' :: text).length =
        position + ('.' :: '[' :: '\x27' :: text).length := by
      simp only [List.length_cons]
      omega
    show Path.readTokens position ('.' :: '[' :: '\x27' :: (text ++ rest)) = _
    rw [List.cons_append] at hb
    rw [Path.readTokens, hb, ← hpos]
    exact (bind_cons _ _).trans (by rw [← List.cons_append, List.drop_left])
  | @bracket text token h =>
    have hb := h.readBracket (position + 1) rest
    have hpos : position + 1 + text.length = position + ('[' :: text).length := by
      simp only [List.length_cons]
      omega
    show Path.readTokens position ('[' :: (text ++ rest)) = _
    rw [Path.readTokens, hb, ← hpos]
    exact (bind_cons _ _).trans (by rw [List.drop_left])

/-! ## Expressions -/

inductive Spells : List Char → List PathToken → Prop
  | nil : Spells [] []
  | cons {text rest : List Char} {token : PathToken} {tokens : List PathToken}
      (h : TokenText text token) (hs : Spells rest tokens) : Spells (text ++ rest) (token :: tokens)

theorem Spells.opens {s : List Char} {tokens : List PathToken} (h : Spells s tokens) : Opens s := by
  cases h with
  | nil => trivial
  | cons h _ => exact h.opens _

theorem opens_append {s rest : List Char} (hs : Opens s) (hr : Opens rest) : Opens (s ++ rest) := by
  cases s with
  | nil => exact hr
  | cons c s => exact hs

theorem Spells.readTokens_append {s : List Char} {tokens : List PathToken} (h : Spells s tokens)
    {rest : List Char} (hr : Opens rest) (position : Nat) :
    readTokens position (s ++ rest) =
      (readTokens (position + s.length) rest).map (tokens ++ ·) := by
  induction h generalizing position with
  | nil =>
    rw [List.nil_append, List.length_nil, Nat.add_zero]
    cases readTokens position rest <;> rfl
  | @cons text s token tokens h hs ih =>
    rw [List.append_assoc, h.readTokens (opens_append hs.opens hr), ih, List.length_append,
      Nat.add_assoc]
    cases readTokens (position + (text.length + s.length)) rest <;> rfl

theorem exists_of_bind_cons {r : Except (Option PathFault) (List PathToken)} {token : PathToken}
    {tokens : List PathToken} (h : (do let rest ← r; pure (token :: rest)) = .ok tokens) :
    ∃ rest, r = .ok rest ∧ tokens = token :: rest := by
  cases r with
  | ok rest =>
    cases h
    exact ⟨rest, rfl, rfl⟩
  | error e => cases h

theorem spells_of_readTokens {position : Nat} {s : List Char} {tokens : List PathToken}
    (h : readTokens position s = .ok tokens) : Spells s tokens := by
  -- The cases are those of the reader: no text, a star, a bracket, a field, and what is refused.
  induction position, s using readTokens.induct generalizing tokens with
  | case1 position =>
    rw [readTokens] at h
    cases h
    exact .nil
  | case2 position rest ih =>
    rw [readTokens] at h
    obtain ⟨ts, hr, rfl⟩ := exists_of_bind_cons h
    exact .cons .star (ih hr)
  | case3 position rest ih =>
    rw [readTokens] at h
    obtain ⟨⟨token, n⟩, hb, h⟩ := exists_of_bind_ok h
    obtain ⟨ts, hr, rfl⟩ := exists_of_bind_cons h
    obtain ⟨text, after, hs, rfl, ht⟩ := bracketText_of_readBracket hb
    replace hr := ih text.length hr
    rw [hs, List.drop_left] at hr
    cases text with
    | nil => exact absurd rfl ht.ne_nil
    | cons c text =>
      injection hs with hc hs
      subst hc hs
      exact .cons (.quoted ht) hr
  | case4 position rest h1 h2 name hn =>
    rw [readTokens, if_pos hn] at h
    · cases h
    · exact h1
    · exact h2
  | case5 position rest h1 h2 name hn =>
    rename_i ih
    rw [readTokens, if_neg hn] at h
    · obtain ⟨ts, hr, rfl⟩ := exists_of_bind_cons h
      have hne : name ≠ [] := by simpa using hn
      have hc := List.all_eq_true.mp (List.all_takeWhile (p := isFieldChar) (l := rest))
      have hs : name ++ rest.drop name.length = rest :=
        List.prefix_iff_eq_append.mp (List.takeWhile_prefix isFieldChar)
      have h := Spells.cons (.named hne hc) (ih hr)
      rwa [List.cons_append, hs] at h
    · exact h1
    · exact h2
  | case6 position rest ih =>
    rw [readTokens] at h
    obtain ⟨⟨token, n⟩, hb, h⟩ := exists_of_bind_ok h
    obtain ⟨ts, hr, rfl⟩ := exists_of_bind_cons h
    obtain ⟨text, after, rfl, rfl, ht⟩ := bracketText_of_readBracket hb
    replace hr := ih text.length hr
    rw [List.drop_left] at hr
    exact .cons (.bracket ht) hr
  | case7 position c tail h1 h2 h3 h4 =>
    rw [readTokens] at h
    · cases h
    · exact h1
    · exact h2
    · exact h3
    · exact h4

theorem readTokens_eq_ok_iff {position : Nat} {s : List Char} {tokens : List PathToken} :
    readTokens position s = .ok tokens ↔ Spells s tokens := by
  refine ⟨spells_of_readTokens, fun h => ?_⟩
  have := h.readTokens_append (show Opens [] from trivial) position
  rw [List.append_nil, readTokens] at this
  rw [this]
  exact congrArg Except.ok (List.append_nil tokens)

theorem Spells.append {s t : List Char} {tokens others : List PathToken} (hs : Spells s tokens)
    (ht : Spells t others) : Spells (s ++ t) (tokens ++ others) := by
  induction hs with
  | nil => exact ht
  | cons h _ ih =>
    rw [List.append_assoc]
    exact .cons h ih

theorem readAll_of_parse {expression : String} {tokens : List PathToken}
    (h : parse expression = .ok tokens) : readAll expression.toList = .ok tokens := by
  unfold parse at h
  split at h
  · cases h
    assumption
  · cases h
  · cases h

/-- An expression is empty, or the root with tokens written behind it. -/
theorem parse_eq_ok_iff {expression : String} {tokens : List PathToken} :
    parse expression = .ok tokens ↔ (expression = "" ∧ tokens = []) ∨
      ∃ s rest, expression.toList = '$' :: s ∧ tokens = .root :: rest ∧ Spells s rest := by
  constructor
  · intro h
    have h := readAll_of_parse h
    unfold readAll at h
    split at h
    · rename_i he
      cases h
      exact .inl ⟨String.toList_eq_nil_iff.mp he, rfl⟩
    · rename_i s he
      obtain ⟨rest, hr, rfl⟩ := exists_of_bind_cons h
      exact .inr ⟨s, rest, he, rfl, spells_of_readTokens hr⟩
    · cases h
  · rintro (⟨rfl, rfl⟩ | ⟨s, rest, hs, rfl, h⟩)
    · rfl
    · rw [parse, hs, readAll, readTokens_eq_ok_iff.mpr h]
      rfl

/-- Behind an expression that is read, all depends on how the further tokens are written. -/
theorem parse_append_iff {parent text : String} {tokens others : List PathToken}
    (hp : parse parent = .ok tokens) (hne : parent ≠ "") (ht : Opens text.toList) :
    parse (parent ++ text) = .ok (tokens ++ others) ↔ Spells text.toList others := by
  obtain ⟨he, -⟩ | ⟨s, rest, hs, rfl, h⟩ := parse_eq_ok_iff.mp hp
  · exact absurd he hne
  have hall : (parent ++ text).toList = '$' :: (s ++ text.toList) := by
    rw [String.toList_append, hs, List.cons_append]
  refine ⟨fun h' => ?_, fun h' => ?_⟩
  · obtain ⟨he, -⟩ | ⟨s', rest', hs', hr, h'⟩ := parse_eq_ok_iff.mp h'
    · rw [he] at hall
      cases hall
    · cases hall.symm.trans hs'
      injection hr with _ hr
      subst hr
      have hread : readTokens 0 (s ++ text.toList) = .ok (rest ++ others) :=
        readTokens_eq_ok_iff.mpr h'
      rw [h.readTokens_append ht] at hread
      cases hrest : readTokens (0 + s.length) text.toList with
      | error e =>
        rw [hrest] at hread
        cases hread
      | ok us =>
        rw [hrest] at hread
        injection hread with hread
        rw [List.append_cancel_left hread] at hrest
        exact spells_of_readTokens hrest
  · exact parse_eq_ok_iff.mpr (.inr ⟨_, _, hall, rfl, h.append h'⟩)

/-! ## Names after a point -/

def IsFieldName (name : String) : Prop := name ≠ "" ∧ ∀ c ∈ name.toList, isFieldChar c = true

instance : DecidablePred IsFieldName := fun name =>
  decidable_of_iff (name ≠ "" ∧ name.toList.all isFieldChar = true)
    (and_congr_right' List.all_eq_true)

theorem IsFieldName.tokenText {name : String} (h : IsFieldName name) :
    TokenText ('.' :: name.toList) (.field name) := by
  have ht := TokenText.named (fun he => h.1 (String.toList_eq_nil_iff.mp he)) h.2
  rwa [String.ofList_toList] at ht

/-- What is read as the field of a name that is written after a point is written there as it is. -/
theorem TokenText.isFieldName {name : String} {text after rest : List Char}
    (h : TokenText text (.field name)) (he : text ++ after = '.' :: (name.toList ++ rest))
    (hr : Opens rest) : IsFieldName name ∧ after = rest := by
  generalize ht : PathToken.field name = token at h
  cases h with
  | star => cases ht
  | @named written hne hc =>
    cases ht
    rw [String.toList_ofList] at he
    refine ⟨⟨fun hempty => hne (String.ofList_eq_empty_iff.mp hempty), ?_⟩, ?_⟩
    · rwa [String.toList_ofList]
    · exact List.append_cancel_left (List.cons.inj he).2
  | quoted hb =>
    -- The name would begin with the bracket and the quote that it is read behind.
    subst ht
    obtain ⟨-, hne, hq⟩ := hb.of_field
    replace he := (List.cons.inj he).2
    rcases hn : name.toList with _ | ⟨c, _ | ⟨d, cs⟩⟩
    · exact absurd (String.toList_eq_nil_iff.mp hn) hne
    · rw [hn] at he
      have hrest : rest = _ := (List.cons.inj he).2.symm
      rw [hrest] at hr
      rcases hr with hr | hr <;> cases hr
    · rw [hn] at he hq
      have hd : '\x27' = d := (List.cons.inj (List.cons.inj he).2).1
      exact absurd (hd ▸ List.mem_cons_of_mem c List.mem_cons_self) hq
  | bracket hb => cases he

theorem spells_field_iff {name : String} {rest : List Char} {tokens : List PathToken}
    (hr : Opens rest) : Spells ('.' :: (name.toList ++ rest)) (.field name :: tokens) ↔
      IsFieldName name ∧ Spells rest tokens := by
  constructor
  · intro h
    generalize hs : '.' :: (name.toList ++ rest) = s at h
    cases h with
    | cons ht ha =>
      obtain ⟨hname, rfl⟩ := ht.isFieldName hs.symm hr
      exact ⟨hname, ha⟩
  · rintro ⟨hname, hs⟩
    exact .cons hname.tokenText hs

theorem BracketText.ne_star {text : List Char} {token : PathToken} (h : BracketText text token) :
    token ≠ .star := by
  cases h <;> nofun

theorem spells_star_iff {rest : List Char} {tokens : List PathToken} :
    Spells ('.' :: '*' :: rest) (.star :: tokens) ↔ Spells rest tokens := by
  constructor
  · intro h
    generalize hs : '.' :: '*' :: rest = s at h
    generalize ht : PathToken.star :: tokens = all at h
    cases h with
    | nil => cases hs
    | @cons text after token others htext ha =>
      obtain ⟨rfl, rfl⟩ := List.cons.inj ht
      generalize hstar : PathToken.star = token at htext
      cases htext with
      | star =>
        cases hs
        exact ha
      | named => cases hstar
      | quoted hb => exact absurd hstar.symm hb.ne_star
      | bracket hb => exact absurd hstar.symm hb.ne_star
  · exact fun h => .cons .star h

end Path

end HttpContract
