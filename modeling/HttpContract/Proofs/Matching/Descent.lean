import HttpContract.Proofs.Matching.Applicable

/-!
Keys that continue one another. Of two keys that both lead to a path, one being the other with more
written behind it, the longer one names a place further down on the same branch: it ranks above the
other, so that rules of an ancestor never count where a descendant has rules of its own.
-/
namespace HttpContract

namespace Path

/-! ## Expressions with more behind them -/

/-- Where a token in brackets ends does not depend on what follows. -/
theorem BracketText.append_inj {text other : List Char} {token token' : PathToken}
    (h : BracketText text token) (h' : BracketText other token') {rest after : List Char}
    (he : other ++ after = text ++ rest) : token' = token ∧ after = rest := by
  have hread := h'.readBracket 0 after
  rw [he, h.readBracket 0 rest] at hread
  injection hread with hread
  injection hread with htoken hlength
  exact ⟨htoken.symm, (List.append_inj he hlength.symm).2⟩

theorem ne_of_isFieldChar {name : List Char} (hne : name ≠ []) (hc : ∀ c ∈ name, isFieldChar c = true)
    {d : Char} (hd : isFieldChar d = false) (rest after : List Char) : name ++ rest ≠ d :: after := by
  obtain ⟨c, cs, rfl⟩ := List.exists_cons_of_ne_nil hne
  intro he
  injection he with he
  rw [← he, hc c List.mem_cons_self] at hd
  cases hd

/-- At the start of one text two tokens are the same, up to the same point, or fields of different
names: only a name that is written without quotes may go on. -/
theorem TokenText.append_cases {text other : List Char} {token token' : PathToken}
    (h : TokenText text token) (h' : TokenText other token') {rest after : List Char}
    (he : other ++ after = text ++ rest) :
    (token' = token ∧ after = rest)
    ∨ ∃ name name', token = .field name ∧ token' = .field name' ∧ name' ≠ name := by
  cases h with
  | star =>
    cases h' with
    | star => exact .inl ⟨rfl, (List.cons.inj (List.cons.inj he).2).2⟩
    | named hne hc => exact absurd (List.cons.inj he).2 (ne_of_isFieldChar hne hc rfl _ _)
    | quoted => cases he
    | bracket => cases he
  | @named name hne hc =>
    cases h' with
    | star => exact absurd (List.cons.inj he).2.symm (ne_of_isFieldChar hne hc rfl _ _)
    | @named name' hne' hc' =>
      have he : name' ++ after = name ++ rest := (List.cons.inj he).2
      by_cases hname : name' = name
      · subst hname
        exact .inl ⟨rfl, List.append_cancel_left he⟩
      · exact .inr ⟨_, _, rfl, rfl, fun hs => hname (String.ofList_injective hs)⟩
    | quoted => exact absurd (List.cons.inj he).2.symm (ne_of_isFieldChar hne hc rfl _ _)
    | bracket => cases he
  | quoted hb =>
    cases h' with
    | star => cases he
    | named hne hc => exact absurd (List.cons.inj he).2 (ne_of_isFieldChar hne hc rfl _ _)
    | quoted hb' => exact .inl (hb.append_inj hb' (List.cons.inj (List.cons.inj he).2).2)
    | bracket => cases he
  | bracket hb =>
    cases h' with
    | bracket hb' => exact .inl (hb.append_inj hb' (List.cons.inj he).2)
    | _ => cases he

/-- Where both lead to one path, an expression with more written behind it has more tokens behind
its own: no element is called by two names. -/
theorem Spells.prefix_of_leads {s rest : List Char} {tokens others : List PathToken}
    (h : Spells s tokens) (h' : Spells (s ++ rest) others) {path : List String}
    (hl : Leads tokens path) (hl' : Leads others path) : tokens <+: others := by
  induction h generalizing others path with
  | nil => exact List.nil_prefix
  | @cons text s token tokens ht _ ih =>
    generalize he : text ++ s ++ rest = whole at h'
    rw [List.append_assoc] at he
    cases h' with
    | nil =>
      cases ht <;> cases he
    | @cons text' after token' others' ht' hs' =>
      cases hl with
      | cons ha hl =>
        cases hl' with
        | cons ha' hl' =>
          obtain ⟨rfl, rfl⟩ | ⟨name, name', rfl, rfl, hne⟩ := ht.append_cases ht' he.symm
          · exact (List.prefix_cons_inj token').mpr (ih hs' hl hl')
          · exact absurd (Eq.trans (Eq.symm ha') ha) hne

/-- The tokens of an expression stand before those of one that goes on behind it, if both lead to
one path. -/
theorem prefix_of_parse_append {parent text : String} {tokens others : List PathToken}
    (hp : parse parent = .ok tokens) (hc : parse (parent ++ text) = .ok others) {path : List String}
    (hl : Leads tokens path) (hl' : Leads others path) : tokens <+: others := by
  obtain ⟨-, rfl⟩ | ⟨s, rest, hs, rfl, hspell⟩ := parse_eq_ok_iff.mp hp
  · exact List.nil_prefix
  · have hall : (parent ++ text).toList = '$' :: (s ++ text.toList) := by
      rw [String.toList_append, hs, List.cons_append]
    obtain ⟨he, -⟩ | ⟨s', rest', hs', rfl, hspell'⟩ := parse_eq_ok_iff.mp hc
    · rw [he] at hall
      cases hall
    · cases hall.symm.trans hs'
      cases hl with
      | cons _ hl =>
        cases hl' with
        | cons _ hl' =>
          exact (List.prefix_cons_inj PathToken.root).mpr (hspell.prefix_of_leads hspell' hl hl')

end Path

namespace RuleSet

open HttpContract.Path

variable {s : RuleSet} {path : List String} {found : Option RuleGroup}

/-! ## The key that is chosen -/

def ranked (path : List String) (groups : RuleGroups) :
    Result (List ((String × RuleGroup) × (Nat × Nat))) :=
  groups.mapM fun e => do return (e, ← rank path e.1)

def chosen (s : RuleSet) (path : List String) : Result (Option (String × RuleGroup)) := do
  let entries ← ranked path (← s.applicable "body" path)
  return highest? entries

theorem highest_map {α β : Type} (f : α → β) (top : α × (Nat × Nat))
    (rest : List (α × (Nat × Nat))) :
    highest (f top.1, top.2) (rest.map fun e => (f e.1, e.2)) = f (highest top rest) := by
  induction rest generalizing top with
  | nil => rfl
  | cons e rest ih =>
    rw [List.map_cons, highest, highest]
    cases isAbove e.2 top.2 with
    | true => exact ih e
    | false => exact ih top

theorem mapM_rank (path : List String) (groups : RuleGroups) :
    (groups.mapM fun e => do return (e.2, ← rank path e.1)) =
      (ranked path groups).map (List.map fun x => (x.1.2, x.2)) := by
  induction groups with
  | nil => rfl
  | cons e groups ih =>
    rw [ranked, List.mapM_cons, List.mapM_cons, ih, ranked]
    cases rank path e.1 with
    | error _ => rfl
    | ok r =>
      cases List.mapM (fun e => do return (e, ← rank path e.1)) groups with
      | error _ => rfl
      | ok entries => rfl

theorem best_eq_chosen (s : RuleSet) (path : List String) :
    s.best "body" path = (s.chosen path).map (Option.map Prod.snd) := by
  rw [best_body, chosen]
  cases s.applicable "body" path with
  | error _ => rfl
  | ok groups =>
    show (do
      let ranked ← groups.mapM fun e => do return (e.2, ← rank path e.1)
      return highest? ranked : Result (Option RuleGroup)) =
        Except.map _ (do return highest? (← ranked path groups))
    rw [mapM_rank]
    cases ranked path groups with
    | error _ => rfl
    | ok entries =>
      cases entries with
      | nil => rfl
      | cons top others => exact congrArg (Except.ok ∘ some) (highest_map Prod.snd top others)

theorem exists_parse_of_best (hbest : s.best "body" path = .ok found) :
    ∀ e ∈ s.category "body", ∃ tokens, parse e.1 = .ok tokens := by
  obtain ⟨groups, hg, -⟩ := exists_of_bind_ok hbest
  intro e he
  obtain ⟨b, hb⟩ := exists_filterM_ok_iff.mp ⟨groups, hg⟩ e he
  rw [applies, if_pos rfl] at hb
  obtain ⟨tokens, hkey, -⟩ := exists_of_bind_ok hb
  exact ⟨tokens, hkey⟩

/-- Where a group applies, one is chosen, and no key that applies ranks above its key. -/
theorem exists_chosen (hbest : s.best "body" path = .ok found) {own : String × RuleGroup}
    (hown : own ∈ s.category "body") (happ : applies "body" path own.1 = .ok true) :
    ∃ e, s.chosen path = .ok (some e) ∧ found = some e.2
      ∧ ∃ r r', rank path own.1 = .ok r ∧ rank path e.1 = .ok r' ∧ isAbove r r' = false := by
  have hkeys := exists_parse_of_best hbest
  obtain ⟨groups, hg, -⟩ := exists_of_bind_ok hbest
  obtain ⟨rankOf, hr⟩ := exists_rank hkeys hg
  obtain ⟨tokens, hkey⟩ := hkeys own hown
  have hmem : own ∈ groups :=
    (mem_applicable_iff hkeys hg own).mpr ⟨hown, tokens, hkey, leads_of_applies hkey happ⟩
  have hranked : ranked path groups = .ok (groups.map fun e => (e, rankOf e)) := by
    refine mapM_ok fun e he => ?_
    rw [hr e he]
    rfl
  have hchosen : s.chosen path = .ok (highest? (groups.map fun e => (e, rankOf e))) := by
    rw [chosen, hg]
    show (do return highest? (← ranked path groups)) = _
    rw [hranked]
    rfl
  cases groups with
  | nil => cases hmem
  | cons first rest =>
    obtain ⟨top, htop, hhighest, hmax⟩ :=
      highest_max (first, rankOf first) (rest.map fun e => (e, rankOf e))
    rw [← List.map_cons (f := fun e => (e, rankOf e))] at htop hmax
    obtain ⟨e, he, rfl⟩ := List.mem_map.mp htop
    rw [List.map_cons, highest?, hhighest] at hchosen
    refine ⟨e, hchosen, ?_, rankOf own, rankOf e, hr own hmem, hr e he, ?_⟩
    · rw [best_eq_chosen, hchosen] at hbest
      exact (Except.ok.inj hbest).symm
    · exact hmax (own, rankOf own) (List.mem_map_of_mem hmem)

/-! ## Ancestors and descendants -/

/-- A key that goes on behind another one ranks above it. -/
theorem isAbove_of_append {above rest : String} (hne : rest ≠ "") {tokens others : List PathToken}
    (hkey : parse above = .ok tokens) (hother : parse (above ++ rest) = .ok others)
    (hl : tokens ≠ [] ∧ Leads tokens path) (hl' : others ≠ [] ∧ Leads others path) :
    ∃ r r', rank path above = .ok r ∧ rank path (above ++ rest) = .ok r' ∧ isAbove r' r = true := by
  refine ⟨_, _, rank_of_leads hkey hl.1 hl.2, rank_of_leads hother hl'.1 hl'.2, ?_⟩
  have hprefix := prefix_of_parse_append hkey hother hl.2 hl'.2
  have hcount : 2 ^ tokens.countP PathToken.isLiteral ≤ 2 ^ others.countP PathToken.isLiteral :=
    Nat.pow_le_pow_right Nat.zero_lt_two hprefix.sublist.countP_le
  have hrest : 0 < rest.length :=
    Nat.pos_of_ne_zero fun h => hne (String.length_eq_zero_iff.mp h)
  rw [String.length_append]
  simp only [isAbove, Bool.or_eq_true, Bool.and_eq_true, decide_eq_true_eq]
  omega

/-- Of two keys that apply to a path of a body, the one that goes on behind the other ranks above
it; so where a choice is made, and the longer key has a group, the key that is chosen is not the
shorter one. -/
theorem descendant_outranks (hbest : s.best "body" path = .ok found) {above rest : String}
    (hne : rest ≠ "") (hbelow : above ++ rest ∈ Keyed.keys (s.category "body"))
    (habove : above ∈ Keyed.keys (s.category "body"))
    (happ : applies "body" path above = .ok true)
    (happ' : applies "body" path (above ++ rest) = .ok true) :
    (∃ r r', rank path above = .ok r ∧ rank path (above ++ rest) = .ok r' ∧ isAbove r' r = true)
    ∧ ∃ e, s.chosen path = .ok (some e) ∧ found = some e.2 ∧ e.1 ≠ above := by
  obtain ⟨parent, hparent, rfl⟩ := List.mem_map.mp habove
  obtain ⟨own, hown, hkey⟩ := List.mem_map.mp hbelow
  obtain ⟨tokens, ht⟩ := exists_parse_of_best hbest parent hparent
  obtain ⟨others, ho⟩ := exists_parse_of_best hbest own hown
  rw [← hkey] at happ' ⊢
  obtain ⟨r, r', hr, hr', hup⟩ := isAbove_of_append hne ht (hkey ▸ ho) (leads_of_applies ht happ)
    (leads_of_applies ho happ')
  rw [← hkey] at hr'
  obtain ⟨e, hchosen, hfound, r₁, r₂, hown', he, hmax⟩ := exists_chosen hbest hown happ'
  refine ⟨⟨r, r', hr, hr', hup⟩, e, hchosen, hfound, ?_⟩
  intro hsame
  cases hr'.symm.trans hown'
  rw [hsame] at he
  cases hr.symm.trans he
  rw [hup] at hmax
  cases hmax

def listRules : RuleSet :=
  [("body", [("$.items", ⟨[.minType 2], .all⟩), ("$.items[*]", ⟨[.type], .all⟩)])]

/-- At an item both keys apply with the same weight, and the one of the items counts. -/
theorem descendant_outranks_item :
    let path := ["$", "items", "0"]
    listRules.best "body" path = .ok (some ⟨[.type], .all⟩)
    ∧ applies "body" path "$.items" = .ok true
    ∧ applies "body" path ("$.items" ++ "[*]") = .ok true
    ∧ (∃ r r', rank path "$.items" = .ok r ∧ rank path ("$.items" ++ "[*]") = .ok r'
      ∧ isAbove r' r = true)
    ∧ ∃ e, listRules.chosen path = .ok (some e)
      ∧ some (⟨[.type], .all⟩ : RuleGroup) = some e.2 ∧ e.1 ≠ "$.items" := by
  intro path
  have hbest : listRules.best "body" path = .ok (some ⟨[.type], .all⟩) :=
    eq_ok_of_toOption (by decide +kernel)
  have happ : applies "body" path "$.items" = .ok true := eq_ok_of_toOption (by decide +kernel)
  have happ' : applies "body" path ("$.items" ++ "[*]") = .ok true :=
    eq_ok_of_toOption (by decide +kernel)
  exact ⟨hbest, happ, happ',
    descendant_outranks hbest (by decide) (by decide) (by decide) happ happ'⟩

end RuleSet

end HttpContract
