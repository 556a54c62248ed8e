import HttpContract.Proofs.Matching.Applicable

/-!
A key that names a place of the body, element by element and to its end, is not passed over for one
that leaves an element open or stops above the place: each literal token doubles the weight, so that
only such keys reach the greatest weight there is for a path.
-/
namespace HttpContract

namespace Path

/-- The tokens stand for this path alone: none is left open, there is one for every element, and
they match. -/
structure Names (tokens : List PathToken) (path : List String) : Prop where
  literal : ∀ token ∈ tokens, token.isLiteral = true
  length_eq : tokens.length = path.length
  matchLength_eq : matchLength tokens path = .ok path.length

variable {tokens : List PathToken} {path : List String}

theorem Names.leads (h : Names tokens path) (hne : path ≠ []) : tokens ≠ [] ∧ Leads tokens path := by
  obtain ⟨hn, hl, -⟩ | ⟨-, -, hm⟩ | ⟨-, hm⟩ := matchLength_cases tokens path
  · exact ⟨hn, hl⟩
  · have hz : path.length = 0 := Except.ok.inj (h.matchLength_eq.symm.trans hm)
    exact absurd (List.eq_nil_of_length_eq_zero hz) hne
  · cases h.matchLength_eq.symm.trans hm

theorem Names.countP_eq (h : Names tokens path) :
    tokens.countP PathToken.isLiteral = path.length :=
  (List.countP_eq_length.mpr h.literal).trans h.length_eq

/-- Tokens that lead to a path and have a literal for each of its elements name it. -/
theorem Leads.names (h : Leads tokens path) (hne : tokens ≠ [])
    (hcount : path.length ≤ tokens.countP PathToken.isLiteral) : Names tokens path := by
  have hlength : tokens.length = path.length :=
    Nat.le_antisymm h.length_le (Nat.le_trans hcount List.countP_le_length)
  have hall : tokens.countP PathToken.isLiteral = tokens.length :=
    Nat.le_antisymm List.countP_le_length (hlength ▸ hcount)
  exact ⟨List.countP_eq_length.mp hall, hlength, hlength ▸ h.matchLength_eq hne⟩

end Path

namespace RuleSet

open HttpContract.Path

variable {s : RuleSet} {path : List String} {found : Option RuleGroup}

/-- No key that leads to the path has more literal tokens than the one whose group counts. -/
theorem exists_of_best_body (hkeys : ∀ e ∈ s.category "body", ∃ tokens, parse e.1 = .ok tokens)
    (hbest : s.best "body" path = .ok found) {own : String × RuleGroup} {tokens : List PathToken}
    (hown : own ∈ s.category "body") (hkey : parse own.1 = .ok tokens)
    (hleads : tokens ≠ [] ∧ Leads tokens path) :
    ∃ e ∈ s.category "body", ∃ others, parse e.1 = .ok others ∧ others ≠ [] ∧ Leads others path
      ∧ tokens.countP PathToken.isLiteral ≤ others.countP PathToken.isLiteral
      ∧ found = some e.2 := by
  obtain ⟨groups, hg, -⟩ := exists_of_bind_ok hbest
  obtain ⟨rankOf, hr⟩ := exists_rank hkeys hg
  have hmem : own ∈ groups := (mem_applicable_iff hkeys hg own).mpr ⟨hown, tokens, hkey, hleads⟩
  rw [best_of_applicable hg hr] at hbest
  have hranked : (own.2, rankOf own) ∈ groups.map fun e => (e.2, rankOf e) := List.mem_map_of_mem hmem
  generalize hentries : groups.map (fun e => (e.2, rankOf e)) = entries at hbest hranked
  cases entries with
  | nil => cases hranked
  | cons top rest =>
    obtain ⟨best, hin, hhighest, hmax⟩ := highest_max top rest
    rw [← hentries] at hin
    obtain ⟨e, he, rfl⟩ := List.mem_map.mp hin
    obtain ⟨hbody, others, hother, hne, hl⟩ := (mem_applicable_iff hkeys hg e).mp he
    refine ⟨e, hbody, others, hother, hne, hl, ?_,
      (Except.ok.inj hbest).symm.trans (congrArg some hhighest)⟩
    have hup : isAbove (rankOf own) (rankOf e) = false := hmax _ hranked
    have hrank : rankOf own = (2 ^ tokens.countP PathToken.isLiteral, own.1.length) :=
      Except.ok.inj ((hr own hmem).symm.trans (rank_of_leads hkey hleads.1 hleads.2))
    have hrank' : rankOf e = (2 ^ others.countP PathToken.isLiteral, e.1.length) :=
      Except.ok.inj ((hr e he).symm.trans (rank_of_leads hother hne hl))
    rw [hrank, hrank', isAbove, Bool.or_eq_false_iff, decide_eq_false_iff_not, Nat.not_lt] at hup
    exact (Nat.pow_le_pow_iff_right Nat.one_lt_two).mp hup.1

/-- Where a key names the path, the group that counts stands under a key that does. -/
theorem best_names (hkeys : ∀ e ∈ s.category "body", ∃ tokens, parse e.1 = .ok tokens)
    (hne : path ≠ []) (hbest : s.best "body" path = .ok found) {own : String × RuleGroup}
    {tokens : List PathToken} (hown : own ∈ s.category "body") (hkey : parse own.1 = .ok tokens)
    (hnames : Names tokens path) :
    ∃ e ∈ s.category "body", (∃ others, parse e.1 = .ok others ∧ Names others path)
      ∧ found = some e.2 := by
  obtain ⟨e, he, others, hother, hn, hl, hcount, hfound⟩ :=
    exists_of_best_body hkeys hbest hown hkey (hnames.leads hne)
  rw [hnames.countP_eq] at hcount
  exact ⟨e, he, ⟨others, hother, hl.names hn hcount⟩, hfound⟩

def itemRules : RuleSet :=
  [("body", [("$.items[*].id", ⟨[.type], .all⟩), ("$.items", ⟨[.null], .all⟩),
    ("$.items[0].id", ⟨[.number .integer], .all⟩)])]

/-- The rule for the first item counts, though the other two apply and stand before it. -/
theorem best_names_first_item :
    itemRules.best "body" ["$", "items", "0", "id"] = .ok (some ⟨[.number .integer], .all⟩)
    ∧ Names [.root, .field "items", .index 0, .field "id"] ["$", "items", "0", "id"]
    ∧ ∃ e ∈ itemRules.category "body",
      (∃ others, parse e.1 = .ok others ∧ Names others ["$", "items", "0", "id"])
      ∧ some ⟨[.number .integer], .all⟩ = some e.2 := by
  have hstar : parse "$.items[*].id" = .ok [.root, .field "items", .starIndex, .field "id"] :=
    eq_ok_of_toOption (by decide +kernel)
  have habove : parse "$.items" = .ok [.root, .field "items"] :=
    eq_ok_of_toOption (by decide +kernel)
  have hfirst : parse "$.items[0].id" = .ok [.root, .field "items", .index 0, .field "id"] :=
    eq_ok_of_toOption (by decide +kernel)
  have hbest : itemRules.best "body" ["$", "items", "0", "id"]
      = .ok (some ⟨[.number .integer], .all⟩) := eq_ok_of_toOption (by decide +kernel)
  have hnames : Names [.root, .field "items", .index 0, .field "id"] ["$", "items", "0", "id"] :=
    ⟨by decide, rfl, eq_ok_of_toOption (by decide +kernel)⟩
  have hown : ("$.items[0].id", ⟨[.number .integer], .all⟩) ∈ itemRules.category "body" :=
    List.mem_of_getElem? (i := 2) rfl
  refine ⟨hbest, hnames, best_names ?_ (by decide) hbest hown hfirst hnames⟩
  exact List.forall_mem_cons.mpr ⟨⟨_, hstar⟩, List.forall_mem_cons.mpr ⟨⟨_, habove⟩,
      List.forall_mem_singleton.mpr ⟨_, hfirst⟩⟩⟩

end RuleSet

end HttpContract
