import HttpContract.Matching.Selection
import HttpContract.Proofs.Success

/-!
The group that counts for a path in a body: where each key is known to apply or not, and one key
that applies is above all others that do, its group is the one.
-/
namespace HttpContract.RuleSet

theorem isAbove_irrefl (a : Nat × Nat) : isAbove a a = false := by
  simp [isAbove]

theorem not_isAbove_of_le {a b c : Nat × Nat} (hab : isAbove a b = false)
    (hbc : isAbove b c = false) : isAbove a c = false := by
  simp only [isAbove, Bool.or_eq_false_iff, Bool.and_eq_false_iff, decide_eq_false_iff_not] at *
  omega

theorem isAbove_asymm {a b : Nat × Nat} (h : isAbove a b = true) : isAbove b a = false := by
  simp only [isAbove, Bool.or_eq_true, Bool.and_eq_true, decide_eq_true_eq] at h
  simp only [isAbove, Bool.or_eq_false_iff, Bool.and_eq_false_iff, decide_eq_false_iff_not]
  omega

/-- The highest is one of the entries, and none of them is above it. -/
theorem highest_max {α : Type} (top : α × (Nat × Nat)) (rest : List (α × (Nat × Nat))) :
    ∃ e ∈ top :: rest, highest top rest = e.1 ∧ ∀ d ∈ top :: rest, isAbove d.2 e.2 = false := by
  induction rest generalizing top with
  | nil =>
    refine ⟨top, List.mem_cons_self, rfl, fun d hd => ?_⟩
    rw [List.mem_singleton.mp hd]
    exact isAbove_irrefl top.2
  | cons e rest ih =>
    rw [highest]
    cases hup : isAbove e.2 top.2 with
    | true =>
      obtain ⟨x, hx, heq, hmax⟩ := ih e
      have htop : isAbove top.2 x.2 = false :=
        not_isAbove_of_le (isAbove_asymm hup) (hmax e List.mem_cons_self)
      exact ⟨x, List.mem_cons_of_mem top hx, heq, List.forall_mem_cons.mpr ⟨htop, hmax⟩⟩
    | false =>
      obtain ⟨x, hx, heq, hmax⟩ := ih top
      obtain ⟨htop, hrest⟩ := List.forall_mem_cons.mp hmax
      refine ⟨x, ?_, heq, ?_⟩
      · exact (List.mem_cons.mp hx).elim (fun h => h ▸ List.mem_cons_self)
          fun h => List.mem_cons_of_mem top (List.mem_cons_of_mem e h)
      · exact List.forall_mem_cons.mpr ⟨htop, List.forall_mem_cons.mpr
          ⟨not_isAbove_of_le hup htop, hrest⟩⟩

theorem highest_eq {α : Type} {own top : α × (Nat × Nat)} {rest : List (α × (Nat × Nat))}
    (hown : own ∈ top :: rest) (h : ∀ e ∈ top :: rest, e = own ∨ isAbove own.2 e.2 = true) :
    highest top rest = own.1 := by
  obtain ⟨e, he, heq, hmax⟩ := highest_max top rest
  rcases h e he with rfl | hup
  · exact heq
  · rw [hmax own hown] at hup
    cases hup

def highest? {α : Type} : List (α × (Nat × Nat)) → Option α
  | [] => none
  | top :: rest => some (highest top rest)

/-- In a body the highest of all groups that apply counts. -/
theorem best_body (s : RuleSet) (path : List String) :
    s.best "body" path = (do
      let groups ← s.applicable "body" path
      let ranked ← groups.mapM fun e => do return (e.2, ← rank path e.1)
      return highest? ranked) := by
  rw [best]
  cases s.applicable "body" path with
  | error _ => rfl
  | ok groups =>
    cases groups with
    | nil => rfl
    | cons first rest =>
      refine congrArg (((first :: rest).mapM fun e => do return (e.2, ← rank path e.1)) >>= ·) ?_
      funext ranked
      cases ranked <;> rfl

variable {s : RuleSet} {path : List String}

/-- Of the groups that apply the highest counts, if their keys all have ranks. -/
theorem best_of_applicable {groups : RuleGroups} (hg : s.applicable "body" path = .ok groups)
    {rankOf : String × RuleGroup → Nat × Nat}
    (hr : ∀ e ∈ groups, rank path e.1 = .ok (rankOf e)) :
    s.best "body" path = .ok (match groups.map fun e => (e.2, rankOf e) with
      | [] => none
      | top :: rest => some (highest top rest)) := by
  have hranked : (groups.mapM fun e => do return (e.2, ← rank path e.1)) =
      .ok (groups.map fun e => (e.2, rankOf e)) := by
    refine mapM_ok fun e he => ?_
    rw [hr e he]
    rfl
  rw [best_body, hg]
  show (do
    let ranked ← groups.mapM fun e => do return (e.2, ← rank path e.1)
    return highest? ranked : Result (Option RuleGroup)) = _
  rw [hranked]
  cases groups <;> rfl

/-- Where every other key does not apply or ranks below, the group under this key counts. -/
theorem best_eq {own : String × RuleGroup} {top : Nat × Nat} (hown : own ∈ s.category "body")
    (happ : applies "body" path own.1 = .ok true) (htop : rank path own.1 = .ok top)
    (h : ∀ e ∈ s.category "body", e = own ∨ applies "body" path e.1 = .ok false
      ∨ applies "body" path e.1 = .ok true ∧ ∃ r, rank path e.1 = .ok r ∧ isAbove top r = true) :
    s.best "body" path = .ok (some own.2) := by
  -- No computation fails here, so that the choice is one by pure functions.
  let applied (e : String × RuleGroup) : Bool := (applies "body" path e.1).toOption.getD false
  let ranked (e : String × RuleGroup) : Nat × Nat := (rank path e.1).toOption.getD top
  have hranktop : ranked own = top := by
    simp only [ranked, htop]
    rfl
  have happlied : ∀ e ∈ s.category "body", applies "body" path e.1 = .ok (applied e) := by
    intro e he
    obtain rfl | he | ⟨he, -⟩ := h e he <;> simp only [applied, *] <;> rfl
  have hgroups : s.applicable "body" path = .ok ((s.category "body").filter applied) :=
    filterM_ok happlied
  have hmem : own ∈ (s.category "body").filter applied := by
    refine List.mem_filter.mpr ⟨hown, ?_⟩
    simp only [applied, happ]
    rfl
  have hranked : ∀ e ∈ (s.category "body").filter applied,
      rank path e.1 = .ok (ranked e) ∧ (e = own ∨ isAbove top (ranked e) = true) := by
    intro e he
    obtain ⟨he, happlied⟩ := List.mem_filter.mp he
    obtain rfl | he | ⟨-, r, hr, hup⟩ := h e he
    · exact ⟨htop.trans (congrArg Except.ok hranktop.symm), .inl rfl⟩
    · simp only [applied, he] at happlied
      cases happlied
    · simp only [ranked, hr]
      exact ⟨rfl, .inr hup⟩
  rw [best_of_applicable hgroups fun e he => (hranked e he).1]
  have hm : (own.2, top) ∈ ((s.category "body").filter applied).map fun e => (e.2, ranked e) :=
    List.mem_map.mpr ⟨own, hmem, congrArg (Prod.mk own.2) hranktop⟩
  have hup : ∀ e ∈ ((s.category "body").filter applied).map fun e => (e.2, ranked e),
      e = (own.2, top) ∨ isAbove top e.2 = true := by
    intro e he
    obtain ⟨d, hd, rfl⟩ := List.mem_map.mp he
    rcases (hranked d hd).2 with hd | hd
    · exact .inl (by rw [hd, hranktop])
    · exact .inr hd
  generalize ((s.category "body").filter applied).map (fun e => (e.2, ranked e)) = entries
    at hm hup ⊢
  cases entries with
  | nil => cases hm
  | cons first rest => exact congrArg (Except.ok ∘ some) (highest_eq hm hup)

end HttpContract.RuleSet
