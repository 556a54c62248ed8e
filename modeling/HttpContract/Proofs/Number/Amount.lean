import HttpContract.Proofs.Value.Equality
import Mathlib.Algebra.Field.Rat
import Mathlib.Algebra.GroupWithZero.Basic
import Mathlib.Algebra.Order.Field.Power
import Mathlib.Data.Rat.Cast.Order
import Mathlib.Tactic.Linarith
import Mathlib.Tactic.Positivity
import Mathlib.Tactic.Ring

/-!
What finite numbers amount to, as fractions. Numbers are compared by a form whose coefficient ends in
no zero; so the amount tells the form, and numbers of all types are equal exactly if they amount to
the same.
-/
namespace HttpContract

namespace Number

def signed (negative : Bool) (q : ℚ) : ℚ := if negative then -q else q

theorem signed_eq_zero_iff {negative : Bool} {q : ℚ} : signed negative q = 0 ↔ q = 0 := by
  cases negative <;> simp [signed]

/-- A number that is not zero tells its sign and its magnitude. -/
theorem signed_inj {m n : Bool} {p q : ℚ} (hp : 0 < p) (hq : 0 < q)
    (h : signed m p = signed n q) : m = n ∧ p = q := by
  cases m <;> cases n <;> simp only [signed, Bool.false_eq_true, if_true, if_false] at h
  · exact ⟨rfl, h⟩
  · linarith
  · linarith
  · exact ⟨rfl, neg_inj.mp h⟩

def Real64.amount? : Real64 → Option ℚ
  | .finite negative m e => some (signed negative (m * 2 ^ e))
  | _ => none

def Decimal.amount? : Decimal → Option ℚ
  | .finite negative c e => some (signed negative (c * 10 ^ e))
  | _ => none

/-! ## Coefficients without zeros at their end -/

/-- As many zeros as a number has binary digits are all of its zeros. -/
theorem dropZeros_mod_ne (steps : Nat) {n : Nat} (e : Int) (hn : n ≠ 0) (h : n < 2 ^ (steps + 1)) :
    (dropZeros steps n e).1 % 10 ≠ 0 := by
  induction steps generalizing n e with
  | zero =>
    have hone : n = 1 := by omega
    simp [dropZeros, hone]
  | succ steps ih =>
    by_cases hz : n % 10 = 0
    · rw [dropZeros, if_pos hz]
      refine ih (e + 1) (by omega) ?_
      rw [Nat.pow_succ] at h
      omega
    · rw [dropZeros, if_neg hz]
      exact hz

/-- The larger of two exponents can be taken down to the smaller one. -/
theorem eq_mul_pow_of_le {c d : Nat} {e k : Int} (hle : e ≤ k)
    (h : (c : ℚ) * 10 ^ e = d * 10 ^ k) : c = d * 10 ^ (k - e).toNat := by
  have hsplit : (10 : ℚ) ^ k = 10 ^ (k - e).toNat * 10 ^ e := by
    rw [← zpow_natCast, Int.toNat_of_nonneg (by omega), ← zpow_add₀ (by norm_num)]
    congr 1
    omega
  rw [hsplit, ← mul_assoc] at h
  have hten : (10 : ℚ) ^ e ≠ 0 := zpow_ne_zero e (by norm_num)
  exact_mod_cast mul_right_cancel₀ hten h

theorem exponent_le {c d : Nat} {e k : Int} (hc : c % 10 ≠ 0)
    (h : (c : ℚ) * 10 ^ e = d * 10 ^ k) : k ≤ e := by
  by_contra hlt
  obtain ⟨n, hn⟩ : ∃ n, (k - e).toNat = n + 1 := ⟨(k - e).toNat - 1, by omega⟩
  have hcd := eq_mul_pow_of_le (by omega) h
  rw [hn, Nat.pow_succ, ← Nat.mul_assoc] at hcd
  exact hc (hcd ▸ Nat.mul_mod_left _ _)

theorem signed_zero_iff (negative : Bool) (c : Nat) (e : Int) :
    signed negative ((c : ℚ) * 10 ^ e) = 0 ↔ c = 0 := by
  have hten : (10 : ℚ) ^ e ≠ 0 := zpow_ne_zero e (by norm_num)
  rw [signed_eq_zero_iff, mul_eq_zero_iff_right hten, Nat.cast_eq_zero]

theorem mul_ten_inj {c d : Nat} {e k : Int} (hc : c % 10 ≠ 0) (hd : d % 10 ≠ 0)
    (h : (c : ℚ) * 10 ^ e = d * 10 ^ k) : c = d ∧ e = k := by
  obtain rfl : e = k := le_antisymm (exponent_le hd h.symm) (exponent_le hc h)
  have hcd := eq_mul_pow_of_le le_rfl h
  rw [Int.sub_self] at hcd
  exact ⟨hcd.trans (Nat.mul_one d), rfl⟩

namespace Form

def amount? : Form → Option ℚ
  | .finite negative c e => some (signed negative (c * 10 ^ e))
  | _ => none

def IsReduced : Form → Prop
  | .finite negative c e => if c = 0 then negative = false ∧ e = 0 else c % 10 ≠ 0
  | _ => True

theorem isReduced_ofPower (negative : Bool) (c : Nat) (e : Int) : (ofPower negative c e).IsReduced := by
  unfold ofPower
  split
  · exact ⟨rfl, rfl⟩
  · rename_i hc
    have hmod := dropZeros_mod_ne (Nat.log2 c) e hc Nat.lt_log2_self
    have hne : (dropZeros (Nat.log2 c) c e).1 ≠ 0 := by omega
    show if (dropZeros (Nat.log2 c) c e).1 = 0 then _ else _
    rw [if_neg hne]
    exact hmod

/-- Dropping zeros changes the form of a number and not what it amounts to. -/
theorem amount?_ofPower (negative : Bool) (c : Nat) (e : Int) :
    (ofPower negative c e).amount? = some (signed negative (c * 10 ^ e)) := by
  unfold ofPower
  split
  · rename_i hc
    cases negative <;> simp [amount?, signed, hc]
  · obtain ⟨d, k, hd, hdc⟩ := exists_dropZeros (Nat.log2 c) c e
    have hvalue : (d : ℚ) * 10 ^ (e + k) = c * 10 ^ e := by
      rw [← hdc, zpow_add₀ (by norm_num), zpow_natCast]
      push_cast
      ring
    simp only [hd, amount?, hvalue]

/-- Of reduced forms the amount tells which one it is. -/
theorem eq_of_amount {f g : Form} (hf : f.IsReduced) (hg : g.IsReduced) {q : ℚ}
    (hfq : f.amount? = some q) (hgq : g.amount? = some q) : f = g := by
  cases f with
  | nan | signaling | infinite => cases hfq
  | finite m c e =>
    cases g with
    | nan | signaling | infinite => cases hgq
    | finite n d k =>
      have hsame : signed m (c * 10 ^ e) = signed n (d * 10 ^ k) :=
        Option.some.inj (hfq.trans hgq.symm)
      have hzero : c = 0 ↔ d = 0 := by
        rw [← signed_zero_iff m c e, hsame, signed_zero_iff]
      by_cases hc : c = 0
      · have hd : d = 0 := hzero.mp hc
        rw [IsReduced, if_pos hc] at hf
        rw [IsReduced, if_pos hd] at hg
        rw [hc, hd, hf.1, hf.2, hg.1, hg.2]
      · have hd : d ≠ 0 := mt hzero.mpr hc
        rw [IsReduced, if_neg hc] at hf
        rw [IsReduced, if_neg hd] at hg
        obtain ⟨rfl, hmagnitude⟩ := signed_inj (by positivity) (by positivity) hsame
        obtain ⟨rfl, rfl⟩ := mul_ten_inj hf hg hmagnitude
        rfl

/-- Forms that amount to something are compared by what they amount to. -/
theorem equal_of_amount {f g : Form} (hf : f.IsReduced) (hg : g.IsReduced) {p q : ℚ}
    (hfp : f.amount? = some p) (hgq : g.amount? = some q) : f.equal g = .ok (decide (p = q)) := by
  have hsame : f = g ↔ p = q := by
    constructor
    · rintro rfl
      exact Option.some.inj (hfp.symm.trans hgq)
    · rintro rfl
      exact eq_of_amount hf hg hfp hgq
  cases f with
  | nan | signaling | infinite => cases hfp
  | finite m c e =>
    cases g with
    | nan | signaling | infinite => cases hgq
    | finite n d k => exact congrArg Except.ok (decide_eq_decide.mpr hsame)

end Form

/-! ## Numbers of each type -/

theorem Form.amount?_intForm (n : Int) : (intForm n).amount? = some (n : ℚ) := by
  rw [intForm, amount?_ofPower, zpow_zero, mul_one, signed, Nat.cast_natAbs]
  by_cases hn : n < 0
  · rw [decide_eq_true hn, if_pos rfl, abs_of_neg hn, Int.cast_neg, neg_neg]
  · rw [decide_eq_false hn, if_neg Bool.false_ne_true, abs_of_nonneg (not_lt.mp hn)]

/-- A fraction of a power of two is a fraction of the same power of ten. -/
theorem Real64.amount?_form (x : Real64) : x.form.amount? = x.amount? := by
  cases x with
  | nan | infinite => rfl
  | finite negative m e =>
    rw [form, amount?]
    split
    · rename_i he
      have hpow : (2 : ℚ) ^ e = 2 ^ e.toNat := by
        rw [← zpow_natCast, Int.toNat_of_nonneg he]
      rw [Form.amount?_ofPower, zpow_zero, mul_one, hpow, Nat.pow_eq, Nat.cast_mul, Nat.cast_pow]
      rfl
    · rename_i he
      have hpow : (5 : ℚ) ^ (-e).toNat * 10 ^ e = 2 ^ e := by
        rw [← zpow_natCast, Int.toNat_of_nonneg (by omega), show (10 : ℚ) = 5 * 2 by norm_num,
          mul_zpow, ← mul_assoc, ← zpow_add₀ (by norm_num), neg_add_cancel, zpow_zero, one_mul]
      rw [Form.amount?_ofPower, ← hpow, ← mul_assoc, Nat.pow_eq, Nat.cast_mul, Nat.cast_pow]
      rfl

theorem Real64.isReduced_form (x : Real64) : x.form.IsReduced := by
  cases x with
  | nan | infinite => trivial
  | finite negative m e =>
    rw [form]
    split <;> exact Form.isReduced_ofPower _ _ _

theorem Decimal.amount?_form (d : Decimal) : d.form.amount? = d.amount? := by
  cases d with
  | infinite => rfl
  | nan negative signaling payload => cases signaling <;> rfl
  | finite negative c e => exact Form.amount?_ofPower negative c e

theorem Decimal.isReduced_form (d : Decimal) : d.form.IsReduced := by
  cases d with
  | infinite => trivial
  | nan negative signaling payload => cases signaling <;> trivial
  | finite negative c e => exact Form.isReduced_ofPower negative c e

end Number

namespace Value

/-- What a number amounts to. Truth values amount to nothing unless they are `counted`: then they are
the numbers 0 and 1. -/
def amount? (counted : Bool) : Value → Option ℚ
  | bool b => if counted then some (if b then 1 else 0) else none
  | int n => some n
  | real x => x.amount?
  | decimal d => d.amount?
  | _ => none

/-- What amounts to something as a counted number has a form that tells the amount. -/
theorem exists_form_of_amount {v : Value} {q : ℚ} (h : v.amount? true = some q) :
    ∃ f, numberForm? v = some f ∧ f.IsReduced ∧ f.amount? = some q := by
  cases v with
  | bool b =>
    refine ⟨_, rfl, Number.Form.isReduced_ofPower _ _ _, ?_⟩
    rw [Number.Form.amount?_intForm, ← h]
    cases b <;> simp [amount?]
  | int n => exact ⟨_, rfl, Number.Form.isReduced_ofPower _ _ _, (Number.Form.amount?_intForm n).trans h⟩
  | real x => exact ⟨_, rfl, x.isReduced_form, x.amount?_form.trans h⟩
  | decimal d => exact ⟨_, rfl, d.isReduced_form, d.amount?_form.trans h⟩
  | _ => cases h

/-- Numbers of all types, and truth values with them, are compared by what they amount to. -/
theorem same_of_amount {v w : Value} {p q : ℚ} (hv : v.amount? true = some p)
    (hw : w.amount? true = some q) : same v w = decide (p = q) := by
  obtain ⟨f, hf, hfr, hfp⟩ := exists_form_of_amount hv
  obtain ⟨g, hg, hgr, hgq⟩ := exists_form_of_amount hw
  have hforms : equal v w = f.equal g := by
    cases v <;> cases w <;> cases hf <;> cases hg <;> rfl
  rw [same, hforms, Number.Form.equal_of_amount hfr hgr hfp hgq]

end Value

end HttpContract
