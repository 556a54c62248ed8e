import HttpContract.Example
import HttpContract.Proofs.Json.Inherited
import HttpContract.Proofs.Matching.Defined

/-!
Examples against the rules that they are given with. Each satisfies its own rule if it can be
written, but for decimal numbers that are written without a fraction: the rule for decimal numbers
does not take them for one.
-/
namespace HttpContract

theorem Text.contains_self (s : List Char) : contains s s = true := by
  cases s with
  | nil => rfl
  | cons c rest =>
    rw [contains, Bool.or_eq_true]
    exact .inl (List.isPrefixOf_iff_prefix.mpr List.prefix_rfl)

namespace Comparison

theorem inclusion_self (path : List String) (s : String) :
    inclusion s path (.text s) (.text s) = .ok [] := by
  show (if Text.contains s.toList s.toList then .ok [] else _ : Outcome) = .ok []
  rw [Text.contains_self, if_pos rfl]

end Comparison

namespace Example

inductive Declared : Example → Prop
  | like {v : Value} (hv : v.isJsonKind = true) : Declared (like v)
  | string (s : String) : Declared (string (.text s))
  | integer (n : Int) : Declared (integer (.int n))
  | decimal_real (negative : Bool) (m : Nat) (e : Int) :
    Declared (decimal (.real (.finite negative m e)))
  | decimal (negative : Bool) (c : Nat) (e : Int) :
    Declared (decimal (.decimal (.finite negative c e)))
  | number (n : Int) : Declared (number (.int n))
  | number_real (negative : Bool) (m : Nat) (e : Int) :
    Declared (number (.real (.finite negative m e)))
  | boolean (b : Bool) : Declared (boolean (.bool b))
  | inclusion (part : String) : Declared (inclusion part)
  | ofProviderState (expression : String) {v : Value} (hv : v.isJsonKind = true)
    (hleaf : v.isCollection = false) : Declared (ofProviderState expression v)

/-- A decimal number that is not zero and written without a fraction, given for a decimal number. -/
def IsWholeDecimal (ex : Example) : Prop :=
  ex.rule = some (.number .decimal)
    ∧ ∃ negative c e, ex.value = .decimal (.finite negative c e) ∧ c ≠ 0 ∧ 0 ≤ e

def SatisfiedIff (ex : Example) (condition : Prop) : Prop :=
  ∃ rule, ex.rule = some rule ∧ ∀ path, rule.check path ex.value ex.value = .ok [] ↔ condition

variable {ex : Example}

theorem of_type (hrule : ex.rule = some .type) (hv : ex.value.isJsonKind = true) :
    ex.SatisfiedIff (ex.value.isWritable = true ∧ ¬ex.IsWholeDecimal) := by
  have hdecimal : ¬ex.IsWholeDecimal := fun h => by cases hrule.symm.trans h.1
  refine ⟨_, hrule, fun path => ?_⟩
  rw [and_iff_left hdecimal, ← Value.exists_described_iff]
  exact Comparison.type_self_iff hv path

theorem of_number {kind : NumberKind} (hrule : ex.rule = some (.number kind))
    (hv : ex.value ≠ .null)
    (hkind : Comparison.isOfKind ex.value kind = .ok true ↔ ¬ex.IsWholeDecimal) :
    ex.SatisfiedIff (ex.value.isWritable = true ∧ ¬ex.IsWholeDecimal) :=
  ⟨_, hrule, fun path =>
    (Comparison.number_nil_iff path kind hv).trans (and_congr_right fun _ => hkind)⟩

/-- Nothing but a decimal number can be written without a fraction and refused for it. -/
theorem not_isWholeDecimal (h : ∀ d, ex.value ≠ .decimal d) : ¬ex.IsWholeDecimal := by
  rintro ⟨-, negative, c, e, hv, -⟩
  exact h _ hv

theorem of_other_number {kind : NumberKind} (hrule : ex.rule = some (.number kind))
    (hv : ex.value ≠ .null) (hd : ∀ d, ex.value ≠ .decimal d)
    (hkind : Comparison.isOfKind ex.value kind = .ok true) :
    ex.SatisfiedIff (ex.value.isWritable = true ∧ ¬ex.IsWholeDecimal) :=
  of_number hrule hv (iff_of_true hkind (not_isWholeDecimal hd))

theorem isDecimal_iff_not_whole (negative : Bool) (c : Nat) (e : Int) :
    Comparison.isDecimal (.decimal (.finite negative c e)) = .ok true ↔
      ¬(decimal (.decimal (.finite negative c e))).IsWholeDecimal := by
  rw [Comparison.isDecimal, Except.ok.injEq, Bool.or_eq_true, decide_eq_true_iff, decide_eq_true_iff]
  constructor
  · rintro h ⟨-, _, _, _, hv, hc, he⟩
    cases hv
    omega
  · intro h
    by_contra hne
    rw [not_or, Int.not_lt] at hne
    exact h ⟨rfl, _, _, _, rfl, hne.1, hne.2⟩

/-- An example satisfies the rule that it is given with exactly if it can be written and is no decimal
number without a fraction. -/
theorem satisfies_own_rule (h : ex.Declared) :
    ex.SatisfiedIff (ex.value.isWritable = true ∧ ¬ex.IsWholeDecimal) := by
  cases h with
  | like hv => exact of_type rfl hv
  | string s => exact of_type rfl rfl
  | boolean b => exact of_type rfl rfl
  | ofProviderState expression hv => exact of_type rfl hv
  | integer n => exact of_other_number rfl Value.noConfusion (fun _ => Value.noConfusion) rfl
  | number n => exact of_other_number rfl Value.noConfusion (fun _ => Value.noConfusion) rfl
  | number_real negative m e =>
    exact of_other_number rfl Value.noConfusion (fun _ => Value.noConfusion) rfl
  | decimal_real negative m e =>
    exact of_other_number rfl Value.noConfusion (fun _ => Value.noConfusion) rfl
  | decimal negative c e =>
    exact of_number rfl Value.noConfusion (isDecimal_iff_not_whole negative c e)
  | inclusion part =>
    refine ⟨_, rfl, fun path => iff_of_true (Comparison.inclusion_self path part) ⟨?_, ?_⟩⟩
    · exact Value.isWritable_of_shown rfl
    · exact not_isWholeDecimal fun _ => Value.noConfusion

/-- A price of 1.50. -/
theorem satisfies_own_rule_price :
    let price := decimal (.decimal (.finite false 150 (-2)))
    price.Declared ∧ (Rule.number .decimal).check ["$"] price.value price.value = .ok [] := by
  intro price
  have hprice : price.Declared := .decimal false 150 (-2)
  obtain ⟨rule, hrule, h⟩ := satisfies_own_rule hprice
  cases hrule
  refine ⟨hprice, (h ["$"]).mpr ⟨Value.isWritable_of_shown rfl, ?_⟩⟩
  rintro ⟨-, _, _, _, hv, -, he⟩
  cases hv
  exact absurd he (by decide)

/-- A decimal number of five, written without a fraction, is refused by the rule that comes with it. -/
theorem whole_decimal_refused :
    let five := decimal (.decimal (.finite false 5 0))
    five.Declared ∧ five.rule = some (.number .decimal) ∧ ∃ m,
      (Rule.number .decimal).check ["$"] five.value five.value = .ok [m] := by
  intro five
  obtain ⟨s, hs⟩ : ∃ s, five.value.described = .ok s :=
    Value.exists_described_iff.mpr (Value.isWritable_of_shown rfl)
  refine ⟨.decimal false 5 0, rfl, ?_⟩
  show ∃ m, Comparison.number .decimal ["$"] five.value five.value = .ok [m]
  rw [Comparison.number_of_ne_null _ _ Value.noConfusion, hs]
  exact ⟨_, rfl⟩

end Example

end HttpContract
