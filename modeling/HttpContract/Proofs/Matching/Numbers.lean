import HttpContract.Proofs.Matching.Defined

/-!
The rule for all numbers beside the rules for integers and for decimal numbers. It accepts what one of
the two accepts, but for elements: of a text without a point it takes nothing for a number but a single
zero, while the rule for integers takes every numeral.
-/
namespace HttpContract

open Comparison (isOfKind isNumeral isDecimalNumeral elementText)

/-! ## Numerals -/

namespace Comparison

theorem not_mem_of_isNumeral {s : List Char} (h : isNumeral s = true) : '.' ∉ s := by
  rw [isNumeral, Bool.and_eq_true, List.all_eq_true] at h
  intro hmem
  exact absurd (h.2 '.' hmem) (by decide)

/-- Of the numerals without a point, a single zero is a decimal one. -/
theorem isDecimalNumeral_iff_of_isNumeral {s : List Char} (h : isNumeral s = true) :
    isDecimalNumeral s = true ↔ s = ['0'] := by
  rw [isDecimalNumeral, Text.cutAt_of_not_mem (not_mem_of_isNumeral h), Bool.or_false, beq_iff_eq]

end Comparison

def Value.IsWholeNumeral (v : Value) : Prop :=
  ∃ e, v = .element e ∧ isNumeral (elementText e) = true ∧ elementText e ≠ ['0']

theorem Value.isWholeNumeral_element_iff {e : Element} : (element e).IsWholeNumeral ↔
    isNumeral (elementText e) = true ∧ elementText e ≠ ['0'] := by
  simp [IsWholeNumeral]

/-! ## The three rules -/

/-- A decimal number is whole, if it is not one that is written with a fraction. -/
theorem Number.Decimal.isWhole_or_isDecimal (negative : Bool) (c : Nat) (e : Int) :
    (finite negative c e).isWhole = true
      ∨ isOfKind (.decimal (finite negative c e)) .decimal = .ok true := by
  by_cases he : e < 0
  · refine .inr (congrArg Except.ok ?_)
    rw [decide_eq_true he, Bool.or_true]
  · refine .inl ?_
    have hle : decide (0 ≤ e) = true := decide_eq_true (Int.not_lt.mp he)
    rw [isWhole, hle, Bool.or_true, Bool.true_or]

namespace Comparison

variable {e a : Value}

theorem isOfKind_integer_of_isWholeNumeral (h : a.IsWholeNumeral) :
    isOfKind a .integer = .ok true := by
  obtain ⟨element, rfl, hnumeral, -⟩ := h
  exact congrArg Except.ok hnumeral

/-- Of all values with digits, only numerals of elements are taken for integers and not for numbers. -/
theorem isOfKind_number_iff (hdigits : ∀ d, a = .decimal d → d.isFinite = true) :
    isOfKind a .number = .ok true ↔
      (isOfKind a .integer = .ok true ∨ isOfKind a .decimal = .ok true) ∧ ¬a.IsWholeNumeral := by
  cases a with
  | int n =>
    refine iff_of_true rfl ⟨.inl rfl, ?_⟩
    rintro ⟨_, ⟨⟩, -⟩
  | real x =>
    refine iff_of_true rfl ⟨.inr rfl, ?_⟩
    rintro ⟨_, ⟨⟩, -⟩
  | decimal d =>
    cases d with
    | finite negative c e =>
      have hkinds := Number.Decimal.isWhole_or_isDecimal negative c e
      refine iff_of_true rfl ⟨hkinds.imp_left (congrArg Except.ok), ?_⟩
      rintro ⟨_, ⟨⟩, -⟩
    | infinite | nan => cases hdigits _ rfl
  | element e =>
    simp only [isOfKind, isAnyNumber, isInteger, isDecimal, Except.ok.injEq,
      Value.isWholeNumeral_element_iff]
    by_cases hnumeral : isNumeral (elementText e) = true
    · rw [isDecimalNumeral_iff_of_isNumeral hnumeral]
      tauto
    · tauto
  | _ =>
    refine iff_of_false (fun h => ?_) fun h => ?_
    · cases h
    · rcases h.1 with h | h <;> cases h

/-- The rule for all numbers accepts what the rule for integers or that for decimal numbers accepts,
exactly if the value is no element with a numeral other than a single zero; that one is accepted as an
integer. -/
theorem number_iff_integer_or_decimal (path : List String) (he : e ≠ .null)
    (hdigits : ∀ d, a = .decimal d → d.isFinite = true) :
    (((Rule.number .number).check path e a = .ok [] ↔
        (Rule.number .integer).check path e a = .ok [] ∨ (Rule.number .decimal).check path e a = .ok [])
      ↔ ¬a.IsWholeNumeral)
    ∧ (a.IsWholeNumeral → (Rule.number .integer).check path e a = .ok []) := by
  have hcheck (kind : NumberKind) : (Rule.number kind).check path e a = .ok [] ↔
      a.isWritable = true ∧ isOfKind a kind = .ok true := number_nil_iff path kind he
  have hinteger (h : a.IsWholeNumeral) : (Rule.number .integer).check path e a = .ok [] := by
    refine (hcheck .integer).mpr ⟨?_, isOfKind_integer_of_isWholeNumeral h⟩
    obtain ⟨element, rfl, -⟩ := h
    exact Value.isWritable_of_shown rfl
  refine ⟨?_, hinteger⟩
  rw [hcheck] at hinteger
  rw [hcheck, hcheck, hcheck, isOfKind_number_iff hdigits]
  tauto

/-- A decimal number of five, which counts as an integer. -/
theorem number_iff_integer_or_decimal_five :
    let shown : Value := .int 1
    let five : Value := .decimal (.finite false 5 0)
    shown ≠ .null ∧ (∀ d, five = .decimal d → d.isFinite = true)
      ∧ ((Rule.number .number).check ["$"] shown five = .ok [] ↔
        (Rule.number .integer).check ["$"] shown five = .ok []
          ∨ (Rule.number .decimal).check ["$"] shown five = .ok []) := by
  have hshown : Value.int 1 ≠ .null := nofun
  have hdigits : ∀ d, Value.decimal (.finite false 5 0) = .decimal d → d.isFinite = true := by
    rintro _ ⟨⟩
    rfl
  refine ⟨hshown, hdigits, (number_iff_integer_or_decimal ["$"] hshown hdigits).1.mpr ?_⟩
  rintro ⟨_, ⟨⟩, -⟩

/-- An element with the text 12 is an integer and no number. -/
theorem numeral_refused_as_number :
    let twelve : Value := .element (.mk "n" [] (some "12") none [])
    (Rule.number .integer).check ["$"] (.int 1) twelve = .ok []
      ∧ ∃ m, (Rule.number .number).check ["$"] (.int 1) twelve = .ok [m] :=
  ⟨rfl, _, rfl⟩

end Comparison

end HttpContract
