import HttpContract.Text.Blank
import HttpContract.Text.CharClass
import Mathlib.Algebra.Group.Nat.Defs

/-!
Which run of code points the search in the table of categories finds: the last one that does not
begin after the code point. White space lies in no run of decimal digits.
-/
namespace HttpContract.Text

/-! ## The search by halving -/

section Halving

variable {runs : Array Nat} {c : Nat}

def Begun (runs : Array Nat) (c i : Nat) : Prop := ∃ r, runs[i]? = some r ∧ r / 8 ≤ c

def halve (runs : Array Nat) (c i step : Nat) : Nat :=
  match runs[i + step]? with
  | some r => if r / 8 ≤ c then i + step else i
  | none => i

theorem begun_halve {i step : Nat} (h : Begun runs c i) (hn : ¬Begun runs c (i + 2 * step)) :
    Begun runs c (halve runs c i step) ∧ ¬Begun runs c (halve runs c i step + step) := by
  by_cases hs : Begun runs c (i + step)
  · have hm : halve runs c i step = i + step := by
      obtain ⟨r, hr, hle⟩ := hs
      simp only [halve, hr, if_pos hle]
    rw [hm, Nat.add_assoc, ← Nat.two_mul]
    exact ⟨hs, hn⟩
  · have hm : halve runs c i step = i := by
      unfold halve
      split
      · rename_i r hr
        exact if_neg fun hle => hs ⟨r, hr, hle⟩
      · rfl
    rw [hm]
    exact ⟨h, hs⟩

/-- Halving ends at a run that has begun, before one that has not. -/
theorem begun_foldl_halve {k i : Nat} (h : Begun runs c i) (hn : ¬Begun runs c (i + 2 ^ k)) :
    let j := ((List.range k).reverse.map (2 ^ ·)).foldl (halve runs c) i
    Begun runs c j ∧ ¬Begun runs c (j + 1) := by
  induction k generalizing i with
  | zero => exact ⟨h, hn⟩
  | succ k ih =>
    rw [Nat.pow_succ, Nat.mul_comm] at hn
    obtain ⟨h, hn⟩ := begun_halve h hn
    rw [List.range_succ, List.reverse_append, List.reverse_singleton, List.singleton_append,
      List.map_cons, List.foldl_cons]
    exact ih h hn

end Halving

namespace CharClass

open CategoryTable

theorem run_eq (c : Nat) :
    run c = runs[((List.range 12).reverse.map (2 ^ ·)).foldl (halve runs c) 0]?.getD 0 := by
  unfold run
  -- The table itself is not looked at.
  generalize runs = runs
  rfl

/-- The run of a code point begins there or before, and the next one begins after it. -/
theorem exists_run (c : Nat) : ∃ i, runs[i]? = some (run c) ∧ run c / 8 ≤ c ∧
    ∀ r, runs[i + 1]? = some r → c < r / 8 := by
  have hfirst : runs[0]? = some 0x6 := by decide +kernel
  have hsize : runs.size ≤ 2 ^ 12 := by decide +kernel
  rw [run_eq]
  generalize runs = runs at hfirst hsize ⊢
  have hn : ¬Begun runs c (0 + 2 ^ 12) := by
    rintro ⟨r, hr, -⟩
    rw [Array.getElem?_eq_none (by omega)] at hr
    cases hr
  obtain ⟨⟨r, hr, hle⟩, hn⟩ := begun_foldl_halve ⟨_, hfirst, Nat.zero_le c⟩ hn
  refine ⟨_, by rw [hr, Option.getD_some], by rw [hr]; exact hle, fun r hr => ?_⟩
  exact Nat.lt_of_not_le fun hle => hn ⟨r, hr, hle⟩

end CharClass

/-! ## White space and decimal digits -/

def blankCodes : List Nat :=
  List.range' 0x9 5 ++ [0x20, 0x85, 0xa0, 0x1680] ++ List.range' 0x2000 11
    ++ [0x2028, 0x2029, 0x202f, 0x205f, 0x3000]

def digitsApart : List Nat → Bool
  | a :: b :: rest =>
    (a % 8 != 2 || blankCodes.all fun n => Nat.blt n (a / 8) || Nat.ble (b / 8) n)
      && digitsApart (b :: rest)
  | [a] => a % 8 != 2
  | [] => true

theorem digitsApart_runs : digitsApart CategoryTable.runs.toList = true := by decide +kernel

theorem not_mem_of_digitsApart {l : List Nat} (h : digitsApart l = true) {i a : Nat}
    (ha : l[i]? = some a) (hd : a % 8 = 2) {n : Nat} (hle : a / 8 ≤ n)
    (hlt : ∀ b, l[i + 1]? = some b → n < b / 8) : n ∉ blankCodes := by
  induction l generalizing i with
  | nil => cases ha
  | cons d rest ih =>
    cases rest with
    | nil =>
      cases i with
      | zero =>
        cases ha
        simp [digitsApart, hd] at h
      | succ i => cases ha
    | cons e rest =>
      simp only [digitsApart, Bool.and_eq_true] at h
      cases i with
      | zero =>
        cases ha
        have hb := hlt e rfl
        simp only [hd, bne_self_eq_false, Bool.false_or, List.all_eq_true, Bool.or_eq_true,
          Nat.blt_eq, Nat.ble_eq] at h
        intro hn
        have := h.1 n hn
        omega
      | succ i => exact ih h.2 ha hlt

theorem not_mem_blankCodes_of_isDecimalDigit {c : Char} (h : isDecimalDigit c = true) :
    c.toNat ∉ blankCodes := by
  unfold isDecimalDigit decimalDigit? at h
  split at h
  · have hascii : ∀ n ∈ blankCodes, ¬(0x30 ≤ n ∧ n ≤ 0x39) := by decide
    split at h
    · exact fun hmem => hascii _ hmem ‹_›
    · cases h
  · dsimp only at h
    split at h
    · rename_i hd
      obtain ⟨i, hi, hle, hlt⟩ := CharClass.exists_run c.toNat
      rw [← Array.getElem?_toList] at hi
      exact not_mem_of_digitsApart digitsApart_runs hi hd hle
        fun b hb => hlt b (by rw [← Array.getElem?_toList]; exact hb)
    · cases h

/-- White space is no digit of any script. -/
theorem isNumberBlank_of_isDigit {c : Char} (h : isDigit c = true) : isNumberBlank c = false := by
  refine Bool.eq_false_iff.mpr fun hb => ?_
  have hmem : c.toNat ∈ blankCodes := by
    simp only [isNumberBlank, isBlank, Bool.or_eq_true, Bool.and_eq_true, Bool.not_eq_true',
      Bool.and_eq_false_iff, decide_eq_true_eq, decide_eq_false_iff_not] at hb
    simp only [blankCodes, List.mem_append, List.mem_range'_1, List.mem_cons, List.not_mem_nil,
      or_false]
    omega
  rw [isDigit, Bool.or_eq_true] at h
  rcases h with h | h
  · exact not_mem_blankCodes_of_isDecimalDigit h hmem
  · have hlike : ∀ n ∈ blankCodes, ∀ r ∈ digitLikeRuns, ¬(r.1 ≤ n ∧ n ≤ r.2) := by decide +kernel
    obtain ⟨r, hr, hle⟩ := List.any_eq_true.mp h
    simp only [Bool.and_eq_true, decide_eq_true_eq] at hle
    exact hlike _ hmem r hr hle

end HttpContract.Text
