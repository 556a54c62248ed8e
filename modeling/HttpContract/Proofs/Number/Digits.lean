import HttpContract.Number.Integer
import HttpContract.Proofs.Text.ClassRuns
import Mathlib.Algebra.Group.Nat.Defs

/-!
Numbers written in decimal digits are read back, up to the limit on their digits.
-/
namespace HttpContract

open Text

theorem Text.trimWhile_eq_self {p : Char → Bool} {s : List Char} (h : ∀ c ∈ s, p c = false) :
    trimWhile p s = s := by
  have kept (t : List Char) (ht : ∀ c ∈ t, p c = false) : dropEndWhile p t = t := by
    induction t with
    | nil => rfl
    | cons c t ih =>
      rw [dropEndWhile, ih fun d hd => ht d (List.mem_cons_of_mem c hd)]
      cases t with
      | nil => simp [ht c List.mem_cons_self]
      | cons d t => rfl
  cases s with
  | nil => rfl
  | cons c s =>
    rw [trimWhile, List.dropWhile_cons, h c List.mem_cons_self]
    exact kept _ h

theorem Text.splitAt_of_not_mem {sep : Char} {s : List Char} (h : sep ∉ s) :
    splitAt sep s = [s] := by
  induction s with
  | nil => rfl
  | cons c s ih =>
    rw [List.mem_cons, not_or] at h
    rw [splitAt, if_neg (Ne.symm h.1), ih h.2]

namespace Number

theorem isAsciiDigit_of_mem_digitsOf {n : Nat} {c : Char} (h : c ∈ digitsOf n) :
    isAsciiDigit c = true := by
  have hc : c.isDigit = true := Nat.isDigit_of_mem_toDigits (by decide) (by decide) h
  simp only [Char.isDigit, Bool.and_eq_true, decide_eq_true_eq, UInt32.le_iff_toNat_le] at hc
  simp only [isAsciiDigit, Bool.and_eq_true, decide_eq_true_eq]
  exact hc

theorem toList_toString (n : Nat) : (toString n).toList = digitsOf n := String.toList_ofList

theorem digitsOf_ne_nil (n : Nat) : digitsOf n ≠ [] := Nat.toDigits_ne_nil

theorem ofDigits_digitsOf (n : Nat) : ofDigits (digitsOf n) = n :=
  Nat.ofDigitChars_toDigits (by decide) (by decide)

theorem length_digitsOf_le_iff {n k : Nat} (h : 0 < k) :
    (digitsOf n).length ≤ k ↔ n < 10 ^ k := Nat.length_toDigits_le_iff (by decide) h

/-- So many digits stand for a number below that power of ten. -/
theorem ofDigits_lt {s : List Char} (h : ∀ c ∈ s, isAsciiDigit c = true) :
    ofDigits s < 10 ^ s.length := by
  -- The number read so far leaves room for one digit after the other.
  have room (n : Nat) :
      s.foldl (fun n c => 10 * n + (c.toNat - 0x30)) n < (n + 1) * 10 ^ s.length := by
    induction s generalizing n with
    | nil => simp
    | cons c s ih =>
      obtain ⟨hc, hs⟩ := List.forall_mem_cons.mp h
      simp only [isAsciiDigit, Bool.and_eq_true, decide_eq_true_eq] at hc
      calc s.foldl (fun n c => 10 * n + (c.toNat - 0x30)) (10 * n + (c.toNat - 0x30))
          < (10 * n + (c.toNat - 0x30) + 1) * 10 ^ s.length := ih hs _
        _ ≤ ((n + 1) * 10) * 10 ^ s.length := Nat.mul_le_mul_right _ (by omega)
        _ = (n + 1) * 10 ^ (s.length + 1) := by rw [Nat.mul_assoc, Nat.pow_succ']
  simpa [ofDigits] using room 0

theorem isDigit_of_isAsciiDigit {c : Char} (h : isAsciiDigit c = true) : isDigit c = true := by
  simp only [isAsciiDigit, Bool.and_eq_true, decide_eq_true_eq] at h
  have hd : isDecimalDigit c = true := by
    unfold isDecimalDigit decimalDigit?
    rw [if_pos (by omega), if_pos h]
    rfl
  rw [isDigit, hd, Bool.true_or]

/-- A decimal digit of any script is written as one of ASCII, and no other digit is. -/
theorem isAsciiDigit_plainDigit {c : Char} (h : isDigit c = true) :
    isAsciiDigit (plainDigit c) = isDecimalDigit c := by
  by_cases hc : c.toNat < 0x80
  · have hlike : digitLikeRuns.any (fun r => r.1 ≤ c.toNat && c.toNat ≤ r.2) = false := by
      have hruns : ∀ r ∈ digitLikeRuns, 0x80 ≤ r.1 := by decide
      refine List.any_eq_false.mpr fun r hr => ?_
      have := hruns r hr
      simp only [Bool.and_eq_true, decide_eq_true_eq]
      omega
    rw [isDigit, hlike, Bool.or_false] at h
    rw [plainDigit, if_pos hc, h]
    simpa [isDecimalDigit, decimalDigit?, hc, isAsciiDigit] using h
  · rw [plainDigit, if_neg hc, isDecimalDigit]
    cases hd : decimalDigit? c with
    | some d =>
      have hlt : d < 10 := by
        rw [decimalDigit?, if_neg hc] at hd
        dsimp only at hd
        split at hd
        · cases hd
          exact Nat.mod_lt _ (by decide)
        · cases hd
      have hdigits : ∀ d < 10, isAsciiDigit (Char.ofNat (0x30 + d)) = true := by decide
      exact hdigits d hlt
    | none =>
      simp only [isAsciiDigit, Option.isSome_none, Bool.and_eq_false_iff, decide_eq_false_iff_not]
      omega

theorem isDigit_plainDigit {c : Char} (h : isDigit c = true) : isDigit (plainDigit c) = true := by
  cases hd : isDecimalDigit c with
  | true => exact isDigit_of_isAsciiDigit ((isAsciiDigit_plainDigit h).trans hd)
  | false =>
    have hn : decimalDigit? c = none := by simpa [isDecimalDigit] using hd
    have hc : plainDigit c = c := by
      rw [plainDigit, hn]
      split <;> rfl
    rw [hc]
    exact h

theorem plainDigit_of_isAsciiDigit {c : Char} (h : isAsciiDigit c = true) : plainDigit c = c := by
  simp only [isAsciiDigit, Bool.and_eq_true, decide_eq_true_eq] at h
  exact if_pos (by omega)

theorem readSign_of_digits {s : List Char} (h : ∀ c ∈ s, isDigit c = true) :
    readSign s = (false, s) := by
  unfold readSign
  split
  · cases h '-' List.mem_cons_self
  · cases h '+' List.mem_cons_self
  · rfl

/-- Digits are read as a number unless one of them is no decimal digit, or there are too many. -/
theorem readInteger_of_isDigit {s : List Char} (hne : s ≠ []) (h : ∀ c ∈ s, isDigit c = true) :
    readInteger s =
      if s.all isDecimalDigit ∧ s.length ≤ digitLimit then some (ofDigits (s.map plainDigit) : Int)
      else none := by
  have htrim : trimWhile isNumberBlank s = s :=
    trimWhile_eq_self fun c hc => isNumberBlank_of_isDigit (h c hc)
  have hplain : ∀ c ∈ s.map plainDigit, isDigit c = true := by
    intro d hd
    obtain ⟨c, hc, rfl⟩ := List.mem_map.mp hd
    exact isDigit_plainDigit (h c hc)
  have hsplit : splitAt '_' (s.map plainDigit) = [s.map plainDigit] :=
    splitAt_of_not_mem fun hm => by cases hplain '_' hm
  have hall : (s.map plainDigit).all isAsciiDigit = s.all isDecimalDigit := by
    rw [List.all_map, Bool.eq_iff_iff, List.all_eq_true, List.all_eq_true]
    refine forall_congr' fun c => forall_congr' fun hc => ?_
    rw [Function.comp, isAsciiDigit_plainDigit (h c hc)]
  have hempty : (s.map plainDigit).isEmpty = false := by simpa using hne
  rw [readInteger, htrim, readSign_of_digits hplain]
  simp only [readGroups, hsplit, List.all_cons, hall, hempty, List.flatten_cons]
  by_cases hl : s.length ≤ digitLimit <;> cases s.all isDecimalDigit <;> simp [hl]

theorem readInteger_of_digits {s : List Char} (hne : s ≠ [])
    (h : ∀ c ∈ s, isAsciiDigit c = true) :
    readInteger s = if s.length ≤ digitLimit then some (ofDigits s : Int) else none := by
  have hdigit : ∀ c ∈ s, isDigit c = true := fun c hc => isDigit_of_isAsciiDigit (h c hc)
  have hplain : s.map plainDigit = s :=
    (List.map_congr_left fun c hc => plainDigit_of_isAsciiDigit (h c hc)).trans (List.map_id' s)
  have hall : s.all isDecimalDigit = true := List.all_eq_true.mpr fun c hc => by
    rw [← isAsciiDigit_plainDigit (hdigit c hc), plainDigit_of_isAsciiDigit (h c hc), h c hc]
  rw [readInteger_of_isDigit hne hdigit, hplain, hall]
  simp only [true_and]

theorem readInteger_digitsOf (n : Nat) :
    readInteger (digitsOf n) = if n < 10 ^ digitLimit then some (n : Int) else none := by
  rw [readInteger_of_digits (digitsOf_ne_nil n) fun c => isAsciiDigit_of_mem_digitsOf,
    ofDigits_digitsOf]
  simp only [length_digitsOf_le_iff (show 0 < digitLimit by decide)]

theorem readGroups_digitsOf (n : Nat) :
    readGroups (digitsOf n) = if n < 10 ^ digitLimit then some n else none := by
  have hall : (digitsOf n).all isAsciiDigit = true :=
    List.all_eq_true.mpr fun c => isAsciiDigit_of_mem_digitsOf
  have hsplit : splitAt '_' (digitsOf n) = [digitsOf n] :=
    splitAt_of_not_mem fun h => Bool.noConfusion (isAsciiDigit_of_mem_digitsOf h)
  have hempty : (digitsOf n).isEmpty = false := by simpa using digitsOf_ne_nil n
  have hlimit : (digitsOf n).length ≤ digitLimit ↔ n < 10 ^ digitLimit :=
    length_digitsOf_le_iff (by decide)
  simp [readGroups, hsplit, hall, hempty, ofDigits_digitsOf, hlimit]

/-- Integers are read back from their text, unless they have too many digits. -/
theorem readInteger_integerText {n : Int} (h : isPrintableInteger n = true) :
    readInteger (integerText n) = some n := by
  rw [isPrintableInteger, decide_eq_true_iff, Nat.pow_eq] at h
  unfold integerText
  split
  · have hblank : ∀ c ∈ '-' :: digitsOf n.natAbs, isNumberBlank c = false :=
      List.forall_mem_cons.mpr ⟨by decide, fun c hc =>
        isNumberBlank_of_isDigit (isDigit_of_isAsciiDigit (isAsciiDigit_of_mem_digitsOf hc))⟩
    have hplain : ('-' :: digitsOf n.natAbs).map plainDigit = '-' :: digitsOf n.natAbs :=
      congrArg ('-' :: ·) ((List.map_congr_left fun c hc =>
        plainDigit_of_isAsciiDigit (isAsciiDigit_of_mem_digitsOf hc)).trans (List.map_id' _))
    rw [readInteger, trimWhile_eq_self hblank, hplain]
    simp only [readSign, readGroups_digitsOf, if_pos h, if_true]
    exact congrArg some (show -(n.natAbs : Int) = n by omega)
  · rw [readInteger_digitsOf, if_pos h]
    exact congrArg some (by omega)

/-- No other digits follow a zero in front. -/
theorem eq_nil_of_digitsOf {n : Nat} {rest : List Char} (h : digitsOf n = '0' :: rest) :
    rest = [] := by
  cases rest with
  | nil => rfl
  | cons c rest =>
    have hn : n = ofDigits (c :: rest) := by
      rw [← ofDigits_digitsOf n, h]
      rfl
    have hdigits : ∀ d ∈ c :: rest, isAsciiDigit d = true := fun d hd =>
      isAsciiDigit_of_mem_digitsOf (h ▸ List.mem_cons_of_mem _ hd)
    have hlength : (digitsOf n).length ≤ (c :: rest).length :=
      (length_digitsOf_le_iff (Nat.succ_pos _)).mpr (hn ▸ ofDigits_lt hdigits)
    rw [h, List.length_cons] at hlength
    omega

end Number

end HttpContract
