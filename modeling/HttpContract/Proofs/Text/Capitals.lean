import HttpContract.Text.Case

/-!
Text in capitals stays as it is when it is written in capitals again. The tables are compared run
by run, not character by character: what a run moves to meets no run and no spelling.
-/
namespace HttpContract.Text

open CaseTable

def InRun (r : Nat × Nat × Nat × Int) (n : Nat) : Prop :=
  r.1 ≤ n ∧ n ≤ r.2.1 ∧ (n - r.1) % r.2.2.1 = 0

structure Unmoved (n : Nat) : Prop where
  runs : ∀ r ∈ upperRuns.toList, ¬InRun r n
  spellings : ∀ e ∈ upperSpellings.toList, e.1 ≠ n

/-! ## Comparing runs -/

def apart (first last step : Nat) (r : Nat × Nat × Nat × Int) : Bool :=
  Nat.blt last r.1 || Nat.blt r.2.1 first
    || (Nat.beq r.2.2.1 2 && (Nat.beq step 2 || Nat.beq first last)
      && Nat.beq ((first + r.1) % 2) 1)

def misses (first last step n : Nat) : Bool :=
  Nat.blt n first || Nat.blt last n || (Nat.beq step 2 && Nat.beq ((first + n) % 2) 1)

def clear (first last step : Nat) : Bool :=
  upperRuns.toList.all (apart first last step)
    && upperSpellings.toList.all fun e => misses first last step e.1

theorem not_inRun_of_apart {first last step n : Nat} {r : Nat × Nat × Nat × Int}
    (h : apart first last step r = true) (hn : InRun (first, last, step, 0) n) : ¬InRun r n := by
  obtain ⟨hf, hl, hm⟩ := hn
  rintro ⟨hf', hl', hm'⟩
  simp only [apart, Bool.or_eq_true, Bool.and_eq_true, Nat.blt_eq, Nat.beq_eq] at h
  dsimp only at hf hl hm
  obtain (h | h) | ⟨⟨h, hs⟩, hp⟩ := h
  · omega
  · omega
  · -- Steps of two with ends of unlike parity never meet.
    rw [h] at hm'
    rcases hs with rfl | rfl <;> omega

theorem ne_of_misses {first last step n m : Nat} (h : misses first last step m = true)
    (hn : InRun (first, last, step, 0) n) : m ≠ n := by
  obtain ⟨hf, hl, hm⟩ := hn
  rintro rfl
  simp only [misses, Bool.or_eq_true, Bool.and_eq_true, Nat.blt_eq, Nat.beq_eq] at h
  dsimp only at hf hl hm
  obtain (h | h) | ⟨rfl, hp⟩ := h <;> omega

theorem unmoved_of_clear {first last step n : Nat} (h : clear first last step = true)
    (hn : InRun (first, last, step, 0) n) : Unmoved n := by
  simp only [clear, Bool.and_eq_true, List.all_eq_true] at h
  exact ⟨fun r hr => not_inRun_of_apart (h.1 r hr) hn, fun e he => ne_of_misses (h.2 e he) hn⟩

/-! ## The tables -/

def landsClear (r : Nat × Nat × Nat × Int) : Bool :=
  (Nat.beq r.2.2.1 1 || Nat.beq r.2.2.1 2) && decide (0 ≤ (r.1 : Int) + r.2.2.2)
    && clear (Int.toNat (r.1 + r.2.2.2)) (Int.toNat (r.2.1 + r.2.2.2)) r.2.2.1

theorem runs_landClear : upperRuns.toList.all landsClear = true := by decide +kernel

theorem spellings_clear :
    (upperSpellings.toList.all fun e => e.2.all fun n => clear n n 1) = true := by decide +kernel

theorem ascii_clear : (clear 0 0x60 1 && clear 0x7b 0x7f 1) = true := by decide +kernel

theorem small_mem_upperRuns : (0x61, 0x7a, 1, -32) ∈ upperRuns.toList := by decide +kernel

theorem unmoved_of_ascii {n : Nat} (h : n ≤ 0x60 ∨ 0x7b ≤ n ∧ n ≤ 0x7f) : Unmoved n := by
  have hc := ascii_clear
  rw [Bool.and_eq_true] at hc
  rcases h with h | ⟨h, h'⟩
  · exact unmoved_of_clear hc.1 ⟨Nat.zero_le n, h, Nat.mod_one _⟩
  · exact unmoved_of_clear hc.2 ⟨h, h', Nat.mod_one _⟩

theorem toNat_ofNat (n : Nat) : (Char.ofNat n).toNat = n ∨ (Char.ofNat n).toNat = 0 := by
  by_cases h : n.isValidChar
  · exact .inl (congrArg Char.toNat (dif_pos h : Char.ofNat n = _))
  · exact .inr (congrArg Char.toNat (dif_neg h : Char.ofNat n = _))

/-- A number that is no code point makes the character zero. -/
theorem unmoved_ofNat {n : Nat} (h : Unmoved n) : Unmoved (Char.ofNat n).toNat := by
  obtain hn | hn := toNat_ofNat n
  · rwa [hn]
  · rw [hn]
    exact unmoved_of_ascii (.inl (Nat.zero_le _))

theorem unmoved_of_inRun {n : Nat} {r : Nat × Nat × Nat × Int} (hr : r ∈ upperRuns.toList)
    (hn : InRun r n) : Unmoved (Int.toNat (n + r.2.2.2)) := by
  have hc := List.all_eq_true.mp runs_landClear r hr
  simp only [landsClear, Bool.and_eq_true, Bool.or_eq_true, Nat.beq_eq, decide_eq_true_eq] at hc
  obtain ⟨⟨hs, h0⟩, hc⟩ := hc
  obtain ⟨hf, hl, hm⟩ := hn
  refine unmoved_of_clear hc ⟨?_, ?_, ?_⟩
  · dsimp only
    omega
  · dsimp only
    omega
  · dsimp only
    rcases hs with hs | hs
    · rw [hs, Nat.mod_one]
    · rw [hs] at hm ⊢
      omega

/-! ## Characters -/

theorem moved_cases (c : Char) :
    (∃ r ∈ upperRuns.toList, InRun r c.toNat
      ∧ moved upperRuns c = Char.ofNat (Int.toNat (c.toNat + r.2.2.2)))
    ∨ ((∀ r ∈ upperRuns.toList, ¬InRun r c.toNat) ∧ moved upperRuns c = c) := by
  unfold moved
  rw [← Array.find?_toList]
  cases h : upperRuns.toList.find? _ with
  | some r =>
    have hr := List.find?_some h
    simp only [Bool.and_eq_true, decide_eq_true_eq, beq_iff_eq] at hr
    exact .inl ⟨r, List.mem_of_find?_eq_some h, ⟨hr.1.1, hr.1.2, hr.2⟩, rfl⟩
  | none =>
    refine .inr ⟨fun r hr hn => ?_, rfl⟩
    have hf := List.find?_eq_none.mp h r hr
    simp only [Bool.and_eq_true, decide_eq_true_eq, beq_iff_eq] at hf
    exact hf ⟨⟨hn.1, hn.2.1⟩, hn.2.2⟩

theorem upper_cons (c : Char) (s : List Char) : upper (c :: s) = upper [c] ++ upper s := by
  unfold upper
  rw [List.flatMap_cons, List.flatMap_singleton]

/-- The capitals of a character are those of its spelling, or what its run moves it to. -/
theorem upper_singleton (c : Char) :
    (∃ e ∈ upperSpellings.toList, e.1 = c.toNat ∧ upper [c] = e.2.map Char.ofNat)
    ∨ (∃ r ∈ upperRuns.toList, InRun r c.toNat
      ∧ upper [c] = [Char.ofNat (Int.toNat (c.toNat + r.2.2.2))])
    ∨ (Unmoved c.toNat ∧ upper [c] = [c]) := by
  unfold upper
  rw [List.flatMap_singleton]
  split
  · rename_i hc
    unfold upperChar
    rw [if_pos hc]
    split
    · rename_i hs
      refine .inr (.inl ⟨_, small_mem_upperRuns, ⟨hs.1, hs.2, Nat.mod_one _⟩, ?_⟩)
      have : Int.toNat ((c.toNat : Int) + -32) = c.toNat - 0x20 := by omega
      rw [this]
    · exact .inr (.inr ⟨unmoved_of_ascii (by omega), rfl⟩)
  · rename_i hc
    rw [← Array.find?_toList]
    cases h : upperSpellings.toList.find? _ with
    | some e =>
      have he : e.1 = c.toNat := by simpa using List.find?_some h
      exact .inl ⟨e, List.mem_of_find?_eq_some h, he, rfl⟩
    | none =>
      dsimp only
      unfold upperChar
      rw [if_neg hc]
      obtain ⟨r, hr, hn, hm⟩ | ⟨hn, hm⟩ := moved_cases c
      · exact .inr (.inl ⟨r, hr, hn, by rw [hm]⟩)
      · refine .inr (.inr ⟨⟨hn, fun e he => ?_⟩, by rw [hm]⟩)
        simpa using List.find?_eq_none.mp h e he

theorem upper_of_unmoved {c : Char} (h : Unmoved c.toNat) : upper [c] = [c] := by
  obtain ⟨e, he, hc, -⟩ | ⟨r, hr, hn, -⟩ | ⟨-, hu⟩ := upper_singleton c
  · exact absurd hc (h.spellings e he)
  · exact absurd hn (h.runs r hr)
  · exact hu

theorem unmoved_of_mem_upper {s : List Char} {d : Char} (h : d ∈ upper s) : Unmoved d.toNat := by
  induction s with
  | nil => exact absurd h List.not_mem_nil
  | cons c s ih =>
    rw [upper_cons, List.mem_append] at h
    obtain h | h := h
    · obtain ⟨e, he, -, hu⟩ | ⟨r, hr, hn, hu⟩ | ⟨hn, hu⟩ := upper_singleton c
      · rw [hu, List.mem_map] at h
        obtain ⟨n, hn, rfl⟩ := h
        have hc := List.all_eq_true.mp (List.all_eq_true.mp spellings_clear e he) n hn
        exact unmoved_ofNat (unmoved_of_clear hc ⟨Nat.le_refl n, Nat.le_refl n, Nat.mod_one _⟩)
      · rw [hu, List.mem_singleton] at h
        rw [h]
        exact unmoved_ofNat (unmoved_of_inRun hr hn)
      · rw [hu, List.mem_singleton] at h
        rwa [h]
    · exact ih h

theorem upper_eq_self {s : List Char} (h : ∀ c ∈ s, Unmoved c.toNat) : upper s = s := by
  induction s with
  | nil => rfl
  | cons c s ih =>
    rw [upper_cons, upper_of_unmoved (h c List.mem_cons_self),
      ih fun d hd => h d (List.mem_cons_of_mem c hd)]
    rfl

theorem upper_upper (s : List Char) : upper (upper s) = upper s :=
  upper_eq_self fun _ => unmoved_of_mem_upper

theorem upperText_upperText (s : String) : upperText (upperText s) = upperText s := by
  unfold upperText
  rw [String.toList_ofList, upper_upper]

end HttpContract.Text
