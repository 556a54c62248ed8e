/-!
White space, and text without the white space at its ends.
-/
namespace HttpContract.Text

/-- The separators of Unicode, the line breaks, and the four information separators of ASCII. -/
def isBlank (c : Char) : Bool :=
  let n := c.toNat
  0x9 ≤ n && n ≤ 0xd || 0x1c ≤ n && n ≤ 0x20 || n = 0x85 || n = 0xa0 || n = 0x1680
    || 0x2000 ≤ n && n ≤ 0x200a || n = 0x2028 || n = 0x2029 || n = 0x202f || n = 0x205f
    || n = 0x3000

/-- White space around a number: as `isBlank`, without the information separators. -/
def isNumberBlank (c : Char) : Bool := isBlank c && !(0x1c ≤ c.toNat && c.toNat ≤ 0x1f)

def dropEndWhile (p : Char → Bool) : List Char → List Char
  | [] => []
  | c :: rest =>
    match dropEndWhile p rest with
    | [] => if p c then [] else [c]
    | kept => c :: kept

def trimWhile (p : Char → Bool) (s : List Char) : List Char :=
  dropEndWhile p (s.dropWhile p)

def trim (s : List Char) : List Char := trimWhile isBlank s

theorem dropEndWhile_append_of_last {p : Char → Bool} {c : Char} (h : p c = true) (s : List Char) :
    dropEndWhile p (s ++ [c]) = dropEndWhile p s := by
  induction s with
  | nil => simp [dropEndWhile, h]
  | cons d rest ih => simp only [List.cons_append, dropEndWhile, ih]

/-- What `dropEndWhile` keeps, followed by what it drops. -/
theorem exists_dropEndWhile_append (p : Char → Bool) (s : List Char) :
    ∃ back, s = dropEndWhile p s ++ back ∧ ∀ c ∈ back, p c = true := by
  induction s with
  | nil => exact ⟨[], rfl, by simp⟩
  | cons c rest ih =>
    obtain ⟨back, hs, hb⟩ := ih
    cases hk : dropEndWhile p rest with
    | nil =>
      rw [hk, List.nil_append] at hs
      by_cases hc : p c = true
      · exact ⟨c :: rest, by simp [dropEndWhile, hk, hc], by simpa [hc, hs] using hb⟩
      · exact ⟨rest, by simp [dropEndWhile, hk, hc], by simpa [hs] using hb⟩
    | cons d kept =>
      refine ⟨back, ?_, hb⟩
      rw [hk] at hs
      simp [dropEndWhile, hk, ← hs]

theorem dropEndWhile_concat {p : Char → Bool} {c : Char} (h : p c = false) (s : List Char) :
    dropEndWhile p (s ++ [c]) = s ++ [c] := by
  induction s with
  | nil => simp [dropEndWhile, h]
  | cons d s ih =>
    rw [List.cons_append, dropEndWhile, ih]
    cases s <;> rfl

theorem trim_cons {c : Char} (h : isBlank c = true) (s : List Char) : trim (c :: s) = trim s := by
  simp [trim, trimWhile, h]

theorem trim_append_of_last {c : Char} (h : isBlank c = true) (s : List Char) :
    trim (s ++ [c]) = trim s := by
  induction s with
  | nil => simp [trim, trimWhile, h, dropEndWhile]
  | cons d rest ih =>
    by_cases hd : isBlank d = true
    · rw [List.cons_append, trim_cons hd, ih, trim_cons hd]
    · simp only [trim, trimWhile, List.cons_append, List.dropWhile_cons, hd]
      exact dropEndWhile_append_of_last h (d :: rest)

/-- A text is its trimmed text between white space. -/
theorem exists_trim_eq (s : List Char) : ∃ front back, s = front ++ (trim s ++ back) ∧
    (∀ c ∈ front, isBlank c = true) ∧ ∀ c ∈ back, isBlank c = true := by
  obtain ⟨back, hs, hb⟩ := exists_dropEndWhile_append isBlank (s.dropWhile isBlank)
  have hf : (s.takeWhile isBlank).all isBlank = true := List.all_takeWhile
  refine ⟨s.takeWhile isBlank, back, ?_, List.all_eq_true.mp hf, hb⟩
  rw [trim, trimWhile, ← hs, List.takeWhile_append_dropWhile]

/-- White space inside a text stays. -/
theorem trim_cons_concat {c d : Char} (hc : isBlank c = false) (hd : isBlank d = false)
    (s : List Char) : trim (c :: (s ++ [d])) = c :: (s ++ [d]) := by
  rw [trim, trimWhile, List.dropWhile_cons, hc]
  exact dropEndWhile_concat hd (c :: s)

theorem mem_of_mem_trim {c : Char} {s : List Char} (h : c ∈ trim s) : c ∈ s := by
  obtain ⟨front, back, hs, -, -⟩ := exists_trim_eq s
  rw [hs]
  exact List.mem_append_right _ (List.mem_append_left _ h)

/-- What white space at the ends of a text does not change, trimming the text does not change. -/
theorem trim_invariant {α : Type} (f : List Char → α)
    (first : ∀ c s, isBlank c = true → f (c :: s) = f s)
    (last : ∀ c s, isBlank c = true → f (s ++ [c]) = f s) (s : List Char) : f (trim s) = f s := by
  obtain ⟨front, back, hs, hf, hb⟩ := exists_trim_eq s
  have hfront : ∀ t, f (front ++ t) = f t := by
    intro t
    clear hs
    induction front with
    | nil => rfl
    | cons c rest ih =>
      rw [List.cons_append, first c _ (hf c (by simp))]
      exact ih fun d hd => hf d (List.mem_cons_of_mem c hd)
  have hback : ∀ t, f (t ++ back) = f t := by
    clear hs
    induction back with
    | nil => simp
    | cons c rest ih =>
      intro t
      rw [List.append_cons, ih fun d hd => hb d (List.mem_cons_of_mem c hd)]
      exact last c t (hb c (by simp))
  calc
    f (trim s) = f (front ++ (trim s ++ back)) := by rw [hfront, hback]
    _ = f s := by rw [← hs]

theorem trim_trim (s : List Char) : trim (trim s) = trim s :=
  trim_invariant trim (fun _ s h => trim_cons h s) (fun _ s h => trim_append_of_last h s) s

end HttpContract.Text
