import HttpContract.Expression
import HttpContract.Proofs.Success

/-!
The one way to take an expression apart. A placeholder runs to the next closing brace, whatever stands
in it, and an opening that is never closed is literal text.
-/
namespace HttpContract.Expression

/-! ## Reading piece by piece -/

def Begins (s : List Char) : Prop :=
  ∃ key after, '\x7d' ∉ key ∧ s = '$' :: '\x7b' :: (key ++ '\x7d' :: after)

theorem begins_of_mem {inner : List Char} (h : '\x7d' ∈ inner) : Begins ('$' :: '\x7b' :: inner) := by
  obtain ⟨key, after, rfl, hkey⟩ := List.eq_append_cons_of_mem h
  exact ⟨key, after, hkey, rfl⟩

theorem takeWhile_of_not_mem {key : List Char} (h : '\x7d' ∉ key) (rest : List Char) :
    (key ++ rest).takeWhile (· ≠ '\x7d') = key ++ rest.takeWhile (· ≠ '\x7d') := by
  refine List.takeWhile_append_of_pos fun c hc => decide_eq_true ?_
  rintro rfl
  exact h hc

/-- What stands before the next closing brace is the key. -/
theorem pieces_placeholder {key : List Char} (h : '\x7d' ∉ key) (after : List Char) :
    pieces ('$' :: '\x7b' :: (key ++ '\x7d' :: after)) = .placeholder key :: pieces after := by
  have htake : (key ++ '\x7d' :: after).takeWhile (· ≠ '\x7d') = key := by
    rw [takeWhile_of_not_mem h, List.takeWhile_cons_of_neg (by decide), List.append_nil]
  rw [pieces, htake]
  simp

/-- A character that begins no placeholder is literal text. -/
theorem pieces_literal {c : Char} {rest : List Char} (h : ¬Begins (c :: rest)) :
    pieces (c :: rest) = .literal c :: pieces rest := by
  rw [pieces.eq_def]
  split
  · contradiction
  · rename_i inner heq
    cases heq
    have hopen : '\x7d' ∉ inner := fun hmem => h (begins_of_mem hmem)
    have htake : inner.takeWhile (· ≠ '\x7d') = inner := by
      simpa using takeWhile_of_not_mem hopen []
    simp only [htake, Nat.lt_irrefl, if_false]
  · rename_i heq
    cases heq
    rfl

/-- What holds of the empty text, and of a text if it holds of what follows its first piece, holds of
every text. -/
@[elab_as_elim]
theorem pieces_induction {P : List Char → Prop} (nil : P [])
    (placeholder : ∀ key after, '\x7d' ∉ key → P after →
      P ('$' :: '\x7b' :: (key ++ '\x7d' :: after)))
    (literal : ∀ c rest, ¬Begins (c :: rest) → P rest → P (c :: rest)) (s : List Char) : P s := by
  induction hn : s.length using Nat.strongRecOn generalizing s with
  | _ n ih =>
    subst hn
    by_cases hbegins : Begins s
    · obtain ⟨key, after, hkey, rfl⟩ := hbegins
      refine placeholder key after hkey (ih after.length ?_ after rfl)
      simp only [List.length_cons, List.length_append]
      omega
    · cases s with
      | nil => exact nil
      | cons c rest => exact literal c rest hbegins (ih rest.length (Nat.lt_succ_self _) rest rfl)

/-! ## The one decomposition -/

def Piece.written : Piece → List Char
  | literal c => [c]
  | placeholder key => '$' :: '\x7b' :: (key ++ ['\x7d'])

def written (ps : List Piece) : List Char := ps.flatMap Piece.written

theorem written_literal (c : Char) (ps : List Piece) :
    written (.literal c :: ps) = c :: written ps := rfl

theorem written_placeholder (key : List Char) (ps : List Piece) :
    written (.placeholder key :: ps) = '$' :: '\x7b' :: (key ++ '\x7d' :: written ps) := by
  simp [written, Piece.written]

/-- The pieces make up the text, every placeholder ends at the next closing brace, and no literal
character stands where a placeholder begins. -/
structure Decomposes (s : List Char) (ps : List Piece) : Prop where
  text : written ps = s
  closed : ∀ key, .placeholder key ∈ ps → '\x7d' ∉ key
  literal : ∀ front c after, ps = front ++ .literal c :: after → ¬Begins (c :: written after)

variable {s : List Char} {p : Piece} {ps : List Piece}

theorem decomposes_nil : Decomposes [] [] where
  text := rfl
  closed key hkey := absurd hkey List.not_mem_nil
  literal front c after he := by cases front <;> cases he

/-- What follows the first piece is taken apart by the others. -/
theorem Decomposes.tail (h : Decomposes s (p :: ps)) : Decomposes (written ps) ps where
  text := rfl
  closed key hkey := h.closed key (List.mem_cons_of_mem p hkey)
  literal front c after he := h.literal (p :: front) c after (congrArg (p :: ·) he)

theorem Decomposes.consLiteral {c : Char} (h : Decomposes s ps) (hc : ¬Begins (c :: s)) :
    Decomposes (c :: s) (.literal c :: ps) where
  text := congrArg (c :: ·) h.text
  closed key hkey := h.closed key ((List.mem_cons.mp hkey).resolve_left Piece.noConfusion)
  literal front d after he := by
    cases front with
    | nil =>
      cases he
      rw [h.text]
      exact hc
    | cons q front => exact h.literal front d after (List.tail_eq_of_cons_eq he)

theorem Decomposes.consPlaceholder {key : List Char} (h : Decomposes s ps) (hkey : '\x7d' ∉ key) :
    Decomposes ('$' :: '\x7b' :: (key ++ '\x7d' :: s)) (.placeholder key :: ps) where
  text := by rw [written_placeholder, h.text]
  closed other hother := by
    rcases List.mem_cons.mp hother with he | hother
    · cases he
      exact hkey
    · exact h.closed other hother
  literal front d after he := by
    cases front with
    | nil => cases he
    | cons q front => exact h.literal front d after (List.tail_eq_of_cons_eq he)

theorem decomposes_pieces (s : List Char) : Decomposes s (pieces s) := by
  induction s using pieces_induction with
  | nil =>
    rw [pieces]
    exact decomposes_nil
  | placeholder key after hkey ih =>
    rw [pieces_placeholder hkey]
    exact ih.consPlaceholder hkey
  | literal c rest hbegins ih =>
    rw [pieces_literal hbegins]
    exact ih.consLiteral hbegins

theorem pieces_eq_nil_iff : pieces s = [] ↔ s = [] := by
  constructor
  · intro h
    exact (h ▸ decomposes_pieces s).text.symm
  · rintro rfl
    rw [pieces]

/-- There is one way to take an expression apart, and it is that in which it is read. -/
theorem decomposes_iff : Decomposes s ps ↔ ps = pieces s := by
  refine ⟨fun h => ?_, fun h => h ▸ decomposes_pieces s⟩
  induction ps generalizing s with
  | nil =>
    rw [← h.text, written, List.flatMap_nil, pieces]
  | cons p ps ih =>
    have hrest : ps = pieces (written ps) := ih h.tail
    rw [← h.text]
    cases p with
    | literal c =>
      rw [written_literal, pieces_literal (h.literal [] c ps rfl), ← hrest]
    | placeholder key =>
      rw [written_placeholder, pieces_placeholder (h.closed key List.mem_cons_self), ← hrest]

end HttpContract.Expression
