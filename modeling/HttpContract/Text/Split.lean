import HttpContract.Text.Blank

/-!
Cutting text at a separator, and finding one text in another.
-/
namespace HttpContract.Text

/-- The pieces between the separators: one more than there are separators. -/
def splitAt (sep : Char) : List Char → List (List Char)
  | [] => [[]]
  | c :: rest =>
    if c = sep then [] :: splitAt sep rest
    else match splitAt sep rest with
      | [] => [[c]]
      | piece :: pieces => (c :: piece) :: pieces

def trimmedPieces (sep : Char) (s : List Char) : List (List Char) := (splitAt sep s).map trim

def cutAt (sep : Char) : List Char → List Char × Option (List Char)
  | [] => ([], none)
  | c :: rest =>
    if c = sep then ([], some rest)
    else ((c :: (cutAt sep rest).1), (cutAt sep rest).2)

def join (sep : List Char) : List (List Char) → List Char
  | [] => []
  | [piece] => piece
  | piece :: pieces => piece ++ sep ++ join sep pieces

def startsWith (s part : List Char) : Bool := part.isPrefixOf s

def endsWith (s part : List Char) : Bool := part.isSuffixOf s

def contains (s part : List Char) : Bool :=
  match s with
  | [] => part.isEmpty
  | _ :: rest => part.isPrefixOf s || contains rest part

def replaceFirst {α : Type} [BEq α] (old new : List α) : List α → List α
  | [] => if old.isEmpty then new else []
  | c :: rest =>
    if old.isPrefixOf (c :: rest) then new ++ (c :: rest).drop old.length
    else c :: replaceFirst old new rest

theorem splitAt_ne_nil (sep : Char) (s : List Char) : splitAt sep s ≠ [] := by
  cases s with
  | nil => simp [splitAt]
  | cons c rest =>
    unfold splitAt
    split
    · simp
    · split <;> simp

theorem splitAt_append {sep : Char} {s : List Char} (h : sep ∉ s) (t : List Char) :
    splitAt sep (s ++ sep :: t) = s :: splitAt sep t := by
  induction s with
  | nil => rw [List.nil_append, splitAt, if_pos rfl]
  | cons c s ih =>
    obtain ⟨hne, hs⟩ := List.ne_and_not_mem_of_not_mem_cons h
    rw [List.cons_append, splitAt, if_neg hne.symm, ih hs]

theorem not_mem_of_mem_splitAt {sep : Char} {s piece : List Char} (h : piece ∈ splitAt sep s) :
    sep ∉ piece := by
  induction s generalizing piece with
  | nil =>
    rw [List.mem_singleton.mp h]
    exact List.not_mem_nil
  | cons c s ih =>
    rw [splitAt] at h
    split at h
    · rcases List.mem_cons.mp h with rfl | h
      · exact List.not_mem_nil
      · exact ih h
    · rename_i hc
      cases hs : splitAt sep s with
      | nil => exact absurd hs (splitAt_ne_nil sep s)
      | cons first rest =>
        rw [hs] at h ih
        rcases List.mem_cons.mp h with rfl | h
        · rw [List.mem_cons, not_or]
          exact ⟨fun hsep => hc hsep.symm, ih List.mem_cons_self⟩
        · exact ih (List.mem_cons_of_mem _ h)

theorem cutAt_of_not_mem {sep : Char} {s : List Char} (h : sep ∉ s) : cutAt sep s = (s, none) := by
  induction s with
  | nil => rfl
  | cons c rest ih =>
    obtain ⟨hne, hrest⟩ := List.ne_and_not_mem_of_not_mem_cons h
    rw [cutAt, if_neg hne.symm, ih hrest]

theorem cutAt_append {sep : Char} {s : List Char} (h : sep ∉ s) (t : List Char) :
    cutAt sep (s ++ sep :: t) = (s, some t) := by
  induction s with
  | nil => rw [List.nil_append, cutAt, if_pos rfl]
  | cons c s ih =>
    obtain ⟨hne, hs⟩ := List.ne_and_not_mem_of_not_mem_cons h
    rw [List.cons_append, cutAt, if_neg hne.symm, ih hs]

theorem cutAt_eq_some {sep : Char} {s front back : List Char}
    (h : cutAt sep s = (front, some back)) : s = front ++ sep :: back := by
  induction s generalizing front with
  | nil => cases h
  | cons c s ih =>
    rw [cutAt] at h
    split at h
    · rename_i hc
      cases h
      rw [hc, List.nil_append]
    · obtain ⟨rfl, hb⟩ := Prod.mk.inj h
      exact congrArg (c :: ·) (ih (Prod.ext rfl hb))

theorem splitAt_append_of_ne {sep c : Char} (h : c ≠ sep) (s : List Char) :
    ∃ front last, splitAt sep s = front ++ [last] ∧
      splitAt sep (s ++ [c]) = front ++ [last ++ [c]] := by
  induction s with
  | nil => exact ⟨[], [], rfl, by simp [splitAt, h]⟩
  | cons d rest ih =>
    obtain ⟨front, last, hs, hc⟩ := ih
    by_cases hd : d = sep
    · exact ⟨[] :: front, last, by simp [splitAt, hd, hs], by simp [splitAt, hd, hc]⟩
    · cases front with
      | nil => exact ⟨[], d :: last, by simp [splitAt, hd, hs], by simp [splitAt, hd, hc]⟩
      | cons piece front =>
        exact ⟨(d :: piece) :: front, last, by simp [splitAt, hd, hs],
          by simp [splitAt, hd, hc]⟩

/-- White space around a text does not count in its trimmed pieces. -/
theorem trimmedPieces_trim {sep : Char} (h : isBlank sep = false) (s : List Char) :
    trimmedPieces sep (trim s) = trimmedPieces sep s := by
  have ne_sep : ∀ c, isBlank c = true → c ≠ sep := by
    rintro c hc rfl
    simp [h] at hc
  refine trim_invariant _ (fun c s hc => ?_) (fun c s hc => ?_) s
  · cases e : splitAt sep s with
    | nil => exact absurd e (splitAt_ne_nil sep s)
    | cons piece pieces => simp [trimmedPieces, splitAt, ne_sep c hc, e, trim_cons hc]
  · obtain ⟨front, last, hs, hc'⟩ := splitAt_append_of_ne (ne_sep c hc) s
    simp [trimmedPieces, hs, hc', trim_append_of_last hc]

end HttpContract.Text
