import Mathlib.Data.List.Forall2

/-!
Computations that may fail, one after the other or along a list: what follows for their parts when
the whole succeeds, and the other way round.
-/
namespace HttpContract

variable {ε α β : Type}

theorem exists_of_bind_ok {x : Except ε α} {f : α → Except ε β} {b : β} (h : x >>= f = .ok b) :
    ∃ a, x = .ok a ∧ f a = .ok b := by
  cases x with
  | ok a => exact ⟨a, rfl, h⟩
  | error e => cases h

theorem exists_of_map_ok {x : Except ε α} {f : α → β} {b : β} (h : x.map f = .ok b) :
    ∃ a, x = .ok a ∧ f a = b := by
  cases x with
  | ok a => exact ⟨a, rfl, Except.ok.inj h⟩
  | error e => cases h

theorem map_some_eq_ok_iff {x : Except ε α} {r : Option α} :
    some <$> x = .ok r ↔ ∃ a, x = .ok a ∧ r = some a := by
  cases x with
  | error e => exact iff_of_false (fun h => by cases h) (by rintro ⟨_, ⟨⟩, -⟩)
  | ok a =>
    constructor
    · intro h
      exact ⟨a, rfl, (Except.ok.inj h).symm⟩
    · rintro ⟨_, ⟨⟩, rfl⟩
      rfl

theorem eq_ok_of_mapError {δ : Type} {x : Except δ α} {f : δ → ε} {a : α}
    (h : x.mapError f = .ok a) : x = .ok a := by
  cases x with
  | ok b => exact congrArg Except.ok (Except.ok.inj h)
  | error e => cases h

/-- The whole succeeds exactly if its parts do, one after the other. -/
theorem exists_bind_ok_iff {x : Except ε α} {f : α → Except ε β} :
    (∃ b, x >>= f = .ok b) ↔ ∃ a, x = .ok a ∧ ∃ b, f a = .ok b := by
  constructor
  · rintro ⟨b, h⟩
    obtain ⟨a, ha, hb⟩ := exists_of_bind_ok h
    exact ⟨a, ha, b, hb⟩
  · rintro ⟨a, rfl, b, hb⟩
    exact ⟨b, hb⟩

theorem exists_bind_pure_iff {x : Except ε α} {f : α → β} :
    (∃ b, (x >>= fun a => .ok (f a)) = .ok b) ↔ ∃ a, x = .ok a := by
  rw [exists_bind_ok_iff]
  exact ⟨fun ⟨a, ha, _⟩ => ⟨a, ha⟩, fun ⟨a, ha⟩ => ⟨a, ha, f a, rfl⟩⟩

theorem exists_bind_ok {x : Except ε α} {f : α → Except ε β} (hx : ∃ a, x = .ok a)
    (hf : ∀ a, ∃ b, f a = .ok b) : ∃ b, x >>= f = .ok b := by
  obtain ⟨a, ha⟩ := hx
  exact exists_bind_ok_iff.mpr ⟨a, ha, hf a⟩

theorem exists_both_iff {γ : Type} {x : Except ε α} {y : Except ε β} {f : α → β → γ} :
    (∃ c, (x >>= fun a => y >>= fun b => .ok (f a b)) = .ok c) ↔
      (∃ a, x = .ok a) ∧ ∃ b, y = .ok b := by
  simp only [exists_bind_ok_iff (x := x), exists_bind_pure_iff, exists_and_right]

theorem of_bind_error {x : Except ε α} {f : α → Except ε β} {e : ε} (h : x >>= f = .error e) :
    x = .error e ∨ ∃ a, x = .ok a ∧ f a = .error e := by
  cases x with
  | ok a => exact .inr ⟨a, rfl, h⟩
  | error e' =>
    cases h
    exact .inl rfl

theorem eq_ok_of_toOption {x : Except ε α} {a : α} (h : x.toOption = some a) : x = .ok a := by
  cases x with
  | ok b => exact congrArg Except.ok (Option.some.inj h)
  | error e => cases h

theorem exists_ok_of_isSome {x : Except ε α} (h : x.toOption.isSome = true) : ∃ a, x = .ok a := by
  cases x with
  | ok a => exact ⟨a, rfl⟩
  | error e => cases h

theorem filterAuxM_ok {l : List α} {f : α → Except ε Bool} {p : α → Bool}
    (h : ∀ a ∈ l, f a = .ok (p a)) (kept : List α) :
    l.filterAuxM f kept = .ok ((l.filter p).reverse ++ kept) := by
  induction l generalizing kept with
  | nil => rfl
  | cons a l ih =>
    rw [List.forall_mem_cons] at h
    rw [List.filterAuxM, h.1]
    refine (ih h.2 _).trans ?_
    cases hp : p a <;> simp [hp]

theorem filterM_ok {l : List α} {f : α → Except ε Bool} {p : α → Bool}
    (h : ∀ a ∈ l, f a = .ok (p a)) : l.filterM f = .ok (l.filter p) := by
  rw [List.filterM, filterAuxM_ok h]
  exact congrArg Except.ok (by rw [List.append_nil, List.reverse_reverse])

theorem exists_of_filterAuxM_ok {l : List α} {f : α → Except ε Bool} {kept all : List α}
    (h : l.filterAuxM f kept = .ok all) : ∀ a ∈ l, ∃ b, f a = .ok b := by
  induction l generalizing kept with
  | nil => exact fun a ha => absurd ha List.not_mem_nil
  | cons a l ih =>
    obtain ⟨b, hb, h⟩ := exists_of_bind_ok h
    exact List.forall_mem_cons.mpr ⟨⟨b, hb⟩, ih h⟩

theorem exists_of_filterM_ok {l kept : List α} {f : α → Except ε Bool}
    (h : l.filterM f = .ok kept) :
    ∃ p : α → Bool, (∀ a ∈ l, f a = .ok (p a)) ∧ kept = l.filter p := by
  obtain ⟨all, hall, -⟩ := exists_of_bind_ok h
  have hp : ∀ a ∈ l, f a = .ok ((f a).toOption.getD false) := by
    intro a ha
    obtain ⟨b, hb⟩ := exists_of_filterAuxM_ok hall a ha
    rw [hb]
    rfl
  exact ⟨_, hp, Except.ok.inj (h.symm.trans (filterM_ok hp))⟩

theorem exists_filterM_ok_iff {l : List α} {f : α → Except ε Bool} :
    (∃ kept, l.filterM f = .ok kept) ↔ ∀ a ∈ l, ∃ b, f a = .ok b := by
  constructor
  · rintro ⟨kept, h⟩ a ha
    obtain ⟨p, hp, -⟩ := exists_of_filterM_ok h
    exact ⟨p a, hp a ha⟩
  · intro h
    refine ⟨_, filterM_ok (p := fun a => (f a).toOption.getD false) fun a ha => ?_⟩
    obtain ⟨b, hb⟩ := h a ha
    rw [hb]
    rfl

theorem mapM_ok {l : List α} {f : α → Except ε β} {g : α → β} (h : ∀ a ∈ l, f a = .ok (g a)) :
    l.mapM f = .ok (l.map g) := by
  induction l with
  | nil => rfl
  | cons a l ih =>
    rw [List.forall_mem_cons] at h
    rw [List.mapM_cons, h.1, ih h.2]
    rfl

theorem mapM_congr {l : List α} {f g : α → Except ε β} (h : ∀ a ∈ l, f a = g a) :
    l.mapM f = l.mapM g := by
  induction l with
  | nil => rfl
  | cons a l ih =>
    rw [List.forall_mem_cons] at h
    rw [List.mapM_cons, List.mapM_cons, h.1, ih h.2]

theorem mapM_ok_iff_forall₂ {l : List α} {f : α → Except ε β} {made : List β} :
    l.mapM f = .ok made ↔ List.Forall₂ (fun a b => f a = .ok b) l made := by
  induction l generalizing made with
  | nil =>
    rw [List.mapM_nil, List.forall₂_nil_left_iff]
    exact ⟨fun h => (Except.ok.inj h).symm, fun h => congrArg Except.ok h.symm⟩
  | cons a l ih =>
    rw [List.mapM_cons]
    constructor
    · intro h
      obtain ⟨b, hb, h⟩ := exists_of_bind_ok h
      obtain ⟨rest, hrest, h⟩ := exists_of_bind_ok h
      cases h
      exact .cons hb (ih.mp hrest)
    · rintro (_ | ⟨hb, hrest⟩)
      rw [hb, ih.mpr hrest]
      rfl

theorem exists_mapM_ok_iff {l : List α} {f : α → Except ε β} :
    (∃ made, l.mapM f = .ok made) ↔ ∀ a ∈ l, ∃ b, f a = .ok b := by
  induction l with
  | nil => exact ⟨fun _ a ha => absurd ha List.not_mem_nil, fun _ => ⟨[], rfl⟩⟩
  | cons a l ih =>
    rw [List.mapM_cons, List.forall_mem_cons, ← ih]
    exact exists_both_iff

theorem exists_of_mapM_append_ok {l : List α} {a : α} {f : α → Except ε β} {made : List β}
    (h : (l ++ [a]).mapM f = .ok made) : ∃ earlier b, made = earlier ++ [b] ∧ f a = .ok b := by
  rw [List.mapM_append] at h
  obtain ⟨earlier, -, h⟩ := exists_of_bind_ok h
  obtain ⟨last, hl, h⟩ := exists_of_bind_ok h
  cases h
  rw [List.mapM_cons, List.mapM_nil] at hl
  obtain ⟨b, hb, hl⟩ := exists_of_bind_ok hl
  cases hl
  exact ⟨earlier, b, rfl, hb⟩

/-! ## Failures of one kind -/

def FailsOnly (P : ε → Prop) (x : Except ε α) : Prop := ∀ fault, x = .error fault → P fault

namespace FailsOnly

variable {P : ε → Prop}

theorem ok (a : α) : FailsOnly P (.ok a) := fun _ h => by cases h

theorem error {fault : ε} (h : P fault) : FailsOnly P (.error fault : Except ε α) := by
  rintro _ ⟨⟩
  exact h

theorem bind {x : Except ε α} {f : α → Except ε β} (hx : FailsOnly P x)
    (hf : ∀ a, x = .ok a → FailsOnly P (f a)) : FailsOnly P (x >>= f) := by
  intro fault h
  rcases of_bind_error h with h | ⟨a, ha, h⟩
  · exact hx fault h
  · exact hf a ha fault h

theorem ite {c : Prop} [Decidable c] {x y : Except ε α} (hx : FailsOnly P x) (hy : FailsOnly P y) :
    FailsOnly P (if c then x else y) := by
  split
  · exact hx
  · exact hy

theorem mapError {δ : Type} {x : Except δ α} {f : δ → ε} (h : ∀ fault, P (f fault)) :
    FailsOnly P (x.mapError f) := by
  cases x with
  | ok a => exact ok a
  | error fault => exact error (h fault)

theorem foldlM {l : List α} {f : β → α → Except ε β} (h : ∀ b a, FailsOnly P (f b a)) (b : β) :
    FailsOnly P (l.foldlM f b) := by
  induction l generalizing b with
  | nil => exact ok b
  | cons a l ih =>
    rw [List.foldlM_cons]
    exact (h b a).bind fun b _ => ih b

theorem mapM {l : List α} {f : α → Except ε β} (h : ∀ a ∈ l, FailsOnly P (f a)) :
    FailsOnly P (l.mapM f) := by
  induction l with
  | nil => exact ok []
  | cons a l ih =>
    rw [List.forall_mem_cons] at h
    rw [List.mapM_cons]
    exact h.1.bind fun b _ => (ih h.2).bind fun made _ => ok (b :: made)

theorem map {x : Except ε α} {f : α → β} (h : FailsOnly P x) : FailsOnly P (x.map f) := by
  cases x with
  | ok a => exact ok (f a)
  | error fault => exact error (h fault rfl)

end FailsOnly

end HttpContract
