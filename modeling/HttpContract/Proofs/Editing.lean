import HttpContract.Editing

/-!
How a change behaves when it fails: it may have changed nothing at all, it may be unable to fail, or
it may undo nothing because all that can fail comes before its first change. The last follows from
the other two along the sequence of its parts.
-/
namespace HttpContract.Editing

variable {σ τ α β : Type}

def Reads (x : Editing σ α) : Prop := ∀ s, (perform x s).2 = s

def Succeeds (x : Editing σ α) : Prop := ∀ s, ∃ a, (perform x s).1 = .ok a

/-- Leaves the state as it is whenever it fails. -/
def Atomic (x : Editing σ α) : Prop :=
  ∀ s e, (perform x s).1 = .error e → (perform x s).2 = s

/-- Whatever holds of the state before holds of it afterwards, whether the change fails or not. -/
def Keeps (P : σ → Prop) (x : Editing σ α) : Prop := ∀ s, P s → P (perform x s).2

def Answers (P : α → Prop) (x : Editing σ α) : Prop := ∀ s a, (perform x s).1 = .ok a → P a

theorem reads_pure (a : α) : Reads (pure a : Editing σ α) := fun _ => rfl

theorem reads_throw (e : Error) : Reads (throw e : Editing σ α) := fun _ => rfl

theorem reads_get : Reads (get : Editing σ σ) := fun _ => rfl

theorem reads_liftM (r : Result α) : Reads (liftM r : Editing σ α) := fun _ => rfl

theorem Reads.bind {x : Editing σ α} {f : α → Editing σ β} (hx : Reads x)
    (hf : ∀ a, Reads (f a)) : Reads (x >>= f) := by
  intro s
  rw [perform_bind, hx s]
  cases (perform x s).1 with
  | ok a => exact hf a s
  | error e => rfl

theorem succeeds_pure (a : α) : Succeeds (pure a : Editing σ α) := fun _ => ⟨a, rfl⟩

theorem succeeds_get : Succeeds (get : Editing σ σ) := fun s => ⟨s, rfl⟩

theorem succeeds_modify (f : σ → σ) : Succeeds (modify f : Editing σ PUnit) :=
  fun _ => ⟨⟨⟩, rfl⟩

theorem Succeeds.bind {x : Editing σ α} {f : α → Editing σ β} (hx : Succeeds x)
    (hf : ∀ a, Succeeds (f a)) : Succeeds (x >>= f) := by
  intro s
  obtain ⟨a, ha⟩ := hx s
  rw [perform_bind, ha]
  exact hf a _

theorem Succeeds.perform_then {x : Editing σ Unit} (hx : Succeeds x) (f : Unit → Editing σ β)
    (s : σ) : perform (x >>= f) s = perform (f ()) (perform x s).2 := by
  obtain ⟨a, ha⟩ := hx s
  rw [perform_bind, ha]

theorem Reads.atomic {x : Editing σ α} (hx : Reads x) : Atomic x := fun s _ _ => hx s

theorem Succeeds.atomic {x : Editing σ α} (hx : Succeeds x) : Atomic x := by
  intro s e he
  obtain ⟨a, ha⟩ := hx s
  rw [ha] at he
  cases he

/-- What only reads may come before a change that is atomic. -/
theorem Reads.bind_atomic {x : Editing σ α} {f : α → Editing σ β} (hx : Reads x)
    (hf : ∀ a, Atomic (f a)) : Atomic (x >>= f) := by
  intro s e he
  rw [perform_bind, hx s] at he ⊢
  cases h : (perform x s).1 with
  | ok a =>
    rw [h] at he
    exact hf a s e he
  | error e' => rfl

theorem Reads.perform_then {x : Editing σ α} {f : α → Editing σ β} (hx : Reads x) {s : σ} {a : α}
    (ha : (perform x s).1 = .ok a) : perform (x >>= f) s = perform (f a) s := by
  rw [perform_bind, hx s, ha]

theorem Reads.of_bind_ok {x : Editing σ α} {f : α → Editing σ β} (hx : Reads x) {s : σ} {b : β}
    (h : (perform (x >>= f) s).1 = .ok b) :
    ∃ a, (perform x s).1 = .ok a ∧ (perform (f a) s).1 = .ok b := by
  rw [perform_bind, hx s] at h
  cases ha : (perform x s).1 with
  | ok a =>
    rw [ha] at h
    exact ⟨a, rfl, h⟩
  | error e =>
    rw [ha] at h
    cases h

/-- What comes after a reading is related to the state before it as it is to the state it begins
with. -/
theorem Reads.bind_relates {R : σ → σ → Prop} {x : Editing σ α} {f : α → Editing σ β}
    (hx : Reads x) {s : σ} (hr : R s s)
    (hf : ∀ a, (perform x s).1 = .ok a → R s (perform (f a) s).2) :
    R s (perform (x >>= f) s).2 := by
  rw [perform_bind, hx s]
  cases ha : (perform x s).1 with
  | ok a => exact hf a ha
  | error e => exact hr

theorem answers_pure {P : α → Prop} {a : α} (h : P a) : Answers P (pure a : Editing σ α) := by
  intro s b hb
  cases hb
  exact h

theorem answers_throw {P : α → Prop} (e : Error) : Answers P (throw e : Editing σ α) := by
  intro s b hb
  cases hb

theorem answers_bind {P : β → Prop} (x : Editing σ α) {f : α → Editing σ β}
    (hf : ∀ a, Answers P (f a)) : Answers P (x >>= f) := by
  intro s b hb
  rw [perform_bind] at hb
  cases ha : (perform x s).1 with
  | ok a =>
    rw [ha] at hb
    exact hf a _ b hb
  | error e =>
    rw [ha] at hb
    cases hb

theorem Reads.keeps {x : Editing σ α} (hx : Reads x) (P : σ → Prop) : Keeps P x := by
  intro s hs
  rw [hx s]
  exact hs

theorem keeps_modify {P : σ → Prop} {f : σ → σ} (h : ∀ s, P s → P (f s)) :
    Keeps P (modify f : Editing σ PUnit) := h

theorem Keeps.bind {P : σ → Prop} {x : Editing σ α} {f : α → Editing σ β} (hx : Keeps P x)
    (hf : ∀ a, Keeps P (f a)) : Keeps P (x >>= f) := by
  intro s hs
  rw [perform_bind]
  cases (perform x s).1 with
  | ok a => exact hf a _ (hx s hs)
  | error e => exact hx s hs

theorem Reads.keeps_bind {P : σ → Prop} {x : Editing σ α} {f : α → Editing σ β} (hx : Reads x)
    (hf : ∀ a, Keeps P (f a)) : Keeps P (x >>= f) := (hx.keeps P).bind hf

theorem Keeps.within {P : τ → Prop} {x : Editing τ α} (hx : Keeps P x) {part : σ → τ}
    {put : σ → τ → σ} (h : ∀ s t, part (put s t) = t) :
    Keeps (fun s => P (part s)) (within part put x) := by
  intro s hs
  rw [perform_within, h]
  exact hx (part s) hs

theorem Atomic.within {x : Editing τ α} (hx : Atomic x) {part : σ → τ} {put : σ → τ → σ}
    (h : ∀ s, put s (part s) = s) : Atomic (within part put x) := by
  intro s e he
  rw [perform_within] at he ⊢
  exact (congrArg (put s) (hx (part s) e he)).trans (h s)

/-! ## Several changes -/

section Runs

variable {ε γ : Type}

def after (run : ε → Editing σ Unit) (s : σ) (changes : List ε) : σ :=
  changes.foldl (fun s e => (perform (run e) s).2) s

def noted (run : ε → Editing σ Unit) (note : σ → ε → List γ) : σ → List ε → List γ
  | _, [] => []
  | s, e :: rest => note s e ++ noted run note (perform (run e) s).2 rest

theorem after_concat (run : ε → Editing σ Unit) (s : σ) (changes : List ε) (e : ε) :
    after run s (changes ++ [e]) = (perform (run e) (after run s changes)).2 := by
  rw [after, List.foldl_append]
  rfl

theorem after_keeps {P : σ → Prop} {run : ε → Editing σ Unit} (hrun : ∀ e, Keeps P (run e)) {s : σ}
    (h : P s) (changes : List ε) : P (after run s changes) := by
  induction changes generalizing s with
  | nil => exact h
  | cons e rest ih => exact ih (hrun e s h)

theorem after_relates_append {R : List γ → σ → Prop} {run : ε → Editing σ Unit} {note : σ → ε → List γ}
    {changes : List ε}
    (hstep : ∀ past s, ∀ e ∈ changes, R past s → R (past ++ note s e) (perform (run e) s).2)
    {past : List γ} {s : σ} (h : R past s) :
    R (past ++ noted run note s changes) (after run s changes) := by
  induction changes generalizing past s with
  | nil =>
    rw [noted, List.append_nil]
    exact h
  | cons e rest ih =>
    rw [noted, ← List.append_assoc]
    exact ih (fun past s d hd => hstep past s d (List.mem_cons_of_mem e hd))
      (hstep past s e List.mem_cons_self h)

/-- A relation of the notes to the state that every change preserves holds after all of them. -/
theorem after_relates {R : List γ → σ → Prop} {run : ε → Editing σ Unit} {note : σ → ε → List γ}
    {changes : List ε}
    (hstep : ∀ past s, ∀ e ∈ changes, R past s → R (past ++ note s e) (perform (run e) s).2)
    {s : σ} (h : R [] s) : R (noted run note s changes) (after run s changes) :=
  after_relates_append hstep h

end Runs

end HttpContract.Editing
