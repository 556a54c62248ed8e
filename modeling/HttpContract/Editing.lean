import HttpContract.Error

/-!
Changes to a state that may fail on the way. What has been changed before a failure stays changed;
which changes leave nothing behind when they fail follows from the order of their parts.
-/
namespace HttpContract

abbrev Editing (σ α : Type) := ExceptT Error (StateM σ) α

namespace Editing

variable {σ τ α β : Type}

def perform (x : Editing σ α) (s : σ) : Result α × σ := x.run.run s

def within (part : σ → τ) (put : σ → τ → σ) (x : Editing τ α) : Editing σ α :=
  ExceptT.mk fun s => ((perform x (part s)).1, put s (perform x (part s)).2)

section Performing

variable (s : σ)

@[simp] theorem perform_pure (a : α) : perform (pure a : Editing σ α) s = (.ok a, s) := rfl

@[simp] theorem perform_throw (e : Error) :
    perform (throw e : Editing σ α) s = (.error e, s) := rfl

@[simp] theorem perform_get : perform (get : Editing σ σ) s = (.ok s, s) := rfl

@[simp] theorem perform_set (t : σ) : perform (set t : Editing σ PUnit) s = (.ok ⟨⟩, t) := rfl

@[simp] theorem perform_modify (f : σ → σ) :
    perform (modify f : Editing σ PUnit) s = (.ok ⟨⟩, f s) := rfl

@[simp] theorem perform_liftM (r : Result α) : perform (liftM r : Editing σ α) s = (r, s) := rfl

@[simp] theorem perform_within (part : τ → σ) (put : τ → σ → τ) (x : Editing σ α) (t : τ) :
    perform (within part put x) t =
      ((perform x (part t)).1, put t (perform x (part t)).2) := rfl

theorem perform_bind (x : Editing σ α) (f : α → Editing σ β) :
    perform (x >>= f) s = match (perform x s).1 with
      | .ok a => perform (f a) (perform x s).2
      | .error e => (.error e, (perform x s).2) := by
  simp only [perform, ExceptT.run_bind, StateT.run_bind]
  change StateT.run _ (x.run.run s).2 = _
  cases (x.run.run s).1 <;> rfl

end Performing

end Editing

end HttpContract
