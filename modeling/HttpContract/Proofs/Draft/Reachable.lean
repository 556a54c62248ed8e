import HttpContract.Draft.Request
import HttpContract.Draft.Response
import HttpContract.Proofs.Editing

/-!
The drafts that come about by edits, whether these succeed or not: from nothing, or from what
another such draft has been built to. Each is what a sequence of changes makes of an empty draft.
-/
namespace HttpContract

open Editing

inductive RequestDraft.Reachable : RequestDraft → Prop
  | fresh (c : Config) : Reachable (.ofConfig c)
  | copy (c : Config) {d : RequestDraft} (h : Reachable d) : Reachable (.ofRequest c d.build)
  | edit (e : RequestEdit) {d : RequestDraft} (h : Reachable d) : Reachable (perform e.run d).2
  | editPath (e : PathEdit) {d : RequestDraft} (h : Reachable d) : Reachable (perform e.run d).2

inductive ResponseDraft.Reachable : ResponseDraft → Prop
  | fresh (c : Config) : Reachable (.ofConfig c)
  | copy (c : Config) {d : ResponseDraft} (h : Reachable d) : Reachable (.ofResponse c d.build)
  | edit (e : ResponseEdit) {d : ResponseDraft} (h : Reachable d) : Reachable (perform e.run d).2

/-! ## Sequences of changes -/

inductive RequestChange
  | copy (c : Config)
  | edit (e : RequestEdit)
  | editPath (e : PathEdit)

def RequestChange.run : RequestChange → Editing RequestDraft Unit
  | copy c => modify fun d => .ofRequest c d.build
  | edit e => e.run
  | editPath e => e.run

inductive ResponseChange
  | copy (c : Config)
  | edit (e : ResponseEdit)

def ResponseChange.run : ResponseChange → Editing ResponseDraft Unit
  | copy c => modify fun d => .ofResponse c d.build
  | edit e => e.run

def RequestDraft.ofChanges (c : Config) (changes : List RequestChange) : RequestDraft :=
  after RequestChange.run (.ofConfig c) changes

def ResponseDraft.ofChanges (c : Config) (changes : List ResponseChange) : ResponseDraft :=
  after ResponseChange.run (.ofConfig c) changes

theorem RequestDraft.ofChanges_concat (c : Config) (changes : List RequestChange)
    (change : RequestChange) :
    ofChanges c (changes ++ [change]) = (perform change.run (ofChanges c changes)).2 :=
  after_concat RequestChange.run _ changes change

theorem RequestDraft.exists_changes_run {d : RequestDraft} (h : ∃ c changes, d = ofChanges c changes)
    (change : RequestChange) : ∃ c changes, (perform change.run d).2 = ofChanges c changes := by
  obtain ⟨c, changes, rfl⟩ := h
  exact ⟨c, changes ++ [change], (ofChanges_concat c changes change).symm⟩

theorem RequestDraft.reachable_iff {d : RequestDraft} :
    d.Reachable ↔ ∃ c changes, d = ofChanges c changes := by
  constructor
  · intro h
    induction h with
    | fresh c => exact ⟨c, [], rfl⟩
    | copy c _ ih => exact exists_changes_run ih (.copy c)
    | edit e _ ih => exact exists_changes_run ih (.edit e)
    | editPath e _ ih => exact exists_changes_run ih (.editPath e)
  · rintro ⟨c, changes, rfl⟩
    refine after_keeps (fun change d h => ?_) (.fresh c) changes
    cases change with
    | copy c => exact .copy c h
    | edit e => exact .edit e h
    | editPath e => exact .editPath e h

theorem ResponseDraft.ofChanges_concat (c : Config) (changes : List ResponseChange)
    (change : ResponseChange) :
    ofChanges c (changes ++ [change]) = (perform change.run (ofChanges c changes)).2 :=
  after_concat ResponseChange.run _ changes change

theorem ResponseDraft.exists_changes_run {d : ResponseDraft} (h : ∃ c changes, d = ofChanges c changes)
    (change : ResponseChange) : ∃ c changes, (perform change.run d).2 = ofChanges c changes := by
  obtain ⟨c, changes, rfl⟩ := h
  exact ⟨c, changes ++ [change], (ofChanges_concat c changes change).symm⟩

theorem ResponseDraft.reachable_iff {d : ResponseDraft} :
    d.Reachable ↔ ∃ c changes, d = ofChanges c changes := by
  constructor
  · intro h
    induction h with
    | fresh c => exact ⟨c, [], rfl⟩
    | copy c _ ih => exact exists_changes_run ih (.copy c)
    | edit e _ ih => exact exists_changes_run ih (.edit e)
  · rintro ⟨c, changes, rfl⟩
    refine after_keeps (fun change d h => ?_) (.fresh c) changes
    cases change with
    | copy c => exact .copy c h
    | edit e => exact .edit e h

end HttpContract
