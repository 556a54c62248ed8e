import HttpContract.Proofs.Body.Source
import HttpContract.Proofs.Session.Change

/-!
A body that cannot be set leaves everything as it was. Media type and bytes are settled before the
first change, and none of the changes can fail: the rule of a header that is added by default comes
with its example.
-/
namespace HttpContract

open Editing

namespace PartDraft

theorem reads_negotiate (suited : String) (wanted : Option Value) :
    Reads (negotiate suited wanted) := by
  refine reads_get.bind fun p => ?_
  split
  · exact (reads_liftM _).bind fun m => reads_pure _
  · exact (reads_liftM _).bind fun m => reads_pure _
  · exact (reads_liftM _).bind fun m => reads_pure _

theorem succeeds_matchHeader (name pattern shown : String) :
    Succeeds (matchHeader name pattern (some shown)) :=
  (succeeds_pure shown).bind fun _ => (succeeds_modify _).bind fun _ => succeeds_modify _

theorem succeeds_declareDefault (kind : PartKind) (mediaType : String) :
    Succeeds (declareDefault kind mediaType) := by
  unfold declareDefault
  split
  · exact succeeds_matchHeader _ _ _
  · exact succeeds_modify _

theorem succeeds_declareAs (kind : PartKind) (m : MediaType) (explicit : Bool) :
    Succeeds (declareAs kind m explicit) := by
  unfold declareAs
  split
  · exact succeeds_modify _
  · refine succeeds_get.bind fun p => ?_
    split
    · exact succeeds_pure _
    · exact succeeds_declareDefault _ _

theorem succeeds_annotate (annotations : Option Annotations) :
    Succeeds (annotate annotations) := by
  cases annotations with
  | none => exact succeeds_pure _
  | some a => exact (succeeds_modify _).bind fun _ => succeeds_modify _

theorem succeeds_commit (kind : PartKind) (body : Body) (m : MediaType) (explicit : Bool)
    (annotations : Option Annotations) : Succeeds (commit kind body m explicit annotations) :=
  (succeeds_declareAs kind m explicit).bind fun _ =>
    (succeeds_annotate annotations).bind fun _ => succeeds_modify _

theorem atomic_setBodyAs (kind : PartKind) (suited : String) (wanted : Option Value)
    (annotations : Option Annotations) (encode : String → Result (Option (List UInt8))) :
    Atomic (setBodyAs kind suited wanted annotations encode) :=
  -- Only the reading parts can fail, and they come first.
  (reads_negotiate suited wanted).bind_atomic fun _ =>
    (reads_liftM _).bind_atomic fun _ => (succeeds_commit _ _ _ _ _).atomic

theorem atomic_setTextBody (kind : PartKind) (s : String) :
    Atomic (setTextBody kind s none) :=
  reads_get.bind_atomic fun _ => (reads_liftM _).bind_atomic fun _ =>
    Succeeds.atomic fun _ => ⟨⟨⟩, rfl⟩

theorem atomic_setBody (kind : PartKind) (source : BodySource) (wanted : Option Value) :
    Atomic (setBody kind source wanted) := by
  cases way_setBody kind source wanted with
  | refused e is =>
    rw [is]
    exact (reads_throw e).atomic
  | undeclared s _ _ _ is =>
    rw [is]
    exact atomic_setTextBody kind s
  | encoded suited annotations encode _ _ _ _ is =>
    rw [is]
    exact atomic_setBodyAs kind suited wanted annotations encode

theorem atomic_setQuotedBody (kind : PartKind) (v : Value) (wanted : Option Value) :
    Atomic (setQuotedBody kind v wanted) := by
  cases v with
  | text s => exact atomic_setBody _ _ _
  | _ => exact (reads_throw _).atomic

theorem atomic_setBinaryBody (shown wanted : Value) : Atomic (setBinaryBody shown wanted) :=
  (reads_liftM _).bind_atomic fun _ => (reads_liftM _).bind_atomic fun _ =>
    ((succeeds_modify _).bind fun _ =>
      (succeeds_modify _).bind fun _ => succeeds_modify _).atomic

end PartDraft

namespace PartEdit

def setsBody : PartEdit → Bool
  | body _ _ | quotedBody _ _ | binaryBody _ _ => true
  | _ => false

theorem atomic_run (kind : PartKind) {e : PartEdit} (h : e.setsBody = true) :
    Atomic (e.run kind) := by
  cases e with
  | body source wanted => exact PartDraft.atomic_setBody kind source wanted
  | quotedBody v wanted => exact PartDraft.atomic_setQuotedBody kind v wanted
  | binaryBody shown wanted => exact PartDraft.atomic_setBinaryBody shown wanted
  | _ => cases h

end PartEdit

namespace Session

namespace Operation

def setsBody : Operation → Bool
  | editRequest _ (.part e) | editResponse _ (.part e) => e.setsBody
  | _ => false

end Operation

theorem modify_of_fixed {α : Type} {l : List α} {n : Nat} {a : α} {f : α → α} (hn : l[n]? = some a)
    (hf : f a = a) : l.modify n f = l := by
  refine List.ext_getElem? fun i => ?_
  rw [List.getElem?_modify]
  by_cases h : n = i
  · rw [← h, hn]
    simp [hf]
  · simp [h]

theorem step_editRequest (s : Session) (n : Nat) (edit : RequestEdit) :
    s.step (.editRequest n edit) = perform (Session.editRequest n edit) s := rfl

theorem step_editResponse (s : Session) (n : Nat) (edit : ResponseEdit) :
    s.step (.editResponse n edit) = perform (Session.editResponse n edit) s := rfl

theorem editRequest_of_error {s : Session} {n : Nat} {edit : RequestEdit} (hedit : Atomic edit.run)
    {e : Error} (he : (perform (editRequest n edit) s).1 = .error e) :
    (perform (editRequest n edit) s).2 = s := by
  cases hq : s.requests[n]? with
  | none => rw [editRequest, perform_bind, perform_find, hq]
  | some q =>
    rw [perform_editRequest hq] at he ⊢
    cases ha : (perform edit.run q.draft).1 with
    | ok a =>
      rw [ha] at he
      cases he
    | error e' =>
      have hd : (perform edit.run q.draft).2 = q.draft := hedit q.draft e' ha
      dsimp only
      rw [hd, modify_of_fixed hq rfl]

theorem editResponse_of_error {s : Session} {n : Nat} {edit : ResponseEdit}
    (hedit : Atomic edit.run) {e : Error} (he : (perform (editResponse n edit) s).1 = .error e) :
    (perform (editResponse n edit) s).2 = s := by
  cases hr : s.responses[n]? with
  | none => rw [editResponse, perform_bind, perform_find, hr]
  | some r =>
    rw [perform_editResponse hr] at he ⊢
    cases ha : (perform edit.run r.draft).1 with
    | ok a =>
      rw [ha] at he
      cases he
    | error e' =>
      have hd : (perform edit.run r.draft).2 = r.draft := hedit r.draft e' ha
      dsimp only
      rw [hd, modify_of_fixed hr rfl]

/-- A body that cannot be set leaves the whole session as it was: headers, body, rules and generators
of the draft, and all others. -/
theorem step_of_failed_body (s : Session) {op : Operation} (hop : op.setsBody = true) {e : Error}
    (he : (s.step op).1 = .error e) : (s.step op).2 = s := by
  cases op with
  | editRequest n edit =>
    cases edit with
    | part edit =>
      have hedit : Atomic (RequestEdit.part edit).run :=
        (PartEdit.atomic_run .request hop).within fun _ => rfl
      rw [step_editRequest] at he ⊢
      exact editRequest_of_error hedit he
    | _ => cases hop
  | editResponse n edit =>
    cases edit with
    | part edit =>
      have hedit : Atomic (ResponseEdit.part edit).run :=
        (PartEdit.atomic_run .response hop).within fun _ => rfl
      rw [step_editResponse] at he ⊢
      exact editResponse_of_error hedit he
    | _ => cases hop
  | _ => cases hop

theorem step_of_unserializable_member :
    let s := empty.after opening
    let op := .editResponse 0 (.part (.body (.value (.map [(.text "id", .foreign "object")])) none))
    (s.step op).1 = .error (.json (.unsupported "object")) ∧ (s.step op).2 = s := by
  intro s op
  have h : (s.step op).1 = .error (.json (.unsupported "object")) := rfl
  exact ⟨h, step_of_failed_body s rfl h⟩

end Session

end HttpContract
