import HttpContract.Proofs.Body.Failure
import HttpContract.Proofs.Draft.Reachable

/-!
What edits do to the rules of a draft, said once: they set the rule of a header, add rules for the
body, the path or a query parameter, or merge those of a document. A property of rules that these
steps keep holds of every draft that has come about by edits.
-/
namespace HttpContract

open Editing

namespace PartDraft

structure Kept (P : RuleSet → Prop) : Prop where
  header {s : RuleSet} (h : P s) (name : String) (rule : Rule) :
    P (RuleSet.change s "header" fun m => RuleGroups.setRule m name rule .all)
  body {s : RuleSet} (h : P s) (key : String) (rule : Rule) :
    P (RuleSet.change s "body" fun m => RuleGroups.addRule m key rule .all)
  merge {s : RuleSet} (h : P s) (a : Annotations) : P (RuleSet.mergeCategory s "body" a.rules)

variable {P : RuleSet → Prop} (hP : Kept P)

theorem keeps_exampleFor (P : RuleSet → Prop) (pattern : String) (shown : Option String) :
    Keeps (fun p => P p.rules) (exampleFor pattern shown) := by
  cases shown with
  | some s => exact (reads_pure s).keeps _
  | none =>
    intro p hp
    rw [exampleFor, perform_bind, perform_get]
    dsimp only
    rw [perform_bind, perform_set]
    dsimp only
    rw [perform_liftM]
    exact hp

theorem rules_setMatchedHeader (p : PartDraft) (name value : String) :
    (p.setMatchedHeader name value).rules = p.rules := by
  unfold setMatchedHeader
  split <;> rfl

include hP

theorem keeps_matchHeader (name pattern : String) (shown : Option String) :
    Keeps (fun p => P p.rules) (matchHeader name pattern shown) :=
  (keeps_exampleFor P pattern shown).bind fun s =>
    (keeps_modify fun _ h => hP.header h name (.regex pattern (some s))).bind fun _ =>
      keeps_modify fun p h => (rules_setMatchedHeader p name s).symm ▸ h

theorem keeps_declareAs (kind : PartKind) (m : MediaType) (explicit : Bool) :
    Keeps (fun p => P p.rules) (declareAs kind m explicit) := by
  unfold declareAs
  split
  · exact keeps_modify fun _ h => h
  · refine reads_get.keeps_bind fun p => ?_
    split
    · exact (reads_pure _).keeps _
    · unfold declareDefault
      split
      · exact keeps_matchHeader hP _ _ _
      · exact keeps_modify fun _ h => h

theorem keeps_annotate (annotations : Option Annotations) :
    Keeps (fun p => P p.rules) (annotate annotations) := by
  cases annotations with
  | none => exact (reads_pure _).keeps _
  | some a => exact (keeps_modify fun _ h => hP.merge h a).bind fun _ => keeps_modify fun _ h => h

theorem keeps_setBodyAs (kind : PartKind) (suited : String) (wanted : Option Value)
    (annotations : Option Annotations) (encode : String → Result (Option (List UInt8))) :
    Keeps (fun p => P p.rules) (setBodyAs kind suited wanted annotations encode) :=
  (reads_negotiate suited wanted).keeps_bind fun _ => (reads_liftM _).keeps_bind fun _ =>
    (keeps_declareAs hP _ _ _).bind fun _ => (keeps_annotate hP _).bind fun _ =>
      keeps_modify fun _ h => h

omit hP in
theorem keeps_setTextBody (kind : PartKind) (s : String) :
    Keeps (fun p => P p.rules) (setTextBody kind s none) := by
  intro p hp
  rw [setTextBody, perform_bind, perform_get]
  dsimp only
  rw [perform_bind, perform_liftM]
  cases encodeBody p.config.defaultCharset s with
  | ok bytes => exact hp
  | error e => exact hp

theorem keeps_setBody (kind : PartKind) (source : BodySource) (wanted : Option Value) :
    Keeps (fun p => P p.rules) (setBody kind source wanted) := by
  cases way_setBody kind source wanted with
  | refused e is =>
    rw [is]
    exact (reads_throw e).keeps _
  | undeclared s _ _ _ is =>
    rw [is]
    exact keeps_setTextBody kind s
  | encoded suited annotations encode _ _ _ _ is =>
    rw [is]
    exact keeps_setBodyAs hP kind suited wanted annotations encode

theorem keeps_setBinaryBody (shown wanted : Value) :
    Keeps (fun p => P p.rules) (setBinaryBody shown wanted) := by
  refine (reads_liftM _).keeps_bind fun m => (reads_liftM _).keeps_bind fun bytes => ?_
  refine Keeps.bind (keeps_modify fun _ h => h) fun _ => ?_
  refine Keeps.bind (keeps_modify fun _ h => h) fun _ => ?_
  exact keeps_modify fun _ h => hP.body h "$" (.mediaType m.text)

end PartDraft

theorem PartEdit.keeps_run {P : RuleSet → Prop} (hP : PartDraft.Kept P) (kind : PartKind)
    (e : PartEdit) : Keeps (fun p => P p.rules) (e.run kind) := by
  cases e with
  | headers entries => exact keeps_modify fun _ h => h
  | matchHeader name pattern shown => exact PartDraft.keeps_matchHeader hP name pattern shown
  | headerFromState name expression shown => exact keeps_modify fun _ h => h
  | body source wanted => exact PartDraft.keeps_setBody hP kind source wanted
  | quotedBody v wanted =>
    cases v with
    | text s => exact PartDraft.keeps_setBody hP kind _ wanted
    | _ => exact (reads_throw _).keeps _
  | binaryBody shown wanted => exact PartDraft.keeps_setBinaryBody hP shown wanted

namespace RequestDraft

structure Kept (P : RuleSet → Prop) : Prop extends PartDraft.Kept P where
  query {s : RuleSet} (h : P s) (name : String) (rule : Rule) :
    P (RuleSet.change s "query" fun m => RuleGroups.addRule m name rule .all)
  path {s : RuleSet} (h : P s) (rule : Rule) :
    P (RuleSet.change s "path" fun m => RuleGroups.addRule m "" rule .all)

variable {P : RuleSet → Prop}

theorem keeps_onPart {α : Type} {x : Editing PartDraft α} (h : Keeps (fun p => P p.rules) x) :
    Keeps (fun d => P d.part.rules) (onPart x) := h.within fun _ _ => rfl

theorem keeps_edit (hP : Kept P) (e : RequestEdit) : Keeps (fun d => P d.part.rules) e.run := by
  cases e with
  | part e => exact keeps_onPart (e.keeps_run hP.toKept .request)
  | method s => exact keeps_modify fun _ h => h
  | query s => exact keeps_modify fun _ h => h
  | matchQuery name pattern shown =>
    exact (keeps_onPart (PartDraft.keeps_exampleFor P pattern shown)).bind fun s =>
      keeps_modify fun _ h => hP.query h name (.regex pattern (some s))
  | queryFromState name expression shown => exact keeps_modify fun _ h => h

theorem keeps_editPath (hP : Kept P) (e : PathEdit) : Keeps (fun d => P d.part.rules) e.run := by
  cases e with
  | path s => exact keeps_modify fun _ h => h
  | matchPath pattern shown =>
    exact (keeps_onPart (PartDraft.keeps_exampleFor P pattern shown)).bind fun s =>
      keeps_modify fun _ h => hP.path h (.regex pattern (some s))
  | pathFromState expression shown => exact keeps_modify fun _ h => h

/-- What holds of no rules at all and is kept by every edit holds of every request. -/
theorem Reachable.rules (hP : Kept P) (hnil : P []) {d : RequestDraft} (h : d.Reachable) :
    P d.part.rules := by
  induction h with
  | fresh c => exact hnil
  | copy c _ ih => exact ih
  | edit e _ ih => exact keeps_edit hP e _ ih
  | editPath e _ ih => exact keeps_editPath hP e _ ih

end RequestDraft

end HttpContract
