import HttpContract.Proofs.Headers.History
import HttpContract.Proofs.Body.Replacement

/-!
What an edit does to the headers of a part: matching a header or setting a body sets one header, or
none, and touches no generator but those of the body.
-/
namespace HttpContract

open Editing

/-! ## The setting of an edit -/

namespace PartDraft

def declaration? (kind : PartKind) (p : PartDraft) (suited : Option String) :
    Option Value → Option Setting
  | some v =>
    match v.toMediaType with
    | .ok m => some ⟨Fields.contentType, m.text, none⟩
    | .error _ => none
  | none =>
    match p.headers.contentType?, suited with
    | none, some value =>
      if kind = .response ∧ value = MediaType.applicationJson then some .json
      else some ⟨Fields.contentType, value, none⟩
    | _, _ => none

end PartDraft

namespace PartEdit

def wanted? : PartEdit → Option Value
  | body _ wanted | quotedBody _ wanted => wanted
  | binaryBody _ wanted => some wanted
  | _ => none

def suited? : PartEdit → Option String
  | body source _ => source.suited?
  | _ => none

def isMatchOrBody : PartEdit → Bool
  | matchHeader _ _ _ => true
  | e => e.setsBody

def setting? (kind : PartKind) (p : PartDraft) : PartEdit → Option Setting
  | matchHeader name pattern shown =>
    match (perform (PartDraft.exampleFor pattern shown) p).1 with
    | .ok s => some ⟨name, s, some pattern⟩
    | .error _ => none
  | e =>
    match (perform (e.run kind) p).1 with
    | .ok _ => p.declaration? kind e.suited? e.wanted?
    | .error _ => none

end PartEdit

/-! ## What it leaves behind -/

/-- Only the body gets generators from a document. -/
theorem Annotations.forPlace_merge_of_ne (s : GeneratorSet) (a : Annotations) {place : Place}
    (h : place ≠ .body) : (s.merge a.generators).forPlace place = s.forPlace place := by
  unfold Annotations.generators
  cases a.places with
  | nil => rfl
  | cons e rest => exact GeneratorSet.forPlace_addAll_of_ne s (e :: rest) h.symm

namespace PartDraft

inductive HeadersSettled (p : PartDraft) : Option Setting → PartDraft → Prop
  | set {s : Setting} {q : PartDraft} (h : p.Sets s q) : HeadersSettled p (some s) q
  | same {q : PartDraft} (headers : q.headers = p.headers)
      (rules : RuleSet.category q.rules "header" = RuleSet.category p.rules "header") :
      HeadersSettled p none q

structure Settles (p : PartDraft) (setting? : Option Setting) (q : PartDraft) : Prop where
  headers : p.HeadersSettled setting? q
  generators : ∀ place, place ≠ .body → q.generators.forPlace place = p.generators.forPlace place

variable (kind : PartKind) (p : PartDraft)

theorem settles_rfl : p.Settles none p := ⟨.same rfl rfl, fun _ _ => rfl⟩

theorem setMatchedHeader_contentType (value : String) :
    p.setMatchedHeader Fields.contentType value = p.declare value :=
  if_pos isContentType_contentType

theorem sets_declare (mediaType : String) :
    p.Sets ⟨Fields.contentType, mediaType, none⟩ (p.declare mediaType) :=
  ⟨congrArg PartDraft.headers (setMatchedHeader_contentType p mediaType).symm, rfl⟩

theorem sets_match (name pattern value : String) :
    p.Sets ⟨name, value, some pattern⟩
      ((p.setHeaderRule name (.regex pattern (some value))).setMatchedHeader name value) := by
  refine ⟨?_, ?_⟩
  · unfold setMatchedHeader
    split <;> rfl
  · rw [rules_setMatchedHeader]
    exact category_setHeaderRule p name _

theorem generators_setMatchedHeader (name value : String) :
    (p.setMatchedHeader name value).generators = p.generators := by
  unfold setMatchedHeader
  split <;> rfl

theorem forPlace_annotate (annotations : Option Annotations) {place : Place} (h : place ≠ .body) :
    (perform (annotate annotations) p).2.generators.forPlace place = p.generators.forPlace place := by
  cases annotations with
  | none => rfl
  | some a => exact Annotations.forPlace_merge_of_ne p.generators a h

theorem settled_declareAs {suited : String} (hs : MediaType.Plain suited) {wanted : Option Value}
    {m : MediaType} {charset : String}
    (hm : (perform (negotiate suited wanted) p).1 = .ok (m, charset)) :
    p.HeadersSettled (p.declaration? kind (some suited) wanted)
      (perform (declareAs kind m wanted.isSome) p).2 := by
  obtain ⟨-, hasked, -, hdefault⟩ := of_negotiate_ok hs hm
  unfold declaration?
  cases wanted with
  | some v =>
    dsimp only
    rw [hasked v rfl]
    exact .set (sets_declare p m.text)
  | none =>
    rw [Option.isSome_none]
    cases hh : p.headers.contentType? with
    | some earlier =>
      rw [declareAs_of_kept hh]
      exact .same rfl rfl
    | none =>
      rw [declareAs_of_default hh, (hdefault rfl hh).1]
      by_cases hj : kind = .response ∧ suited = MediaType.applicationJson
      · dsimp only
        rw [if_pos hj, if_pos hj, hj.2, ← setMatchedHeader_contentType]
        exact .set (sets_match p Fields.contentType jsonTypePattern _)
      · dsimp only
        rw [if_neg hj, if_neg hj]
        exact .set (sets_declare p suited)

/-- A body that is committed is declared, and changes no other header. -/
theorem settles_commit {suited : String} (hs : MediaType.Plain suited) {wanted : Option Value}
    {m : MediaType} {charset : String}
    (hm : (perform (negotiate suited wanted) p).1 = .ok (m, charset)) (body : Body)
    (annotations : Option Annotations) :
    p.Settles (p.declaration? kind (some suited) wanted)
      (perform (commit kind body m wanted.isSome annotations) p).2 := by
  have hne : "header" ≠ "body" := by decide
  rw [perform_commit]
  refine ⟨?_, fun place hp => ?_⟩
  · have hdeclared := settled_declareAs kind p hs hm
    generalize p.declaration? kind (some suited) wanted = setting? at hdeclared ⊢
    cases hdeclared with
    | set h =>
      exact .set ⟨(headers_annotate annotations _).trans h.headers,
        (category_annotate annotations _ hne).trans h.rules⟩
    | same headers rules =>
      exact .same ((headers_annotate annotations _).trans headers)
        ((category_annotate annotations _ hne).trans rules)
  · refine (forPlace_annotate _ annotations hp).trans ?_
    rw [(generators_declareAs kind m wanted.isSome p).1]

/-- Making an example is remembered, and changes nothing else. -/
theorem exists_asked_exampleFor (pattern : String) (shown : Option String) :
    ∃ asked, (perform (exampleFor pattern shown) p).2 = { p with asked := asked } := by
  cases shown with
  | some s => exact ⟨p.asked, rfl⟩
  | none => exact ⟨p.asked ++ [pattern], rfl⟩

theorem settles_matchHeader (name pattern : String) (shown : Option String) :
    p.Settles ((PartEdit.matchHeader name pattern shown).setting? kind p)
      (perform (matchHeader name pattern shown) p).2 := by
  obtain ⟨asked, hasked⟩ := exists_asked_exampleFor p pattern shown
  rw [matchHeader, perform_bind, hasked, PartEdit.setting?]
  cases (perform (exampleFor pattern shown) p).1 with
  | ok s =>
    have hset := sets_match { p with asked := asked } name pattern s
    refine ⟨.set ⟨hset.headers.trans ?_, hset.rules⟩, fun place _ => ?_⟩
    · unfold setMatchedHeader
      split <;> rfl
    · exact congrArg (GeneratorSet.forPlace · place) (generators_setMatchedHeader _ name s)
  | error e => exact ⟨.same rfl rfl, fun _ _ => rfl⟩

def bodySetting? (suited : Option String) (wanted : Option Value) (x : Editing PartDraft Unit) :
    Option Setting :=
  match (perform x p).1 with
  | .ok _ => p.declaration? kind suited wanted
  | .error _ => none

/-- What fails without a trace sets nothing. -/
theorem settles_failure (suited : Option String) (wanted : Option Value)
    {x : Editing PartDraft Unit} (hx : Atomic x) {e : Error} (he : (perform x p).1 = .error e) :
    p.Settles (bodySetting? kind p suited wanted x) (perform x p).2 := by
  rw [bodySetting?, he, hx p e he]
  exact settles_rfl p

theorem settles_setBodyAs {suited : String} (hs : MediaType.Plain suited) (wanted : Option Value)
    (annotations : Option Annotations) (encode : String → Result (Option (List UInt8))) :
    p.Settles
      (bodySetting? kind p (some suited) wanted (setBodyAs kind suited wanted annotations encode))
      (perform (setBodyAs kind suited wanted annotations encode) p).2 := by
  cases hr : (perform (setBodyAs kind suited wanted annotations encode) p).1 with
  | error e => exact settles_failure kind p _ _ (atomic_setBodyAs _ _ _ _ _) hr
  | ok u =>
    obtain ⟨m, bytes, hm, -, hq⟩ := of_setBodyAs_ok hs hr
    rw [bodySetting?, hr, hq]
    exact settles_commit kind p hs hm (.encoded bytes m) annotations

theorem settles_setBody (source : BodySource) (wanted : Option Value) :
    p.Settles (bodySetting? kind p source.suited? wanted (setBody kind source wanted))
      (perform (setBody kind source wanted) p).2 := by
  cases way_setBody kind source wanted with
  | refused e is =>
    rw [is]
    exact settles_failure kind p _ _ (reads_throw e).atomic rfl
  | undeclared s unasked unsuited _ is =>
    rw [is]
    cases hr : (perform (setTextBody kind s none) p).1 with
    | error e => exact settles_failure kind p _ _ (atomic_setTextBody kind s) hr
    | ok u =>
      obtain ⟨bytes, -, hq⟩ := of_undeclared_ok hr
      have hnone : p.declaration? kind none none = none := by
        unfold declaration?
        cases p.headers.contentType? <;> rfl
      rw [bodySetting?, hr, hq, unasked, unsuited]
      dsimp only
      rw [hnone]
      exact ⟨.same rfl rfl, fun _ _ => rfl⟩
  | encoded suited annotations encode plain suits _ _ is =>
    rw [is]
    cases wanted with
    | none =>
      rw [suits rfl]
      exact settles_setBodyAs kind p plain none annotations encode
    | some v => exact settles_setBodyAs kind p plain (some v) annotations encode

theorem settles_setBinaryBody (shown wanted : Value) :
    p.Settles (bodySetting? kind p none (some wanted) (setBinaryBody shown wanted))
      (perform (setBinaryBody shown wanted) p).2 := by
  cases hr : (perform (setBinaryBody shown wanted) p).1 with
  | error e => exact settles_failure kind p _ _ (atomic_setBinaryBody shown wanted) hr
  | ok u =>
    obtain ⟨m, bytes, hm, -, hq⟩ := of_setBinaryBody_ok hr
    rw [bodySetting?, hr, hq]
    dsimp only
    rw [declaration?, hm]
    refine ⟨.set ⟨(sets_declare p m.text).headers, ?_⟩, fun _ _ => rfl⟩
    rw [addRule, RuleSet.category_change, if_neg (by decide)]
    rfl

end PartDraft

/-- Matching a header and setting a body, whether they succeed or not. -/
theorem PartEdit.settles_run (kind : PartKind) {e : PartEdit} (he : e.isMatchOrBody = true)
    (p : PartDraft) : p.Settles (e.setting? kind p) (perform (e.run kind) p).2 := by
  cases e with
  | matchHeader name pattern shown => exact PartDraft.settles_matchHeader kind p name pattern shown
  | body source wanted => exact PartDraft.settles_setBody kind p source wanted
  | quotedBody v wanted =>
    cases v with
    | text s => exact PartDraft.settles_setBody kind p _ wanted
    | _ => exact PartDraft.settles_failure kind p none wanted (reads_throw _).atomic rfl
  | binaryBody shown wanted => exact PartDraft.settles_setBinaryBody kind p shown wanted
  | _ => cases he

/-! ## Settings without a pattern -/

theorem PartDraft.isContentType_declaration {kind : PartKind} {p : PartDraft}
    {suited : Option String} {wanted : Option Value} {s : Setting}
    (hs : p.declaration? kind suited wanted = some s) : Fields.isContentType s.name = true := by
  unfold declaration? at hs
  split at hs
  · split at hs <;> cases hs
    exact isContentType_contentType
  · split at hs
    · split at hs <;> cases hs <;> exact isContentType_contentType
    · cases hs

theorem PartEdit.isContentType_setting {kind : PartKind} {e : PartEdit} {p : PartDraft} {s : Setting}
    (hs : e.setting? kind p = some s) (hno : s.isMatch = false) :
    Fields.isContentType s.name = true := by
  unfold setting? at hs
  split at hs
  · split at hs
    · cases hs
      cases hno
    · cases hs
  · split at hs
    · exact PartDraft.isContentType_declaration hs
    · cases hs

end HttpContract
