import HttpContract.Proofs.Body.Declaration
import HttpContract.Proofs.Draft.Filled
import HttpContract.Proofs.Session.Sound

/-!
The rules and generators of a body that is set in the place of another. They join those that are
there, so that those of the body before stay in force: exactly the bodies without rules of their own,
whose generators the new ones all hide, leave nothing behind.
-/
namespace HttpContract

open Editing

/-! ## Joining rules and generators -/

namespace RuleGroups

/-- What joins is all that is there afterwards only where nothing was there before. -/
theorem get?_merge_eq_iff {m other : RuleGroups} (hm : Filled m)
    (ho : (Keyed.keys other).Nodup) :
    (∀ key, Keyed.get? (merge m other) key = Keyed.get? other key) ↔ m = [] := by
  constructor
  · intro h
    refine Keyed.eq_nil_of_get? fun key => ?_
    have hk := h key
    rw [get?_merge m ho] at hk
    cases hg : Keyed.get? m key with
    | none => rfl
    | some g =>
      -- Its rules come before the new ones, and it has some.
      rw [hg] at hk
      cases hn : Keyed.get? other key with
      | none =>
        rw [hn] at hk
        cases hk
      | some group =>
        rw [hn] at hk
        have hr : g.rules ++ group.rules = group.rules :=
          congrArg RuleGroup.rules (Option.some.inj hk)
        have : g.rules = [] := by simpa using hr
        exact absurd this (hm _ (Keyed.mem_of_get? hg))
  · rintro rfl key
    rw [get?_merge [] ho]
    cases Keyed.get? other key with
    | none => rfl
    | some group => rfl

/-- What joins once more is there twice, if it is anything. -/
theorem get?_merge_again_iff (m : RuleGroups) {other : RuleGroups} (hf : Filled other)
    (ho : (Keyed.keys other).Nodup) :
    (∀ key, Keyed.get? (merge (merge m other) other) key = Keyed.get? (merge m other) key)
      ↔ other = [] := by
  constructor
  · intro h
    refine Keyed.eq_nil_of_get? fun key => ?_
    have hk := h key
    rw [get?_merge _ ho, get?_merge _ ho] at hk
    cases hn : Keyed.get? other key with
    | none => rfl
    | some group =>
      rw [hn] at hk
      have hr : (joined (Keyed.get? m key) group).rules ++ group.rules =
          (joined (Keyed.get? m key) group).rules :=
        congrArg RuleGroup.rules (Option.some.inj hk)
      have : group.rules = [] := by simpa using hr
      exact absurd this (hf _ (Keyed.mem_of_get? hn))
  · rintro rfl key
    rfl

end RuleGroups

namespace Keyed

variable {α β : Type} [DecidableEq α]

/-- The entries that are put are all that is there if they hide what was there. -/
theorem get?_putAll_eq_iff {m entries : Keyed α β} (h : (keys entries).Nodup) :
    (∀ key, get? (putAll m entries) key = get? entries key) ↔
      ∀ key, get? m key ≠ none → get? entries key ≠ none := by
  constructor
  · intro hk key hm hn
    have := hk key
    rw [get?_putAll m h, hn, Option.none_or] at this
    exact hm this
  · intro hk key
    rw [get?_putAll m h]
    cases hn : get? entries key with
    | some value => rfl
    | none =>
      cases hm : get? m key with
      | none => rfl
      | some value => exact absurd hn (hk key (by simp [hm]))

theorem get?_putAll_again (m : Keyed α β) {entries : Keyed α β} (h : (keys entries).Nodup)
    (key : α) : get? (putAll (putAll m entries) entries) key = get? (putAll m entries) key := by
  rw [get?_putAll _ h, get?_putAll _ h]
  cases get? entries key <;> rfl

end Keyed

theorem Annotations.forPlace_merge (s : GeneratorSet) (a : Annotations) :
    (s.merge a.generators).forPlace .body = Keyed.putAll (s.forPlace .body) a.places := by
  unfold Annotations.generators
  cases a.places with
  | nil => rfl
  | cons e rest => exact GeneratorSet.forPlace_addAll s .body (e :: rest)

/-! ## Bodies that come with rules -/

namespace PartDraft

theorem category_declareAs (kind : PartKind) (m : MediaType) (explicit : Bool) (p : PartDraft) :
    RuleSet.category (perform (declareAs kind m explicit) p).2.rules "body" =
      RuleSet.category p.rules "body" := by
  cases explicit with
  | true => rfl
  | false =>
    cases hh : p.headers.contentType? with
    | some earlier => rw [declareAs_of_kept hh]
    | none =>
      rw [declareAs_of_default hh]
      split
      · show RuleSet.category (p.setHeaderRule _ _).rules "body" = _
        rw [setHeaderRule, RuleSet.category_change, if_neg (by decide)]
      · rfl

theorem generators_declareAs (kind : PartKind) (m : MediaType) (explicit : Bool) (p : PartDraft) :
    (perform (declareAs kind m explicit) p).2.generators = p.generators
      ∧ (perform (declareAs kind m explicit) p).2.config = p.config := by
  cases explicit with
  | true => exact ⟨rfl, rfl⟩
  | false =>
    cases hh : p.headers.contentType? with
    | some earlier =>
      rw [declareAs_of_kept hh]
      exact ⟨rfl, rfl⟩
    | none =>
      rw [declareAs_of_default hh]
      split
      · exact ⟨rfl, rfl⟩
      · exact ⟨rfl, rfl⟩

structure Joins (p q : PartDraft) (a : Annotations) : Prop where
  rules : RuleSet.category q.rules "body" =
    RuleGroups.merge (RuleSet.category p.rules "body") a.rules
  generators : q.generators.forPlace .body =
    Keyed.putAll (p.generators.forPlace .body) a.places

theorem joins_setBodyAs {kind : PartKind} {suited : String} (hs : MediaType.Plain suited)
    {wanted : Option Value} {a : Annotations} {encode : String → Result (Option (List UInt8))}
    {p : PartDraft}
    (h : (perform (setBodyAs kind suited wanted (some a) encode) p).1 = .ok ()) :
    Joins p (perform (setBodyAs kind suited wanted (some a) encode) p).2 a := by
  obtain ⟨m, bytes, -, -, hq⟩ := of_setBodyAs_ok hs h
  rw [hq, perform_commit]
  refine ⟨?_, ?_⟩
  · show RuleSet.category (RuleSet.mergeCategory _ "body" a.rules) "body" = _
    rw [RuleSet.mergeCategory, RuleSet.category_change, if_pos rfl, category_declareAs]
  · show (GeneratorSet.merge _ a.generators).forPlace .body = _
    rw [Annotations.forPlace_merge, (generators_declareAs kind m wanted.isSome p).1]

theorem joins_setBinaryBody {shown wanted : Value} {m : MediaType}
    (hm : wanted.toMediaType = .ok m) {p : PartDraft}
    (h : (perform (setBinaryBody shown wanted) p).1 = .ok ()) :
    Joins p (perform (setBinaryBody shown wanted) p).2
      (Annotations.none.addRule "$" (.mediaType m.text)) := by
  obtain ⟨m', bytes, hm', -, hq⟩ := of_setBinaryBody_ok h
  cases hm.symm.trans hm'
  rw [hq]
  refine ⟨?_, rfl⟩
  rw [addRule, RuleSet.category_change, if_pos rfl]
  rfl

theorem config_commit (kind : PartKind) (body : Body) (m : MediaType) (explicit : Bool)
    (annotations : Option Annotations) (p : PartDraft) :
    (perform (commit kind body m explicit annotations) p).2.config = p.config := by
  rw [perform_commit]
  cases annotations <;> exact (generators_declareAs kind m explicit p).2

theorem negotiate_of_declares {kind : PartKind} {suited : Option String} {wanted : Option Value}
    {p q : PartDraft} {m : MediaType} {header : String}
    (h : Declares kind suited wanted p q m header) (default : String) :
    (perform (negotiate default wanted) q).1 = .ok (m, m.charset q.config.defaultCharset) := by
  unfold negotiate
  rw [perform_bind, perform_get]
  dsimp only
  cases wanted with
  | some v =>
    dsimp only
    rw [perform_bind, perform_liftM, (h.asked v rfl).1]
    rfl
  | none =>
    rw [h.declared]
    dsimp only
    rw [perform_bind, perform_liftM, h.reads.mpr nofun]
    rfl

/-- A body that has been set can be set once more: it is declared by what it declared itself. -/
theorem setBodyAs_again {kind : PartKind} {suited : String} (hs : MediaType.Plain suited)
    {wanted : Option Value} {annotations : Option Annotations}
    {encode : String → Result (Option (List UInt8))} {p : PartDraft}
    (h : (perform (setBodyAs kind suited wanted annotations encode) p).1 = .ok ()) :
    (perform (setBodyAs kind suited wanted annotations encode)
      (perform (setBodyAs kind suited wanted annotations encode) p).2).1 = .ok () := by
  obtain ⟨m, bytes, hm, hb, hq⟩ := of_setBodyAs_ok hs h
  obtain ⟨header, hd⟩ : ∃ header, Declares kind (some suited) wanted p _ m header :=
    declares_commit hs hm (.encoded bytes m) annotations
  have hm' := negotiate_of_declares hd suited
  rw [config_commit] at hm'
  rw [hq]
  unfold setBodyAs
  rw [(reads_negotiate suited wanted).perform_then hm']
  dsimp only
  rw [(reads_liftM _).perform_then hb]
  obtain ⟨u, hu⟩ := succeeds_commit kind (.encoded bytes m) m wanted.isSome annotations
    (perform (commit kind (.encoded bytes m) m wanted.isSome annotations) p).2
  exact hu

theorem setBinaryBody_again {shown wanted : Value} {p : PartDraft}
    (h : (perform (setBinaryBody shown wanted) p).1 = .ok ()) (q : PartDraft) :
    (perform (setBinaryBody shown wanted) q).1 = .ok () := by
  obtain ⟨m, bytes, hm, hb, -⟩ := of_setBinaryBody_ok h
  have hm' : (perform (liftM wanted.toMediaType : Editing PartDraft _) q).1 = .ok m := hm
  have hb' : (perform (liftM shown.toBytes : Editing PartDraft _) q).1 = .ok bytes := hb
  rw [setBinaryBody, (reads_liftM _).perform_then hm', (reads_liftM _).perform_then hb']
  rfl

def HasAnnotations (p : PartDraft) (a : Annotations) : Prop :=
  (∀ key, Keyed.get? (RuleSet.category p.rules "body") key = Keyed.get? a.rules key) ∧
    ∀ key, Keyed.get? (p.generators.forPlace .body) key = Keyed.get? a.places key

/-- Nothing of the body before is left over where this one is set. -/
def Clears (p : PartDraft) (a : Annotations) : Prop :=
  RuleSet.category p.rules "body" = [] ∧
    ∀ key, Keyed.get? (p.generators.forPlace .body) key ≠ none → Keyed.get? a.places key ≠ none

theorem Joins.hasAnnotations_iff {p q : PartDraft} {a : Annotations} (h : Joins p q a)
    (hp : p.Filled) : q.HasAnnotations a ↔ p.Clears a := by
  unfold HasAnnotations Clears
  rw [h.rules, h.generators, RuleGroups.get?_merge_eq_iff (hp "body") a.rules_distinct,
    Keyed.get?_putAll_eq_iff a.places_distinct]

end PartDraft

namespace PartEdit

def annotations? : PartEdit → Option Annotations
  | body (.json d) _ => some d.annotations
  | body (.xml d) _ => some d.annotations
  | body (.content (.ok c)) _ => some c.annotations
  | body (.built b) _ => some b.annotations
  | binaryBody _ wanted =>
    match wanted.toMediaType with
    | .ok m => some (Annotations.none.addRule "$" (.mediaType m.text))
    | .error _ => none
  | _ => none

theorem joins_run {kind : PartKind} {e : PartEdit} {a : Annotations} (ha : e.annotations? = some a)
    {p : PartDraft} (h : (perform (e.run kind) p).1 = .ok ()) :
    PartDraft.Joins p (perform (e.run kind) p).2 a
      ∧ (perform (e.run kind) (perform (e.run kind) p).2).1 = .ok () := by
  cases e with
  | body source wanted =>
    cases source with
    | json d =>
      cases ha
      exact ⟨PartDraft.joins_setBodyAs MediaType.plain_applicationJson h,
        PartDraft.setBodyAs_again MediaType.plain_applicationJson h⟩
    | xml d =>
      cases ha
      exact ⟨PartDraft.joins_setBodyAs MediaType.plain_applicationXml h,
        PartDraft.setBodyAs_again MediaType.plain_applicationXml h⟩
    | content closed =>
      cases closed with
      | error e => cases ha
      | ok c =>
        cases ha
        exact ⟨PartDraft.joins_setBodyAs c.plain_suited h,
          PartDraft.setBodyAs_again c.plain_suited h⟩
    | built b =>
      cases ha
      exact ⟨PartDraft.joins_setBodyAs MediaType.plain_applicationXml h,
        PartDraft.setBodyAs_again MediaType.plain_applicationXml h⟩
    | _ => cases ha
  | binaryBody shown wanted =>
    cases hm : wanted.toMediaType with
    | ok m =>
      simp only [annotations?, hm, Option.some.injEq] at ha
      subst ha
      exact ⟨PartDraft.joins_setBinaryBody hm h, PartDraft.setBinaryBody_again h _⟩
    | error e =>
      simp only [annotations?, hm] at ha
      cases ha
  | _ => cases ha

end PartEdit

/-! ## Every session -/

namespace Session

def parts (s : Session) : List (PartKind × PartDraft) :=
  s.requests.map (fun q => (.request, q.draft.part))
    ++ s.responses.map fun r => (.response, r.draft.part)

theorem Sound.filled_part {s : Session} (h : s.Sound) {kind : PartKind} {p : PartDraft}
    (hp : (kind, p) ∈ s.parts) : p.Filled := by
  rcases List.mem_append.mp hp with hp | hp
  · obtain ⟨q, hq, hqp⟩ := List.mem_map.mp hp
    cases hqp
    exact (h.requests q hq).2.filled
  · obtain ⟨r, hr, hrp⟩ := List.mem_map.mp hp
    cases hrp
    exact (h.responses r hr).2.filled

/-- For every request and response that a session comes to hold, and every body with rules that is set
in it: the rules and generators of its body are those of the new one if and only if there were no
rules before and the new generators hide all that were there. Setting the body once more doubles its
rules, unless it has none. -/
theorem hasAnnotations_iff_clears (ops : List Operation) {kind : PartKind} {p : PartDraft}
    (hp : (kind, p) ∈ (empty.after ops).parts) {e : PartEdit} {a : Annotations}
    (ha : e.annotations? = some a) (h : (perform (e.run kind) p).1 = .ok ()) :
    let q := (perform (e.run kind) p).2
    let r := (perform (e.run kind) q).2
    (q.HasAnnotations a ↔ p.Clears a)
    ∧ (perform (e.run kind) q).1 = .ok ()
    ∧ ((∀ key, Keyed.get? (RuleSet.category r.rules "body") key =
          Keyed.get? (RuleSet.category q.rules "body") key) ↔ a.rules = [])
    ∧ ∀ key, Keyed.get? (r.generators.forPlace .body) key =
        Keyed.get? (q.generators.forPlace .body) key := by
  intro q r
  have hf : p.Filled := (sound_empty.after ops).filled_part hp
  obtain ⟨hq, hagain⟩ := PartEdit.joins_run ha h
  obtain ⟨hr, -⟩ := PartEdit.joins_run ha hagain
  refine ⟨hq.hasAnnotations_iff hf, hagain, ?_, fun key => ?_⟩
  · rw [hr.rules, hq.rules]
    exact RuleGroups.get?_merge_again_iff _ a.rules_filled a.rules_distinct
  · rw [hr.generators, hq.generators]
    exact Keyed.get?_putAll_again _ a.places_distinct key

/-- The body of the response that has just begun can be replaced: there is none. -/
theorem first_binary_body_clears :
    let e := PartEdit.binaryBody (.bytes [0x89, 0x50]) (.text "image/png")
    ∃ a, e.annotations? = some a
      ∧ (perform (e.run .response) (.ofConfig .standard)).2.HasAnnotations a := by
  refine ⟨_, rfl, ?_⟩
  have hp : (PartKind.response, PartDraft.ofConfig .standard) ∈ (empty.after opening).parts :=
    List.mem_append_right _ (List.mem_singleton_self _)
  refine (hasAnnotations_iff_clears opening hp rfl rfl).1.mpr ⟨rfl, ?_⟩
  intro key h
  exact absurd rfl h

/-- Bytes of two media types in turn: no body is of both, but both rules are there. -/
theorem binary_bodies_conflict :
    let s := empty.after (opening ++
      [.editResponse 0 (.part (.binaryBody (.bytes [0x89, 0x50]) (.text "image/png")))])
    let e := PartEdit.binaryBody (.bytes [0x25, 0x50]) (.text "application/pdf")
    ∃ p a, (.response, p) ∈ s.parts ∧ e.annotations? = some a
      ∧ (perform (e.run .response) p).1 = .ok ()
      ∧ RuleSet.category (perform (e.run .response) p).2.rules "body" =
        [("$", ⟨[.mediaType "image/png", .mediaType "application/pdf"], .all⟩)]
      ∧ ¬ (perform (e.run .response) p).2.HasAnnotations a := by
  refine ⟨_, _, List.mem_append_right _ (List.mem_singleton_self _), rfl, rfl, rfl, ?_⟩
  intro h
  exact absurd (h.1 "$") (by decide)

end Session

end HttpContract
