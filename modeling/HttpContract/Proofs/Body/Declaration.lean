import HttpContract.Proofs.Body.Failure
import HttpContract.Proofs.Encoding.Inverse
import HttpContract.Proofs.MediaType.Charset

/-!
What declares a body that has been set. Its media type is read back from the header that stands there
afterwards, whether that one was asked for, was there before or is there by default, and with its
charset the bytes are the text that they were made from. A document without content is declared as
well, but its body has no media type.
-/
namespace HttpContract

open Editing

/-! ## Headers that declare a body -/

namespace PartDraft

theorem isContentType_contentType : Fields.isContentType Fields.contentType = true := rfl

theorem contentType?_declare (p : PartDraft) (mediaType : String) :
    (p.declare mediaType).headers.contentType? = some mediaType := by
  unfold declare Fields.contentType?
  have hnone : (p.headers.filter fun e => !Fields.isContentType e.1).findSome?
      (fun e => if Fields.isContentType e.1 then e.2.head? else none) = none := by
    rw [List.findSome?_eq_none_iff]
    intro e he
    have := (List.mem_filter.mp he).2
    simp only [Bool.not_eq_true'] at this
    simp [this]
  rw [List.findSome?_append, hnone, List.findSome?_singleton, isContentType_contentType]
  rfl

def jsonTypeRule : Rule := .regex jsonTypePattern (some MediaType.applicationJson)

theorem category_setHeaderRule (p : PartDraft) (name : String) (rule : Rule) :
    RuleSet.category (p.setHeaderRule name rule).rules "header" =
      RuleGroups.setRule (RuleSet.category p.rules "header") name rule .all := by
  unfold setHeaderRule
  rw [RuleSet.category_change, if_pos rfl]

theorem perform_declareDefault (kind : PartKind) (mediaType : String) (p : PartDraft) :
    (perform (declareDefault kind mediaType) p).2 =
      if kind = .response ∧ mediaType = MediaType.applicationJson then
        (p.setHeaderRule Fields.contentType jsonTypeRule).declare mediaType
      else p.declare mediaType := by
  unfold declareDefault
  split
  · rename_i h
    rw [h.2]
    rfl
  · rfl

/-! ## Committing a body -/

theorem perform_commit (kind : PartKind) (body : Body) (m : MediaType) (explicit : Bool)
    (annotations : Option Annotations) (p : PartDraft) :
    (perform (commit kind body m explicit annotations) p).2 =
      { (perform (annotate annotations) (perform (declareAs kind m explicit) p).2).2 with
        body := body } := by
  unfold commit
  rw [(succeeds_declareAs kind m explicit).perform_then, (succeeds_annotate _).perform_then]
  rfl

theorem headers_annotate (annotations : Option Annotations) (p : PartDraft) :
    (perform (annotate annotations) p).2.headers = p.headers := by
  cases annotations <;> rfl

theorem category_annotate (annotations : Option Annotations) (p : PartDraft) {name : String}
    (h : name ≠ "body") :
    RuleSet.category (perform (annotate annotations) p).2.rules name =
      RuleSet.category p.rules name := by
  cases annotations with
  | none => rfl
  | some a =>
    show RuleSet.category (RuleSet.mergeCategory p.rules "body" a.rules) name = _
    rw [RuleSet.mergeCategory, RuleSet.category_change, if_neg h.symm]

/-- Media type and charset agree, whatever they come from. -/
theorem of_negotiate_ok {suited : String} (hs : MediaType.Plain suited) {wanted : Option Value}
    {p : PartDraft} {m : MediaType} {charset : String}
    (h : (perform (negotiate suited wanted) p).1 = .ok (m, charset)) :
    charset = m.charset p.config.defaultCharset
      ∧ (∀ v, wanted = some v → v.toMediaType = .ok m)
      ∧ (wanted = none → ∀ earlier, p.headers.contentType? = some earlier →
          MediaType.ofText earlier = .ok m)
      ∧ (wanted = none → p.headers.contentType? = none →
          m.text = suited ∧ MediaType.ofText suited = .ok m) := by
  unfold negotiate at h
  rw [perform_bind, perform_get] at h
  dsimp only at h
  cases wanted with
  | some v =>
    obtain ⟨m', hm, hc⟩ := (reads_liftM _).of_bind_ok h
    cases hc
    exact ⟨rfl, fun w hw => by cases hw; exact hm, nofun, nofun⟩
  | none =>
    cases hh : p.headers.contentType? with
    | some earlier =>
      rw [hh] at h
      obtain ⟨m', hm, hc⟩ := (reads_liftM _).of_bind_ok h
      cases hc
      exact ⟨rfl, nofun, fun _ e he => by cases he; exact hm, fun _ => nofun⟩
    | none =>
      rw [hh] at h
      obtain ⟨m', hm, hc⟩ := (reads_liftM _).of_bind_ok h
      cases hc
      obtain ⟨plain, hp, ht, hn⟩ := hs
      have hm : plain = m := Except.ok.inj (hp.symm.trans hm)
      subst hm
      refine ⟨?_, nofun, fun _ _ => nofun, fun _ _ => ⟨ht, hp⟩⟩
      rw [MediaType.charset, hn]

/-- A body that has been set is one whose bytes were encoded with the charset of its media type. -/
theorem of_setBodyAs_ok {kind : PartKind} {suited : String} (hs : MediaType.Plain suited)
    {wanted : Option Value} {annotations : Option Annotations}
    {encode : String → Result (Option (List UInt8))} {p : PartDraft}
    (h : (perform (setBodyAs kind suited wanted annotations encode) p).1 = .ok ()) :
    ∃ m bytes, (perform (negotiate suited wanted) p).1 =
        .ok (m, m.charset p.config.defaultCharset)
      ∧ encode (m.charset p.config.defaultCharset) = .ok bytes
      ∧ (perform (setBodyAs kind suited wanted annotations encode) p).2 =
        (perform (commit kind (.encoded bytes m) m wanted.isSome annotations) p).2 := by
  obtain ⟨⟨m, charset⟩, hm, hrest⟩ := (reads_negotiate suited wanted).of_bind_ok h
  obtain ⟨bytes, hb, -⟩ := (reads_liftM _).of_bind_ok hrest
  obtain ⟨rfl, -⟩ := of_negotiate_ok hs hm
  refine ⟨m, bytes, hm, hb, ?_⟩
  rw [setBodyAs, (reads_negotiate suited wanted).perform_then hm]
  dsimp only
  rw [(reads_liftM _).perform_then hb]

/-- The media type `m` of a body is declared by `header`, as it is asked for, as it was before, or as
it suits the body. -/
structure Declares (kind : PartKind) (suited : Option String) (wanted : Option Value)
    (p q : PartDraft) (m : MediaType) (header : String) : Prop where
  declared : q.headers.contentType? = some header
  /-- Only a media type that was put together by hand need not be what its header says. -/
  reads : MediaType.ofText header = .ok m ↔ ∀ given, wanted = some (.mediaType given) → given.IsRead
  asked : ∀ v, wanted = some v → v.toMediaType = .ok m ∧ header = m.text
  kept : wanted = none → ∀ earlier, p.headers.contentType? = some earlier →
    header = earlier ∧ q.headers = p.headers
  default : wanted = none → p.headers.contentType? = none → suited = some header
  /-- Headers get a rule only with JSON by default, and only in a response. -/
  rules : RuleSet.category q.rules "header" =
    if kind = .response ∧ wanted = none ∧ p.headers.contentType? = none
        ∧ suited = some MediaType.applicationJson then
      RuleGroups.setRule (RuleSet.category p.rules "header") Fields.contentType jsonTypeRule .all
    else RuleSet.category p.rules "header"

theorem isRead_iff_of_asked {v : Value} {m : MediaType} (h : v.toMediaType = .ok m) :
    m.IsRead ↔ ∀ given, some v = some (.mediaType given) → given.IsRead := by
  cases v with
  | mediaType given =>
    cases h
    exact ⟨fun hm _ hg => by cases hg; exact hm, fun hm => hm _ rfl⟩
  | text s => exact iff_of_true (MediaType.isRead_of_ofText h) fun _ hg => by cases hg
  | _ =>
    obtain ⟨_, -, h⟩ := exists_of_bind_ok h
    cases h

theorem declareAs_of_kept {kind : PartKind} {m : MediaType} {p : PartDraft} {earlier : String}
    (h : p.headers.contentType? = some earlier) : (perform (declareAs kind m false) p).2 = p := by
  unfold declareAs
  rw [if_neg (by simp), perform_bind, perform_get]
  dsimp only
  rw [h]
  rfl

theorem declareAs_of_default {kind : PartKind} {m : MediaType} {p : PartDraft}
    (h : p.headers.contentType? = none) :
    (perform (declareAs kind m false) p).2 =
      if kind = .response ∧ m.text = MediaType.applicationJson then
        (p.setHeaderRule Fields.contentType jsonTypeRule).declare m.text
      else p.declare m.text := by
  unfold declareAs
  rw [if_neg (by simp), perform_bind, perform_get]
  dsimp only
  rw [h]
  exact perform_declareDefault kind m.text p

theorem declares_commit {kind : PartKind} {suited : String} (hs : MediaType.Plain suited)
    {wanted : Option Value} {p : PartDraft} {m : MediaType} {charset : String}
    (hm : (perform (negotiate suited wanted) p).1 = .ok (m, charset)) (body : Body)
    (annotations : Option Annotations) :
    ∃ header, Declares kind (some suited) wanted p
      (perform (commit kind body m wanted.isSome annotations) p).2 m header := by
  obtain ⟨-, hasked, hkept, hdefault⟩ := of_negotiate_ok hs hm
  have hne : "header" ≠ "body" := by decide
  rw [perform_commit]
  -- The header is asked for, was there before, or is there by default.
  cases wanted with
  | some v =>
    refine ⟨m.text, ?_, isRead_iff_of_asked (hasked v rfl), ?_, nofun, nofun, ?_⟩
    · rw [headers_annotate]
      exact contentType?_declare p m.text
    · intro w hw
      exact ⟨hasked w hw, rfl⟩
    · rw [if_neg (by simp), category_annotate _ _ hne]
      rfl
  | none =>
    rw [Option.isSome_none]
    cases hh : p.headers.contentType? with
    | some earlier =>
      rw [declareAs_of_kept hh]
      refine ⟨earlier, ?_, iff_of_true (hkept rfl earlier hh) nofun, nofun, ?_, ?_, ?_⟩
      · rw [headers_annotate, hh]
      · intro _ e he
        rw [hh] at he
        cases he
        exact ⟨rfl, headers_annotate _ _⟩
      · intro _ h
        rw [hh] at h
        cases h
      · rw [category_annotate _ _ hne, if_neg (by simp [hh])]
    | none =>
      obtain ⟨ht, hread⟩ := hdefault rfl hh
      rw [declareAs_of_default hh, ht]
      refine ⟨suited, ?_, iff_of_true hread nofun, nofun, ?_, fun _ _ => rfl, ?_⟩
      · rw [headers_annotate]
        split <;> exact contentType?_declare _ suited
      · intro _ e he
        rw [hh] at he
        cases he
      · rw [category_annotate _ _ hne]
        by_cases hj : kind = .response ∧ suited = MediaType.applicationJson
        · rw [if_pos hj, if_pos ⟨hj.1, rfl, hh, congrArg some hj.2⟩]
          exact category_setHeaderRule p Fields.contentType jsonTypeRule
        · rw [if_neg hj, if_neg]
          · rfl
          · intro h
            exact hj ⟨h.1, Option.some.inj h.2.2.2⟩

end PartDraft

/-! ## The text of a body -/

namespace Body

theorem mediaType_ofBytes (bytes : List UInt8) (m : Option MediaType) :
    (ofBytes bytes m).mediaType = m := by
  cases bytes <;> rfl

theorem charset_ofBytes (bytes : List UInt8) (m : Option MediaType) (default : String) :
    (ofBytes bytes m).charset default =
      match m with
      | some m => m.charset default
      | none => default := by
  cases bytes <;> rfl

def HoldsText (b : Body) (default s : String) : Prop :=
  Encoding.Inverts (b.charset default) → b.text default = .ok s

theorem holdsText_ofBytes (wrap : EncodingFault → Error) {s : String} {bytes : List UInt8}
    {m : Option MediaType} {default : String}
    (h : Encoding.encodeText wrap ((ofBytes bytes m).charset default) s.toList = .ok bytes) :
    (ofBytes bytes m).HoldsText default s := by
  intro hi
  cases bytes with
  | nil =>
    have hs : s.toList = [] := Encoding.eq_nil_of_encodeText hi h
    rw [String.toList_eq_nil_iff.mp hs]
    rfl
  | cons b rest =>
    have hd := Encoding.decodeText_encodeText hi h
    show String.ofList <$> Encoding.decodeText _ (b :: rest) = .ok s
    rw [hd]
    show Except.ok (String.ofList s.toList) = .ok s
    rw [String.ofList_toList]

end Body

namespace PartDraft

variable {kind : PartKind} {wanted : Option Value} {p : PartDraft}

/-- A body that has been set is declared, and stored with its media type unless there is nothing to
encode. -/
theorem declares_setBodyAs {suited : String} (hs : MediaType.Plain suited)
    {annotations : Option Annotations} {encode : String → Result (Option (List UInt8))}
    (h : (perform (setBodyAs kind suited wanted annotations encode) p).1 = .ok ()) :
    let q := (perform (setBodyAs kind suited wanted annotations encode) p).2
    ∃ m header, Declares kind (some suited) wanted p q m header
      ∧ (encode (m.charset p.config.defaultCharset) = .ok none → q.body = .null)
      ∧ (encode (m.charset p.config.defaultCharset) ≠ .ok none → q.body.mediaType = some m) := by
  intro q
  obtain ⟨m, bytes, hm, hb, hq⟩ := of_setBodyAs_ok hs h
  have hbody : q.body = .encoded bytes m := by
    rw [show q = _ from hq, perform_commit]
  obtain ⟨header, hd⟩ : ∃ header, Declares kind (some suited) wanted p q m header := by
    rw [show q = _ from hq]
    exact declares_commit hs hm (.encoded bytes m) annotations
  refine ⟨m, header, hd, fun hn => ?_, fun hn => ?_⟩
  · rw [hbody]
    cases hb.symm.trans hn
    rfl
  · rw [hbody]
    cases bytes with
    | none => exact absurd hb hn
    | some written => exact Body.mediaType_ofBytes written (some m)

/-- What would suit a body does not matter where a media type is asked for. -/
theorem Declares.of_asked {v : Value} {suited other : Option String} {q : PartDraft} {m : MediaType}
    {header : String} (h : Declares kind suited (some v) p q m header) :
    Declares kind other (some v) p q m header :=
  { h with
    default := nofun
    rules := by
      have := h.rules
      rw [if_neg (by simp)] at this ⊢
      exact this }

theorem declares_setBody {source : BodySource}
    (h : (perform (setBody kind source wanted) p).1 = .ok ())
    (hd : wanted = none → source.suited? ≠ none) :
    let q := (perform (setBody kind source wanted) p).2
    ∃ m header, Declares kind source.suited? wanted p q m header
      ∧ (source.IsNull (m.charset p.config.defaultCharset) → q.body = .null)
      ∧ (¬ source.IsNull (m.charset p.config.defaultCharset) → q.body.mediaType = some m) := by
  cases way_setBody kind source wanted with
  | refused e is =>
    rw [is, perform_throw] at h
    cases h
  | undeclared s unasked unsuited _ _ => exact absurd unsuited (hd unasked)
  | encoded suited annotations encode plain suits _ null is =>
    rw [is] at h ⊢
    obtain ⟨m, header, hm, hnull, hstored⟩ := declares_setBodyAs plain h
    rw [Ne, null] at hstored
    rw [null] at hnull
    refine ⟨m, header, ?_, hnull, hstored⟩
    cases wanted with
    | none => exact suits rfl ▸ hm
    | some v => exact hm.of_asked

/-- A body that is made from a text holds this text. -/
theorem holdsText_setBodyAs {suited : String} (hs : MediaType.Plain suited)
    {annotations : Option Annotations} {encode : String → Result (Option (List UInt8))}
    {r : Result String} (hr : EncodesText encode r)
    (h : (perform (setBodyAs kind suited wanted annotations encode) p).1 = .ok ()) :
    ∃ s, r = .ok s ∧ (perform (setBodyAs kind suited wanted annotations encode) p).2.body.HoldsText
      p.config.defaultCharset s := by
  obtain ⟨m, bytes, -, hb, hq⟩ := of_setBodyAs_ok hs h
  obtain ⟨s, wrap, written, hs, rfl, he⟩ := hr _ _ hb
  refine ⟨s, hs, ?_⟩
  rw [hq, perform_commit]
  refine Body.holdsText_ofBytes wrap ?_
  rw [Body.charset_ofBytes]
  exact he

/-- Text without a media type is encoded by the settings, and nothing but the body changes. -/
theorem of_undeclared_ok {s : String} (h : (perform (setTextBody kind s none) p).1 = .ok ()) :
    ∃ bytes, encodeBody p.config.defaultCharset s = .ok bytes
      ∧ (perform (setTextBody kind s none) p).2 = { p with body := .ofBytes bytes none } := by
  obtain ⟨_, hp, h⟩ := reads_get.of_bind_ok h
  cases hp
  obtain ⟨bytes, hb, -⟩ := (reads_liftM _).of_bind_ok h
  refine ⟨bytes, hb, ?_⟩
  unfold setTextBody
  rw [perform_bind, perform_get]
  dsimp only
  rw [(reads_liftM _).perform_then hb]
  rfl

theorem holdsText_setTextBody {s : String}
    (h : (perform (setTextBody kind s none) p).1 = .ok ()) :
    (perform (setTextBody kind s none) p).2.body.HoldsText p.config.defaultCharset s := by
  obtain ⟨bytes, hb, hq⟩ := of_undeclared_ok h
  rw [hq]
  refine Body.holdsText_ofBytes (.bodyEncoding p.config.defaultCharset) ?_
  rw [Body.charset_ofBytes]
  exact hb

theorem holdsText_setBody {source : BodySource}
    (h : (perform (setBody kind source wanted) p).1 = .ok ()) {r : Result String}
    (hr : source.text? = some r) :
    ∃ s, r = .ok s ∧ (perform (setBody kind source wanted) p).2.body.HoldsText
      p.config.defaultCharset s := by
  cases way_setBody kind source wanted with
  | refused e is =>
    rw [is, perform_throw] at h
    cases h
  | undeclared s _ _ text is =>
    cases text.symm.trans hr
    rw [is] at h ⊢
    exact ⟨s, rfl, holdsText_setTextBody h⟩
  | encoded suited annotations encode plain _ text _ is =>
    rw [is] at h ⊢
    exact holdsText_setBodyAs plain (text r hr) h

/-- Bytes are always declared anew, by the media type that is asked for. -/
theorem of_setBinaryBody_ok {shown wanted : Value}
    (h : (perform (setBinaryBody shown wanted) p).1 = .ok ()) :
    ∃ m bytes, wanted.toMediaType = .ok m ∧ shown.toBytes = .ok bytes
      ∧ (perform (setBinaryBody shown wanted) p).2 =
        ({ p with body := .ofBytes bytes (some m) }.declare m.text).addRule "body" "$"
          (.mediaType m.text) := by
  obtain ⟨m, hm, hrest⟩ := (reads_liftM _).of_bind_ok h
  obtain ⟨bytes, hb, -⟩ := (reads_liftM _).of_bind_ok hrest
  refine ⟨m, bytes, hm, hb, ?_⟩
  rw [setBinaryBody, (reads_liftM _).perform_then hm, (reads_liftM _).perform_then hb]
  rfl

/-- Bytes that have been set are declared by the media type that was asked for. -/
theorem declares_setBinaryBody {shown v : Value}
    (h : (perform (setBinaryBody shown v) p).1 = .ok ()) :
    let q := (perform (setBinaryBody shown v) p).2
    ∃ m header, Declares kind none (some v) p q m header ∧ q.body.mediaType = some m := by
  obtain ⟨m, bytes, hm, -, hq⟩ := of_setBinaryBody_ok h
  have hne : ¬ "body" = "header" := by decide
  rw [hq]
  refine ⟨m, m.text, ⟨contentType?_declare _ m.text, isRead_iff_of_asked hm, ?_, nofun, nofun, ?_⟩,
    Body.mediaType_ofBytes bytes (some m)⟩
  · intro w hw
    cases hw
    exact ⟨hm, rfl⟩
  · rw [if_neg (by simp), addRule, RuleSet.category_change, if_neg hne]
    rfl

/-- For every part and every body that is set in it, but for a text without a media type: the header
that declares the body is the one that was asked for, or else the one that was there, or else the
default one, and says the media type that was settled, unless one is asked for that is not what its
own text says. The body is stored with this media type, unless it is a document without content,
whose body is null. A body that is made from text holds it. -/
theorem body_agrees_with_header (kind : PartKind) (p : PartDraft) :
    (∀ source wanted, (perform (setBody kind source wanted) p).1 = .ok () →
      (wanted = none → source.suited? ≠ none) →
      let q := (perform (setBody kind source wanted) p).2
      ∃ m header, Declares kind source.suited? wanted p q m header
        ∧ (source.IsNull (m.charset p.config.defaultCharset) → q.body = .null)
        ∧ (¬ source.IsNull (m.charset p.config.defaultCharset) → q.body.mediaType = some m))
    ∧ (∀ shown wanted, (perform (setBinaryBody shown wanted) p).1 = .ok () →
      let q := (perform (setBinaryBody shown wanted) p).2
      ∃ m header, Declares kind none (some wanted) p q m header ∧ q.body.mediaType = some m)
    ∧ (∀ source wanted r, (perform (setBody kind source wanted) p).1 = .ok () →
      source.text? = some r → ∃ s, r = .ok s ∧
        (perform (setBody kind source wanted) p).2.body.HoldsText p.config.defaultCharset s) :=
  ⟨fun _ _ => declares_setBody, fun _ _ => declares_setBinaryBody,
    fun _ _ _ h hr => holdsText_setBody h hr⟩

/-- A map that is set as the body of an empty response is declared as JSON and read back. -/
theorem map_body_agrees_with_header :
    let body : Value := .map [(.text "id", .text "u")]
    let q := (perform (setBody .response (.value body) none) (.ofConfig .standard)).2
    (∃ m header, Declares .response (some "application/json") none (.ofConfig .standard) q m header
        ∧ q.body.mediaType = some m)
      ∧ q.body.text "utf-8" = .ok "\x7b\x22id\x22: \x22u\x22\x7d" := by
  have h : (perform (setBody .response (.value (.map [(.text "id", .text "u")])) none)
      (.ofConfig .standard)).1 = .ok () := rfl
  obtain ⟨hd, -, ht⟩ := body_agrees_with_header .response (.ofConfig .standard)
  obtain ⟨m, header, hm, -, hstored⟩ := hd _ none h fun _ => nofun
  refine ⟨⟨m, header, hm, hstored ?_⟩, ?_⟩
  · rintro ⟨_, ⟨⟩, -⟩
  · obtain ⟨s, hs, hq⟩ := ht _ none _ h rfl
    cases hs
    exact hq Encoding.inverts_standard

/-- A document without content is declared as JSON, but its body has no media type. And a media type
that is put together by hand may be written into a header that says none. -/
theorem null_body_undeclared :
    let empty : Content := ⟨false, .none, fun _ => .ok none⟩
    let given : MediaType := ⟨"as given", "text/plain", []⟩
    let q := perform (setBody .response (.content (.ok empty)) none) (.ofConfig .standard)
    let r := perform (setBody .response (.value (.text "x")) (some (.mediaType given)))
      (.ofConfig .standard)
    (q.1 = .ok () ∧ q.2.headers.contentType? = some "application/json"
      ∧ q.2.body.mediaType = none)
    ∧ r.1 = .ok () ∧ r.2.headers.contentType? = some "as given"
      ∧ r.2.body.mediaType = some given
      ∧ MediaType.ofText "as given" = .error (.mediaTypeEssence "as given" "as given") := by
  refine ⟨⟨rfl, rfl, rfl⟩, rfl, rfl, rfl, ?_⟩
  exact MediaType.ofText_error_iff.mpr (by decide)

end PartDraft

end HttpContract
