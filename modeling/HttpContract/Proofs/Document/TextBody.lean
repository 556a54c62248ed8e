import HttpContract.Document
import HttpContract.Proofs.Body.Declaration
import HttpContract.Proofs.Session.Growth
import HttpContract.Proofs.Success

/-!
Bodies of text in documents. A text is encoded when it is set, by the settings and by the media type
that is asked for; a document decodes it by the media type that the headers declare and by a charset
of its own. It states the text again where both come to the same encoding.
-/
namespace HttpContract

open Editing

/-! ## Two charsets -/

namespace Encoding

/-- What the first charset writes for `s`, the second reads as `t`. -/
def Rereads (written read : String) (s t : List Char) : Prop :=
  ∀ wrap bytes, encodeText wrap written s = .ok bytes → decodeText read bytes = .ok t

theorem rereads_of_same {written read : String} (h : findText written = findText read)
    (hi : Inverts written) (s : List Char) : Rereads written read s s := by
  intro wrap bytes hb
  have hd := decodeText_encodeText hi hb
  unfold decodeText at hd ⊢
  rw [← h]
  exact hd

theorem eq_nil_of_decodeText {charset : String} {s : List Char}
    (h : decodeText charset [] = .ok s) : s = [] := by
  unfold decodeText at h
  split at h
  · cases h
  · cases h
  · rename_i e _
    split at h
    · rename_i t ht
      cases h
      exact Charset.decode_nil ht
    · cases h
    · cases h

end Encoding

/-! ## A text that is set -/

theorem Document.declaredType_ofBytes (bytes : List UInt8) (own : Option MediaType)
    (headers : Fields) : declaredType (.ofBytes bytes own) headers =
      match own with
      | some m => .ok (some m)
      | none => declaredType .missing headers := by
  cases bytes <;> cases own <;> rfl

namespace PartDraft

variable {kind : PartKind} {wanted : Option Value} {p : PartDraft} {m : Option MediaType}

/-- The media type of a text that is set now: the one that is asked for, or else that of the headers
if they can be read. -/
def declared (p : PartDraft) : Option Value → Result (Option MediaType)
  | some v => some <$> v.toMediaType
  | none => Document.declaredType .missing p.headers

def writtenIn (p : PartDraft) (wanted : Option Value) (m : Option MediaType) : String :=
  match wanted, m with
  | some _, some m => m.charset p.config.defaultCharset
  | _, _ => p.config.defaultCharset

theorem of_setTextBody_ok {s : String} (h : (perform (setTextBody kind s wanted) p).1 = .ok ())
    (hm : p.declared wanted = .ok m) :
    ∃ bytes own, encodeBody (p.writtenIn wanted m) s = .ok bytes
      ∧ (perform (setTextBody kind s wanted) p).2.body = .ofBytes bytes own
      ∧ Document.declaredType (.ofBytes bytes own)
          (perform (setTextBody kind s wanted) p).2.headers = .ok m := by
  cases wanted with
  | none =>
    obtain ⟨bytes, hb, hq⟩ := of_undeclared_ok h
    refine ⟨bytes, none, hb, ?_, ?_⟩ <;> rw [hq]
    rw [Document.declaredType_ofBytes]
    exact hm
  | some v =>
    rw [setTextBody] at h ⊢
    obtain ⟨own, bytes, hn, hb, hq⟩ := of_setBodyAs_ok MediaType.plain_applicationJson h
    have hv : v.toMediaType = .ok own :=
      (of_negotiate_ok MediaType.plain_applicationJson hn).2.1 v rfl
    have hown : m = some own := by
      rw [declared, hv] at hm
      cases hm
      rfl
    subst hown
    obtain ⟨written, hw, rfl⟩ := map_some_eq_ok_iff.mp hb
    refine ⟨written, some own, hw, ?_, Document.declaredType_ofBytes written (some own) _⟩
    rw [hq, perform_commit]
    rfl

end PartDraft

/-! ## The text in the document -/

namespace Document

def readIn (m : Option MediaType) (default : String) : String :=
  match m with
  | some m => m.charset default
  | none => default

theorem textValue_nil (m : Option MediaType) : textValue m [] = .text "" := by
  cases m with
  | none => rfl
  | some m =>
    rw [textValue]
    split <;> rfl

theorem textValue_of_not_json {m : Option MediaType} (h : ∀ a, m = some a → a.isJson = false)
    (s : List Char) : textValue m s = .text (String.ofList s) := by
  cases m with
  | none => rfl
  | some a =>
    rw [textValue, h a rfl]
    rfl

theorem bytesValue_of_text {m : Option MediaType} (hm : ∀ t, m = some t → t.isText = true)
    {default : String} {bytes : List UInt8} {s : List Char}
    (h : Encoding.decodeText (readIn m default) bytes = .ok s) :
    bytesValue m default bytes = .ok (textValue m s) := by
  cases m with
  | none =>
    rw [readIn] at h
    simp only [bytesValue, bytesValue.decoded, h]
  | some t =>
    rw [readIn] at h
    simp only [bytesValue, hm t rfl, if_true, bytesValue.decoded, h]

theorem bodyValue_of_text {bytes : List UInt8} {own m : Option MediaType} {headers : Fields}
    (hd : declaredType (.ofBytes bytes own) headers = .ok m)
    (hm : ∀ t, m = some t → t.isText = true) {default : String} {s : List Char}
    (h : Encoding.decodeText (readIn m default) bytes = .ok s) :
    bodyValue (.ofBytes bytes own) headers default = .ok (textValue m s) := by
  cases bytes with
  | nil =>
    rw [Encoding.eq_nil_of_decodeText h, textValue_nil]
    rfl
  | cons b rest =>
    show declaredType (.ofBytes (b :: rest) own) headers >>= _ = _
    rw [hd]
    exact bytesValue_of_text hm h

/-! ## What a document states -/

def member (v : Value) (name : String) : Value :=
  match v with
  | .map entries => (Value.lookup entries name).getD .null
  | _ => .null

def member? (v : Value) (name : String) : Option Value :=
  match v with
  | .map entries => Value.lookup entries name
  | _ => none

theorem member_eq (v : Value) (name : String) : member v name = (member? v name).getD .null := by
  cases v <;> rfl

theorem member_record (entries : Keyed String Value) (name : String) :
    member (.record entries) name = (Keyed.get? entries name).getD .null :=
  congrArg (·.getD .null) (Value.lookup_record entries name)

def hasValue : Value → Bool
  | .null => false
  | _ => true

theorem member?_fields {entries : Keyed String Value} (hn : (Keyed.keys entries).Nodup)
    {name : String} {v : Value} (h : (name, v) ∈ entries) :
    member? (fields entries) name = (some v).filter hasValue := by
  refine (Value.lookup_record (entries.filter fun e => hasValue e.2) name).trans ?_
  rw [Keyed.get?_filter hn, Keyed.get?_of_mem hn h]

theorem getD_filter_hasValue (v : Value) : ((some v).filter hasValue).getD .null = v := by
  cases v <;> rfl

theorem member_fields {entries : Keyed String Value} (hn : (Keyed.keys entries).Nodup)
    {name : String} {v : Value} (h : (name, v) ∈ entries) : member (fields entries) name = v := by
  rw [member_eq, member?_fields hn h, getD_filter_hasValue]

def lastBody (document : Value) : Value :=
  match member document "interactions" with
  | .list items => member (member (items.getLastD .null) "response") "body"
  | _ => .null

theorem body_ofRequest {r : Request} {default : String} {w : Value}
    (h : ofRequest r default = .ok w) :
    ∃ v, bodyValue r.body r.headers default = .ok v
      ∧ member? w "body" = (some v).filter hasValue := by
  unfold ofRequest at h
  obtain ⟨v, hv, h⟩ := exists_of_bind_ok h
  cases h
  exact ⟨v, hv, member?_fields (by simp [Keyed.keys]) (by simp)⟩

theorem body_ofResponse {r : Response} {default : String} {w : Value}
    (h : ofResponse r default = .ok w) :
    ∃ v, bodyValue r.body r.headers default = .ok v
      ∧ member? w "body" = (some v).filter hasValue := by
  unfold ofResponse at h
  obtain ⟨v, hv, h⟩ := exists_of_bind_ok h
  split at h
  · cases h
  · cases h
    exact ⟨v, hv, member?_fields (by simp [Keyed.keys]) (by simp)⟩

theorem messages_ofInteraction {i : Interaction} {default : String} {w : Value}
    (h : ofInteraction i default = .ok w) :
    ofRequest i.request default = .ok (member w "request")
      ∧ ofResponse i.response default = .ok (member w "response") := by
  unfold ofInteraction at h
  obtain ⟨states, -, h⟩ := exists_of_bind_ok h
  obtain ⟨request, hq, h⟩ := exists_of_bind_ok h
  obtain ⟨response, hr, h⟩ := exists_of_bind_ok h
  split at h
  · cases h
  · cases h
    rw [member_fields (v := request) (by simp [Keyed.keys]) (by simp),
      member_fields (v := response) (by simp [Keyed.keys]) (by simp)]
    exact ⟨hq, hr⟩

theorem items_ofContract {k : Contract} {default : String} {document : Value}
    (h : ofContract k default = .ok document) :
    ∃ items, member document "interactions" = .list items
      ∧ k.interactions.mapM (fun i => ofInteraction i default) = .ok items := by
  unfold ofContract at h
  obtain ⟨consumer, -, h⟩ := exists_of_bind_ok h
  obtain ⟨provider, -, h⟩ := exists_of_bind_ok h
  obtain ⟨items, hi, h⟩ := exists_of_bind_ok h
  obtain ⟨metadata, -, h⟩ := exists_of_bind_ok h
  refine ⟨items, ?_, hi⟩
  split at h
  · cases h
  · obtain ⟨metadata, -, h⟩ := exists_of_bind_ok h
    cases h
    exact member_record _ _

theorem lastBody_ofContract {k : Contract} {earlier : List Interaction} {i : Interaction}
    (hk : k.interactions = earlier ++ [i]) {default : String} {v document : Value}
    (hb : bodyValue i.response.body i.response.headers default = .ok v)
    (h : ofContract k default = .ok document) : lastBody document = v := by
  obtain ⟨items, hitems, hi⟩ := items_ofContract h
  rw [hk] at hi
  obtain ⟨earlier, w, rfl, hw⟩ := exists_of_mapM_append_ok hi
  obtain ⟨v', hv', hentry⟩ := body_ofResponse (messages_ofInteraction hw).2
  cases hb.symm.trans hv'
  rw [lastBody, hitems]
  dsimp only
  rw [List.getLastD_concat, member_eq, hentry, getD_filter_hasValue]

end Document

/-! ## Sessions -/

namespace Session

/-- The body of response `n` is `v` where it is rendered as it stands, and in the document of every
contract that is finished with it now. -/
structure Shows (s : Session) (n : Nat) (default : String) (v : Value) : Prop where
  rendered : ∃ r, s.responses[n]? = some r
    ∧ Document.bodyValue r.draft.part.body r.draft.part.headers default = .ok v
  stated : ∀ k document, (s.step (.finish n)).1 = .ok (.contract k) →
    Document.ofContract k default = .ok document → Document.lastBody document = v

/-- The interaction of the response that has finished a contract is its last one. -/
theorem exists_interactions_of_finish {s : Session} {n : Nat} {r : ResponseEntry}
    (hr : s.responses[n]? = some r) {k : Contract}
    (hk : (s.step (.finish n)).1 = .ok (.contract k)) :
    ∃ earlier q, k.interactions = earlier ++ [interactionOf q r] := by
  have hf : s.finished? (.finish n) = some r := hr
  obtain ⟨r', c, hr', hc, hi⟩ := contract_of_finish hk
  cases hr.symm.trans hr'
  obtain ⟨d, m, q, hd, -, -, hlt, hs⟩ | ⟨e, hs, -⟩ := perform_store r s
  · cases hc.symm.trans hd
    refine ⟨s.interactions c, q, ?_⟩
    rw [hi, interactions_step, finishing, hf]
    dsimp only
    rw [hs, interactions_withInteraction hlt]
  · rw [step_of_unstored hf hs] at hk
    cases hk

theorem shows_of_rendered {s : Session} {n : Nat} {r : ResponseEntry}
    (hr : s.responses[n]? = some r) {default : String} {v : Value}
    (hv : Document.bodyValue r.draft.part.body r.draft.part.headers default = .ok v) :
    s.Shows n default v := by
  refine ⟨⟨r, hr, hv⟩, fun k document hk hdocument => ?_⟩
  obtain ⟨earlier, q, hi⟩ := exists_interactions_of_finish hr hk
  exact Document.lastBody_ofContract hi hv hdocument

theorem Shows.eq {s : Session} {n : Nat} {default : String} {v w : Value} (hv : s.Shows n default v)
    (hw : s.Shows n default w) : v = w := by
  obtain ⟨r, hr, hv⟩ := hv.rendered
  obtain ⟨r', hr', hw⟩ := hw.rendered
  cases hr.symm.trans hr'
  exact Except.ok.inj (hv.symm.trans hw)

theorem step_textBody {s : Session} {n : Nat} {r : ResponseEntry} (hr : s.responses[n]? = some r)
    {t : String} {wanted : Option Value} {o : Outcome}
    (hs : (s.step (.editResponse n (.part (.body (.value (.text t)) wanted)))).1 = .ok o) :
    (perform (PartDraft.setTextBody .response t wanted) r.draft.part).1 = .ok ()
    ∧ ∃ r', (s.step (.editResponse n (.part (.body (.value (.text t)) wanted)))).2.responses[n]? =
        some r'
      ∧ r'.draft.part = (perform (PartDraft.setTextBody .response t wanted) r.draft.part).2 := by
  rw [step_editResponse, perform_editResponse hr] at hs ⊢
  constructor
  · cases ha : (perform (PartDraft.setTextBody .response t wanted) r.draft.part).1 with
    | ok _ => rfl
    | error e =>
      change ((perform (PartDraft.setTextBody .response t wanted) r.draft.part).1.map fun _ => _) = _
        at hs
      rw [ha] at hs
      cases hs
  · dsimp only
    rw [List.getElem?_modify_eq, hr]
    exact ⟨_, rfl, rfl⟩

/-- For every response and every text that is set as its body with success, where the media type that
declares it, if any, is one of text: the document shows what its charset reads in the bytes that the
charset of the draft has for the text, as a JSON value if it is declared as JSON and is one. This is
the text again where both names stand for the same encoding, which reads back what it writes; of
what is not declared as JSON, it is the text in no other way. -/
theorem text_body_in_document {s : Session} {n : Nat} {r : ResponseEntry}
    (hr : s.responses[n]? = some r) {t : String} {wanted : Option Value} {o : Outcome}
    (hs : (s.step (.editResponse n (.part (.body (.value (.text t)) wanted)))).1 = .ok o)
    {m : Option MediaType} (hm : r.draft.part.declared wanted = .ok m)
    (ht : ∀ a, m = some a → a.isText = true) (default : String) :
    let u := (s.step (.editResponse n (.part (.body (.value (.text t)) wanted)))).2
    let written := r.draft.part.writtenIn wanted m
    let read := Document.readIn m default
    (Encoding.findText written = Encoding.findText read → Encoding.Inverts written →
      u.Shows n default (Document.textValue m t.toList))
    ∧ ∀ other, Encoding.Rereads written read t.toList other →
      u.Shows n default (Document.textValue m other)
      ∧ ((∀ a, m = some a → a.isJson = false) →
        u.Shows n default (Document.textValue m t.toList) → other = t.toList) := by
  intro u written read
  obtain ⟨hset, r', hr', hpart⟩ := step_textBody hr hs
  obtain ⟨bytes, own, hb, hbody, hown⟩ := PartDraft.of_setTextBody_ok hset hm
  have hshows {other : List Char} (h : Encoding.Rereads written read t.toList other) :
      u.Shows n default (Document.textValue m other) := by
    refine shows_of_rendered hr' ?_
    rw [hpart, hbody]
    exact Document.bodyValue_of_text hown ht (h _ _ hb)
  refine ⟨fun hsame hi => hshows (Encoding.rereads_of_same hsame hi _), fun other h => ?_⟩
  refine ⟨hshows h, fun hj hshown => ?_⟩
  have heq := (hshows h).eq hshown
  rw [Document.textValue_of_not_json hj, Document.textValue_of_not_json hj] at heq
  exact String.ofList_injective (Value.text.inj heq)

/-- A number that the headers declare as JSON stands in the document as a number. -/
theorem text_body_in_document_json :
    let s := empty.after (opening ++
      [.editResponse 0 (.part (.headers [("content-type", "application/json")]))])
    (s.step (.editResponse 0 (.part (.body (.value (.text "10")) none)))).2.Shows 0 "utf-8"
      (.int 10) := by
  intro s
  obtain ⟨r, hr, hp⟩ : ∃ r, s.responses[0]? = some r ∧ r.draft.part =
      { PartDraft.ofConfig .standard with headers := [("content-type", ["application/json"])] } :=
    ⟨_, rfl, rfl⟩
  obtain ⟨a, hm, ht, hread, hv⟩ : ∃ a, r.draft.part.declared none = .ok (some a)
      ∧ a.isText = true ∧ a.charset "utf-8" = "utf-8"
      ∧ Document.textValue (some a) "10".toList = .int 10 := by
    rw [hp]
    exact ⟨_, rfl, rfl, rfl, rfl⟩
  have hs : (s.step (.editResponse 0 (.part (.body (.value (.text "10")) none)))).1 =
      .ok (.handle (.response 0)) := rfl
  have htext (b : MediaType) (hb : some a = some b) : b.isText = true := Option.some.inj hb ▸ ht
  have hwritten : r.draft.part.writtenIn none (some a) = "utf-8" := by
    rw [hp]
    rfl
  obtain ⟨hshown, -⟩ := text_body_in_document hr hs hm htext "utf-8"
  rw [hwritten, hv] at hshown
  exact hshown (congrArg _ hread.symm) Encoding.inverts_standard

/-- A text that is set where the headers declare another charset than the settings is garbled: they
decide how it is read, but not how it is written. -/
theorem text_body_in_document_garbled :
    let s := empty.after (opening ++
      [.editResponse 0 (.part (.headers [("Content-Type", "text/plain; charset=iso-8859-1")]))])
    let op := .editResponse 0 (.part (.body (.value (.text "é")) none))
    let u := (s.step op).2
    ∃ r m k document, s.responses[0]? = some r ∧ (s.step op).1 = .ok (.handle (.response 0))
      ∧ r.draft.part.declared none = .ok (some m) ∧ m.isText = true
      ∧ (u.step (.finish 0)).1 = .ok (.contract k)
      ∧ Document.ofContract k "utf-8" = .ok document
      ∧ Document.lastBody document = .text "Ã©"
      ∧ Document.textValue (some m) "é".toList = .text "é" := by
  exact ⟨_, _, _, _, rfl, rfl, rfl, rfl, rfl, rfl, rfl, rfl⟩

end Session

end HttpContract
