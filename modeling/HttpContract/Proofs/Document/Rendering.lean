import HttpContract.Proofs.Document.TextBody

/-!
Which contracts have a document, and how bodies stand in it. Bytes that are declared as text and are
none are written as base64, like all that is not text. But where the charset is no encoding of text,
or does not refuse single bytes but the whole, there is no document at all.
-/
namespace HttpContract

/-! ## Charsets that make no text -/

namespace Encoding

/-- An encoding that has nothing against bytes but that some of them stand for no character. -/
def Charset.Settled (c : Charset) : Prop := c ≠ .undefined ∧ c ≠ .punycode ∧ c ≠ .hostName

theorem Charset.Settled.decode_ne {c : Charset} (h : c.Settled) (bytes : List UInt8) :
    c.decode bytes ≠ .error .malformed := by
  unfold decode
  split
  · exact absurd rfl h.1
  · exact absurd rfl h.2.1
  · exact absurd rfl h.2.2
  · split <;> exact fun h => nomatch h

/-- No text comes of these bytes, but not because of one of them: the name stands for no encoding of
text, or the encoding refuses the whole. -/
def BreaksOff (charset : String) (bytes : List UInt8) : Prop :=
  (∃ fault, findText charset = .error fault)
  ∨ ∃ c, findText charset = .ok c ∧ c.decode bytes = .error .malformed

theorem breaksOff_iff {charset : String} {bytes : List UInt8} :
    BreaksOff charset bytes ↔ ∃ e, decodeText charset bytes = .error e ∧ e ≠ .undecodable := by
  unfold BreaksOff decodeText
  cases findText charset with
  | error fault => cases fault <;> simp
  | ok c =>
    cases hd : c.decode bytes with
    | ok s => simp [hd]
    | error fault => cases fault <;> simp [hd]

theorem Charset.Settled.not_breaksOff {c : Charset} (h : c.Settled) {charset : String}
    (hf : findText charset = .ok c) (bytes : List UInt8) : ¬ BreaksOff charset bytes := by
  rintro (⟨fault, he⟩ | ⟨c', hc', hd⟩)
  · cases hf.symm.trans he
  · cases hf.symm.trans hc'
    exact h.decode_ne bytes hd

end Encoding

/-- The charset that a media type names has been looked up when it was read. -/
theorem MediaType.exists_find_of_charset? {m : MediaType} (hm : m.IsRead) {name : String}
    (h : m.charset? = some name) : ∃ codec, Encoding.find name = .ok codec := by
  have hread : read m.text = .ok (m.essence, m.parameters) := (ofText_ok_iff.mp hm).2
  unfold read at hread
  split at hread
  · cases hread
  · unfold readPieces at hread
    dsimp only at hread
    split at hread
    · cases hread
    · obtain ⟨parameters, -, hread⟩ := exists_of_bind_ok hread
      obtain ⟨_, hcheck, hread⟩ := exists_of_bind_ok hread
      have hparameters : parameters = m.parameters := congrArg Prod.snd (Except.ok.inj hread)
      have hname : Keyed.get? parameters "charset" = some name := hparameters ▸ h
      rw [checkParameters, hname] at hcheck
      dsimp only at hcheck
      unfold checkCharset at hcheck
      split at hcheck
      · rename_i codec hfind
        exact ⟨codec, hfind⟩
      · cases hcheck
      · cases hcheck

def Document.IsNamed (name : Option String) : Prop := ∃ s, name = some s ∧ Text.trim s.toList ≠ []

/-- All that a document asks of a contract beside its bodies: names that are not blank, descriptions,
names of parameters that are text, and statuses that are integers. -/
structure Contract.Presentable (k : Contract) : Prop where
  consumer : Document.IsNamed k.consumer
  provider : Document.IsNamed k.provider
  described : ∀ i ∈ k.interactions, i.description ≠ none
  named : ∀ i ∈ k.interactions, ∀ s ∈ i.states, ∀ e ∈ s.parameters,
    ∃ name, Document.readKey e.1 = .ok name
  status : ∀ i ∈ k.interactions, ∃ n, Document.status i.response.status = .ok n

namespace Document

variable {b : Body} {headers : Fields} {default : String} {bytes : List UInt8} {m : Option MediaType}

/-! ## Bodies -/

/-- A type is declared, unless the charset in the header cannot be looked up at all. -/
theorem of_declaredType_error {e : Error} (h : declaredType b headers = .error e) :
    e = .unusableValue ∧ ∃ s, headers.contentType? = some s
      ∧ MediaType.ofText s = .error .unusableValue := by
  unfold declaredType at h
  split at h
  · cases h
  · cases h
  · rename_i s _ hs
    split at h
    · cases h
    · rename_i hm
      cases h
      exact ⟨rfl, s, hs, hm⟩
    · cases h

theorem text_or_binary (m : Option MediaType) :
    (∀ a, m = some a → a.isText = true) ∨ ∃ a, m = some a ∧ a.isText = false := by
  cases m with
  | none => exact .inl fun a h => nomatch h
  | some a =>
    cases ha : a.isText with
    | true => exact .inl fun a' h => Option.some.inj h ▸ ha
    | false => exact .inr ⟨a, rfl, ha⟩

theorem bytesValue_of_binary {a : MediaType} (ha : a.isText = false) :
    bytesValue (some a) default bytes = .ok (base64Value bytes) := by
  simp [bytesValue, ha]

theorem bytesValue_eq_decoded (hm : ∀ a, m = some a → a.isText = true) :
    bytesValue m default bytes = bytesValue.decoded bytes m (readIn m default) := by
  cases m with
  | none => rfl
  | some a => simp [bytesValue, hm a rfl, readIn]

theorem exists_decoded_iff {charset : String} :
    (∃ v, bytesValue.decoded bytes m charset = .ok v) ↔ ¬ Encoding.BreaksOff charset bytes := by
  rw [Encoding.breaksOff_iff]
  unfold bytesValue.decoded
  cases Encoding.decodeText charset bytes with
  | ok s => simp
  | error e => cases e <;> simp

theorem decoded_of_unread {charset : String} {v : Value}
    (hv : bytesValue.decoded bytes m charset = .ok v)
    (hd : ∀ s, Encoding.decodeText charset bytes ≠ .ok s) : v = base64Value bytes := by
  unfold bytesValue.decoded at hv
  split at hv
  · rename_i s hs
    exact absurd hs (hd s)
  · exact (Except.ok.inj hv).symm
  · cases hv

/-- No document can be made of a body: the header that declares it cannot be read, or it is declared
as text and its charset makes no text of any bytes, or not of these. -/
def Fails (default : String) (b : Body) (headers : Fields) : Prop :=
  ∃ bytes, b.content = .present bytes ∧
    (declaredType b headers = .error .unusableValue
    ∨ ∃ m, declaredType b headers = .ok m ∧ (∀ a, m = some a → a.isText = true)
      ∧ Encoding.BreaksOff (readIn m default) bytes)

theorem exists_bytesValue_iff : (∃ v, bytesValue m default bytes = .ok v) ↔
    ¬ ((∀ a, m = some a → a.isText = true) ∧ Encoding.BreaksOff (readIn m default) bytes) := by
  obtain hm | ⟨a, rfl, ha⟩ := text_or_binary m
  · rw [bytesValue_eq_decoded hm, exists_decoded_iff, and_iff_right hm]
  · refine ⟨fun _ h => ?_, fun _ => ⟨_, bytesValue_of_binary ha⟩⟩
    rw [h.1 a rfl] at ha
    cases ha

theorem exists_bodyValue_iff :
    (∃ v, bodyValue b headers default = .ok v) ↔ ¬ Fails default b headers := by
  unfold bodyValue Fails
  cases hc : b.content with
  | present bytes =>
    simp only [exists_bind_ok_iff, exists_bytesValue_iff, BodyContent.present.injEq,
      exists_eq_left']
    cases hd : declaredType b headers with
    | error e =>
      obtain ⟨rfl, -⟩ := of_declaredType_error hd
      simp
    | ok m => simp
  | _ =>
    refine ⟨fun _ hf => ?_, fun _ => ⟨_, rfl⟩⟩
    obtain ⟨bytes, h, -⟩ := hf
    cases h

/-- Bytes that are not declared as text, or of which no text is made, are written as base64. -/
theorem bodyValue_of_binary {v : Value} (hv : bodyValue b headers default = .ok v)
    (hc : b.content = .present bytes) (hd : declaredType b headers = .ok m)
    (h : (∃ a, m = some a ∧ a.isText = false)
      ∨ ∀ s, Encoding.decodeText (readIn m default) bytes ≠ .ok s) : v = base64Value bytes := by
  unfold bodyValue at hv
  rw [hc] at hv
  obtain ⟨m', hm', hv⟩ := exists_of_bind_ok hv
  cases hd.symm.trans hm'
  obtain hm | ⟨a, rfl, ha⟩ := text_or_binary m
  · rw [bytesValue_eq_decoded hm] at hv
    obtain ⟨a, rfl, ha⟩ | h := h
    · rw [hm a rfl] at ha
      cases ha
    · exact decoded_of_unread hv h
  · rw [bytesValue_of_binary ha] at hv
    exact (Except.ok.inj hv).symm

/-- Text is read in the charset that its media type names, or else in the default one. -/
theorem readIn_cases (m : Option MediaType) (default : String) : readIn m default = default
    ∨ ∃ a name, m = some a ∧ a.charset? = some name ∧ readIn m default = name := by
  cases m with
  | none => exact .inl rfl
  | some a =>
    unfold readIn
    dsimp only
    unfold MediaType.charset
    split
    · exact .inl rfl
    · exact .inl rfl
    · rename_i name _ hn
      exact .inr ⟨a, name, rfl, hn, rfl⟩

/-- Where the charset that is used without any other is a settled one, a body fails for what its
header declares alone. -/
theorem Fails.cases {c : Encoding.Charset} (hdefault : Encoding.findText default = .ok c)
    (hc : c.Settled) (h : Fails default b headers) :
    (∃ s, headers.contentType? = some s ∧ MediaType.ofText s = .error .unusableValue)
    ∨ ∃ a name, declaredType b headers = .ok (some a) ∧ a.isText = true ∧ a.charset? = some name
      ∧ (Encoding.find name = .ok .transform
        ∨ (∃ c', Encoding.find name = .ok (.text c') ∧ ¬ c'.Settled)
        ∨ ¬ a.IsRead ∧ ∃ fault, Encoding.find name = .error fault) := by
  obtain ⟨bytes, -, he | ⟨m, hd, hm, hbreak⟩⟩ := h
  · exact .inl (of_declaredType_error he).2
  · obtain hr | ⟨a, name, rfl, hn, hr⟩ := readIn_cases m default
    · rw [hr] at hbreak
      exact absurd hbreak (hc.not_breaksOff hdefault bytes)
    · rw [hr] at hbreak
      refine .inr ⟨a, name, hd, hm a rfl, hn, ?_⟩
      cases hfind : Encoding.find name with
      | error fault =>
        refine .inr (.inr ⟨fun hread => ?_, fault, rfl⟩)
        obtain ⟨codec, hcodec⟩ := MediaType.exists_find_of_charset? hread hn
        cases hfind.symm.trans hcodec
      | ok codec =>
        cases codec with
        | transform => exact .inl rfl
        | text c' =>
          have htext : Encoding.findText name = .ok c' := by rw [Encoding.findText, hfind]
          exact .inr (.inl ⟨c', rfl, fun hs => hs.not_breaksOff htext bytes hbreak⟩)

/-! ## Documents -/

theorem readEntries_complaints_iff (field : String) {entries : List (Value × Value)} :
    (readEntries field entries).2 = [] ↔ ∀ e ∈ entries, ∃ name, readKey e.1 = .ok name := by
  induction entries with
  | nil => exact ⟨fun _ e he => absurd he List.not_mem_nil, fun _ => rfl⟩
  | cons e rest ih =>
    obtain ⟨k, v⟩ := e
    rw [List.forall_mem_cons, ← ih, readEntries]
    cases readKey k <;> simp

theorem exists_entriesValue_iff (part : DocumentPart) (field : String)
    {entries : List (Value × Value)} : (∃ v, entriesValue part field entries = .ok v) ↔
      ∀ e ∈ entries, ∃ name, readKey e.1 = .ok name := by
  rw [← readEntries_complaints_iff field, entriesValue]
  obtain ⟨known, complaints⟩ := readEntries field entries
  cases complaints <;> simp

theorem exists_ofState_iff {s : ProviderState} : (∃ v, ofState s = .ok v) ↔
    ∀ e ∈ s.parameters, ∃ name, readKey e.1 = .ok name := by
  rw [← exists_entriesValue_iff .state "params"]
  unfold ofState
  cases s.parameters with
  | nil => exact ⟨fun _ => ⟨_, rfl⟩, fun _ => ⟨_, rfl⟩⟩
  | cons e rest => exact exists_bind_pure_iff

theorem exists_ofRequest_iff {r : Request} :
    (∃ v, ofRequest r default = .ok v) ↔ ¬ Fails default r.body r.headers :=
  exists_bind_pure_iff.trans exists_bodyValue_iff

theorem exists_ofResponse_iff {r : Response} : (∃ v, ofResponse r default = .ok v) ↔
    ¬ Fails default r.body r.headers ∧ ∃ n, status r.status = .ok n := by
  rw [← exists_bodyValue_iff, ofResponse]
  cases status r.status with
  | error objection => simp [exists_bind_ok_iff, refuse]
  | ok n => exact exists_bind_pure_iff.trans (and_iff_left ⟨n, rfl⟩).symm

theorem exists_ofInteraction_iff {i : Interaction} : (∃ v, ofInteraction i default = .ok v) ↔
    (∀ s ∈ i.states, ∀ e ∈ s.parameters, ∃ name, readKey e.1 = .ok name)
    ∧ ¬ Fails default i.request.body i.request.headers
    ∧ (¬ Fails default i.response.body i.response.headers ∧ ∃ n, status i.response.status = .ok n)
    ∧ i.description ≠ none := by
  have hstates : (∃ states, i.states.mapM ofState = .ok states) ↔
      ∀ s ∈ i.states, ∀ e ∈ s.parameters, ∃ name, readKey e.1 = .ok name :=
    exists_mapM_ok_iff.trans (forall₂_congr fun _ _ => exists_ofState_iff)
  rw [← hstates, ← exists_ofRequest_iff, ← exists_ofResponse_iff]
  unfold ofInteraction
  constructor
  · rintro ⟨v, h⟩
    obtain ⟨states, hs, h⟩ := exists_of_bind_ok h
    obtain ⟨request, hq, h⟩ := exists_of_bind_ok h
    obtain ⟨response, hr, h⟩ := exists_of_bind_ok h
    refine ⟨⟨states, hs⟩, ⟨request, hq⟩, ⟨response, hr⟩, fun hnone => ?_⟩
    rw [hnone] at h
    cases h
  · rintro ⟨⟨states, hs⟩, ⟨request, hq⟩, ⟨response, hr⟩, hsome⟩
    obtain ⟨description, hd⟩ := Option.ne_none_iff_exists'.mp hsome
    rw [hs, hq, hr, hd]
    exact ⟨_, rfl⟩

theorem exists_ofParty_iff {name : Option String} :
    (∃ v, ofParty name = .ok v) ↔ IsNamed name := by
  unfold ofParty IsNamed
  cases name with
  | none => simp [refuse]
  | some s => by_cases hs : Text.trim s.toList = [] <;> simp [refuse, hs]

theorem ofContract_of_metadata {k : Contract} {specification : String}
    (hm : k.metadata = Contract.metadataOf specification) (default : String) :
    ∃ metadata, ofContract k default = do
      let consumer ← ofParty k.consumer
      let provider ← ofParty k.provider
      let interactions ← k.interactions.mapM fun i => ofInteraction i default
      return .record [("consumer", consumer), ("provider", provider),
        ("interactions", .list interactions), ("metadata", metadata)] := by
  unfold ofContract
  rw [hm]
  exact ⟨_, rfl⟩

theorem exists_ofContract_iff {k : Contract} {specification : String}
    (hm : k.metadata = Contract.metadataOf specification) :
    (∃ document, ofContract k default = .ok document) ↔ k.Presentable ∧ ∀ i ∈ k.interactions,
      ¬ Fails default i.request.body i.request.headers
      ∧ ¬ Fails default i.response.body i.response.headers := by
  obtain ⟨metadata, hk⟩ := ofContract_of_metadata hm default
  rw [hk]
  constructor
  · rintro ⟨document, h⟩
    obtain ⟨consumer, hconsumer, h⟩ := exists_of_bind_ok h
    obtain ⟨provider, hprovider, h⟩ := exists_of_bind_ok h
    obtain ⟨items, hitems, -⟩ := exists_of_bind_ok h
    have hi (i : Interaction) (him : i ∈ k.interactions) :=
      exists_ofInteraction_iff.mp (exists_mapM_ok_iff.mp ⟨items, hitems⟩ i him)
    exact ⟨⟨exists_ofParty_iff.mp ⟨_, hconsumer⟩, exists_ofParty_iff.mp ⟨_, hprovider⟩,
      fun i him => (hi i him).2.2.2, fun i him => (hi i him).1, fun i him => (hi i him).2.2.1.2⟩,
      fun i him => ⟨(hi i him).2.1, (hi i him).2.2.1.1⟩⟩
  · rintro ⟨h, hbodies⟩
    obtain ⟨consumer, hconsumer⟩ := exists_ofParty_iff.mpr h.consumer
    obtain ⟨provider, hprovider⟩ := exists_ofParty_iff.mpr h.provider
    obtain ⟨items, hitems⟩ : ∃ items,
        k.interactions.mapM (fun i => ofInteraction i default) = .ok items :=
      exists_mapM_ok_iff.mpr fun i him => exists_ofInteraction_iff.mpr
        ⟨h.named i him, (hbodies i him).1, ⟨(hbodies i him).2, h.status i him⟩, h.described i him⟩
    rw [hconsumer, hprovider, hitems]
    exact ⟨_, rfl⟩

def States (default : String) (b : Body) (headers : Fields) (message : Value) : Prop :=
  ∃ v, bodyValue b headers default = .ok v ∧ member? message "body" = (some v).filter hasValue

/-- The document of a contract states the bodies of its interactions, one by one. -/
theorem states_of_ofContract {k : Contract} {document : Value}
    (h : ofContract k default = .ok document) :
    ∃ items, member document "interactions" = .list items
      ∧ List.Forall₂ (fun (i : Interaction) item =>
        States default i.request.body i.request.headers (member item "request")
        ∧ States default i.response.body i.response.headers (member item "response"))
        k.interactions items := by
  obtain ⟨items, hitems, hi⟩ := items_ofContract h
  refine ⟨items, hitems, (mapM_ok_iff_forall₂.mp hi).imp fun i item hitem => ?_⟩
  obtain ⟨hrequest, hresponse⟩ := messages_ofInteraction hitem
  exact ⟨body_ofRequest hrequest, body_ofResponse hresponse⟩

/-- A body that is not declared as text, or of whose bytes no text is made, is stated as base64. -/
def StatesBinary (default : String) (b : Body) (headers : Fields) (message : Value) : Prop :=
  ∀ bytes m, b.content = .present bytes → declaredType b headers = .ok m →
    ((∃ a, m = some a ∧ a.isText = false)
      ∨ ∀ s, Encoding.decodeText (readIn m default) bytes ≠ .ok s) →
    member? message "body" = some (base64Value bytes)

theorem States.binary {message : Value} (h : States default b headers message) :
    StatesBinary default b headers message := by
  obtain ⟨v, hv, hentry⟩ := h
  intro bytes m hc hd hm
  rw [hentry, bodyValue_of_binary hv hc hd hm]
  rfl

end Document

namespace Session

open Document

/-- A contract that a session finishes has a document exactly if it is presentable and none of its
bodies fails; with a settled default charset, a body fails only if its own declaration names a
charset that cannot be looked up, that makes no text, or that is not settled. A charset that is merely
unknown is named only by a media type that was put together by hand. In every document, present bodies
that are not declared as text, or of which the charset makes no text, are stated as base64. -/
theorem document_unless_body_fails {s : Session} {n : Nat} {k : Contract}
    (hk : (s.step (.finish n)).1 = .ok (.contract k)) (default : String) :
    ((∃ document, ofContract k default = .ok document) ↔
      k.Presentable ∧ ∀ i ∈ k.interactions, ¬ Fails default i.request.body i.request.headers
        ∧ ¬ Fails default i.response.body i.response.headers)
    ∧ (∀ c, Encoding.findText default = .ok c → c.Settled → ∀ b headers, Fails default b headers →
      (∃ t, headers.contentType? = some t ∧ MediaType.ofText t = .error .unusableValue)
      ∨ ∃ a name, declaredType b headers = .ok (some a) ∧ a.isText = true ∧ a.charset? = some name
        ∧ (Encoding.find name = .ok .transform
          ∨ (∃ c', Encoding.find name = .ok (.text c') ∧ ¬ c'.Settled)
          ∨ ¬ a.IsRead ∧ ∃ fault, Encoding.find name = .error fault))
    ∧ ∀ document, ofContract k default = .ok document →
      ∃ items, member document "interactions" = .list items
        ∧ List.Forall₂ (fun (i : Interaction) item =>
          StatesBinary default i.request.body i.request.headers (member item "request")
          ∧ StatesBinary default i.response.body i.response.headers (member item "response"))
          k.interactions items := by
  obtain ⟨r, c, entry, -, -, -, -, hm⟩ := exists_consumer_of_finish hk
  refine ⟨exists_ofContract_iff hm, fun c hdefault hc b headers hf => hf.cases hdefault hc,
    fun document hdocument => ?_⟩
  obtain ⟨items, hitems, hi⟩ := states_of_ofContract hdocument
  exact ⟨items, hitems, hi.imp fun i item h => ⟨h.1.binary, h.2.binary⟩⟩

/-- An image stands in the document as base64. -/
theorem document_unless_body_fails_png :
    let s := empty.after (opening ++
      [.editResponse 0 (.part (.binaryBody (.bytes [0x61, 0x62, 0x63]) (.text "image/png")))])
    ∃ k document items, (s.step (.finish 0)).1 = .ok (.contract k)
      ∧ ofContract k "utf-8" = .ok document ∧ k.Presentable
      ∧ member document "interactions" = .list items
      ∧ List.Forall₂ (fun (i : Interaction) item =>
        StatesBinary "utf-8" i.request.body i.request.headers (member item "request")
        ∧ StatesBinary "utf-8" i.response.body i.response.headers (member item "response"))
        k.interactions items
      ∧ lastBody document = .text "YWJj" := by
  intro s
  obtain ⟨k, document, hk, hdocument, hlast⟩ : ∃ k document,
      (s.step (.finish 0)).1 = .ok (.contract k) ∧ ofContract k "utf-8" = .ok document
      ∧ lastBody document = .text "YWJj" := ⟨_, _, rfl, rfl, rfl⟩
  obtain ⟨hpresented, -, hstated⟩ := document_unless_body_fails hk "utf-8"
  obtain ⟨items, hitems, hbinary⟩ := hstated document hdocument
  exact ⟨k, document, items, hk, hdocument, (hpresented.mp ⟨document, hdocument⟩).1, hitems,
    hbinary, hlast⟩

set_option maxRecDepth 8000 in
/-- The name `base64` can be looked up, but no text is read in it: of a presentable contract whose
text is declared so, there is no document. -/
theorem text_in_base64_undocumented :
    let s := empty.after (opening ++
      [.editResponse 0 (.part (.headers [("Content-Type", "text/plain; charset=base64")])),
        .editResponse 0 (.part (.body (.value (.text "x")) none))])
    ∃ k, (s.step (.finish 0)).1 = .ok (.contract k) ∧ k.Presentable
      ∧ ofContract k "utf-8" = .error .unknownEncoding := by
  intro s
  obtain ⟨k, i, hk, hfails, hconsumer, hprovider, hi, hdescription, hstates, hstatus⟩ :
      ∃ k i, (s.step (.finish 0)).1 = .ok (.contract k)
        ∧ ofContract k "utf-8" = .error .unknownEncoding ∧ k.consumer = some "web"
        ∧ k.provider = some "orders" ∧ k.interactions = [i] ∧ i.description = some "an order"
        ∧ i.states = [] ∧ i.response.status = .int 200 :=
    ⟨_, _, rfl, rfl, rfl, rfl, rfl, rfl, rfl, rfl⟩
  have hone {P : Interaction → Prop} (h : P i) : ∀ j ∈ k.interactions, P j := by
    rw [hi]
    exact List.forall_mem_singleton.mpr h
  refine ⟨k, hk, ⟨⟨_, hconsumer, by decide⟩, ⟨_, hprovider, by decide⟩, hone ?_, hone ?_,
    hone ⟨200, by rw [hstatus]; rfl⟩⟩, hfails⟩
  · rw [hdescription]
    exact Option.some_ne_none _
  · rw [hstates]
    exact fun state h => absurd h List.not_mem_nil

end Session

end HttpContract
