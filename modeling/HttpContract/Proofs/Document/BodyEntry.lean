import HttpContract.Proofs.Document.Rendering
import Mathlib.Data.List.TakeWhile

/-!
Where a document has an entry for a body: wherever one is there or empty, unless it is declared as
JSON and says `null`.
-/
namespace HttpContract

/-! ## Texts that say null -/

namespace Json

def SaysNull (s : List Char) : Prop :=
  ∃ before after, s = before ++ "null".toList ++ after ∧ (∀ c ∈ before, isSpace c = true)
    ∧ ∀ c ∈ after, isSpace c = true

theorem skipSpace_eq_nil_iff {s : List Char} : skipSpace s = [] ↔ ∀ c ∈ s, isSpace c = true :=
  List.dropWhile_eq_nil_iff

theorem readNumber_ne_null (s rest : List Char) : readNumber s ≠ some (.null, rest) := by
  have number (whole : Bool) (n : Option Int) (x : Option Number.Real64) (after : List Char) :
      (if whole then n.map Value.int else x.map Value.real).map (fun v => (v, after)) ≠
        some (.null, rest) := by
    cases whole <;> cases n <;> cases x <;> simp
  have ifDigits (noDigits : Bool) {v : Option (Value × List Char)} (hv : v ≠ some (.null, rest)) :
      (if noDigits then none else v) ≠ some (.null, rest) := by
    cases noDigits with
    | true => exact fun h => nomatch h
    | false => exact hv
  exact ifDigits _ (number _ _ _ _)

theorem readLiteral_eq_null_iff {s rest : List Char} :
    readLiteral s = some (.null, rest) ↔ s = "null".toList ++ rest := by
  constructor
  · intro h
    obtain ⟨⟨word, v⟩, he, hrest⟩ := Option.map_eq_some_iff.mp h
    obtain ⟨rfl, rfl⟩ := Prod.mk.inj hrest
    have hprefix : word.isPrefixOf s = true := by simpa using List.find?_some he
    have hword : word = "null".toList := by
      have hmem := List.mem_of_find?_eq_some he
      simpa [literals] using hmem
    subst hword
    obtain ⟨t, rfl⟩ := List.isPrefixOf_iff_prefix.mp hprefix
    rw [List.drop_left]
  · rintro rfl
    rfl

/-- Only the word itself is read as null. -/
theorem readValue_eq_null_iff {fuel : Nat} {s rest : List Char} :
    readValue (fuel + 1) s = some (.null, rest) ↔ s = "null".toList ++ rest := by
  constructor
  · intro h
    rw [readValue.eq_def] at h
    dsimp only at h
    split at h
    · obtain ⟨r, -, hr⟩ := Option.map_eq_some_iff.mp h
      cases hr
    · split at h
      · cases h
      · obtain ⟨r, -, hr⟩ := Option.map_eq_some_iff.mp h
        cases hr
    · split at h
      · cases h
      · obtain ⟨r, -, hr⟩ := Option.map_eq_some_iff.mp h
        cases hr
    · obtain h | ⟨-, h⟩ := Option.or_eq_some_iff.mp h
      · exact readLiteral_eq_null_iff.mp h
      · exact absurd h (readNumber_ne_null s rest)
  · rintro rfl
    have hl : readLiteral ("null".toList ++ rest) = some (.null, rest) :=
      readLiteral_eq_null_iff.mpr rfl
    show (readLiteral ("null".toList ++ rest)).or (readNumber ("null".toList ++ rest)) = _
    rw [hl, Option.some_or]

theorem read_eq_null_iff {s : List Char} : read s = some .null ↔ SaysNull s := by
  have hspace : s = s.takeWhile isSpace ++ skipSpace s := List.takeWhile_append_dropWhile.symm
  unfold read
  constructor
  · intro h
    split at h
    · rename_i v rest hv
      split at h
      · rename_i hempty
        cases h
        rw [readValue_eq_null_iff] at hv
        rw [hv, ← List.append_assoc] at hspace
        exact ⟨s.takeWhile isSpace, rest, hspace, fun c hc => List.mem_takeWhile_imp hc,
          skipSpace_eq_nil_iff.mp (List.isEmpty_iff.mp hempty)⟩
      · cases h
    · cases h
  · rintro ⟨before, after, rfl, hb, ha⟩
    have hskip : skipSpace (before ++ "null".toList ++ after) = "null".toList ++ after := by
      rw [List.append_assoc, skipSpace, List.dropWhile_append_of_pos hb]
      rfl
    rw [hskip, readValue_eq_null_iff.mpr rfl]
    dsimp only
    rw [skipSpace_eq_nil_iff.mpr ha]
    rfl

end Json

namespace Document

variable {b : Body} {headers : Fields} {default : String} {bytes : List UInt8}
  {m : Option MediaType}

/-! ## Bodies without a value -/

theorem textValue_eq_null_iff {s : List Char} :
    textValue m s = .null ↔ ∃ a, m = some a ∧ a.isJson = true ∧ Json.SaysNull s := by
  cases m with
  | none => simp [textValue]
  | some a =>
    rw [textValue, ← Json.read_eq_null_iff]
    cases ha : a.isJson with
    | false => simp [ha]
    | true => cases Json.read s <;> simp [ha]

/-- The bytes are declared as JSON and say `null` in the charset that is chosen for them. -/
def StandsForNull (default : String) (b : Body) (headers : Fields) (bytes : List UInt8) : Prop :=
  ∃ a s, declaredType b headers = .ok (some a) ∧ a.isJson = true
    ∧ Encoding.decodeText (a.charset default) bytes = .ok s ∧ Json.SaysNull s

theorem isText_of_isJson {a : MediaType} (h : a.isJson = true) : a.isText = true := by
  simp [MediaType.isText, h]

theorem decoded_eq_null_iff {charset : String} :
    bytesValue.decoded bytes m charset = .ok .null ↔
      ∃ s, Encoding.decodeText charset bytes = .ok s ∧ textValue m s = .null := by
  unfold bytesValue.decoded
  cases Encoding.decodeText charset bytes with
  | ok s => simp
  | error e => cases e <;> simp [base64Value]

theorem bytesValue_eq_null_iff : bytesValue m default bytes = .ok .null ↔
    ∃ a s, m = some a ∧ a.isJson = true
      ∧ Encoding.decodeText (a.charset default) bytes = .ok s ∧ Json.SaysNull s := by
  obtain hm | ⟨a, rfl, ha⟩ := text_or_binary m
  · rw [bytesValue_eq_decoded hm, decoded_eq_null_iff]
    simp only [textValue_eq_null_iff]
    constructor
    · rintro ⟨s, hs, a, rfl, ha, hn⟩
      exact ⟨a, s, rfl, ha, hs, hn⟩
    · rintro ⟨a, s, rfl, ha, hs, hn⟩
      exact ⟨s, hs, a, rfl, ha, hn⟩
  · rw [bytesValue_of_binary ha]
    refine ⟨fun h => (by cases h), ?_⟩
    rintro ⟨a', s, ha', hj, -⟩
    cases ha'
    rw [isText_of_isJson hj] at ha
    cases ha

/-- A body that is declared and has a value: an empty one, or one that does not stand for null. -/
def HasValue (default : String) (b : Body) (headers : Fields) : Prop :=
  b.content = .empty
  ∨ ∃ bytes, b.content = .present bytes ∧ ¬ StandsForNull default b headers bytes

theorem bodyValue_ne_null_iff {v : Value} (hv : bodyValue b headers default = .ok v) :
    v ≠ .null ↔ HasValue default b headers := by
  unfold bodyValue at hv
  unfold HasValue
  cases hc : b.content with
  | present bytes =>
    rw [hc] at hv
    obtain ⟨m, hm, hv⟩ := exists_of_bind_ok hv
    have hnull : v = .null ↔ StandsForNull default b headers bytes := by
      have hiff : bytesValue m default bytes = .ok .null ↔ _ := bytesValue_eq_null_iff
      rw [hv, Except.ok.injEq] at hiff
      rw [hiff, StandsForNull, hm]
      simp
    simp [hnull]
  | _ =>
    rw [hc] at hv
    cases hv
    simp

def HasBody (message : Value) : Prop := ∃ v, member? message "body" = some v

theorem States.hasBody_iff {message : Value} (h : States default b headers message) :
    HasBody message ↔ HasValue default b headers := by
  obtain ⟨v, hv, hentry⟩ := h
  rw [← bodyValue_ne_null_iff hv, HasBody, hentry]
  cases v <;> simp [hasValue]

/-- In every document, the request and the response of each interaction have an entry for their body
exactly if the body is empty, or is there and does not stand for null. -/
theorem hasBody_iff_hasValue {k : Contract} {document : Value}
    (h : ofContract k default = .ok document) :
    ∃ items, member document "interactions" = .list items
      ∧ List.Forall₂ (fun (i : Interaction) item =>
        (HasBody (member item "request") ↔
          HasValue default i.request.body i.request.headers)
        ∧ (HasBody (member item "response") ↔
          HasValue default i.response.body i.response.headers)) k.interactions items := by
  obtain ⟨items, hitems, hi⟩ := states_of_ofContract h
  exact ⟨items, hitems, hi.imp fun i item hs => ⟨hs.1.hasBody_iff, hs.2.hasBody_iff⟩⟩

set_option maxRecDepth 8000 in
/-- A number that is declared as JSON has its entry. -/
theorem hasBody_iff_hasValue_number :
    let s := Session.empty.after (Session.opening ++
      [.editResponse 0 (.part (.body (.value (.text "10")) (some (.text "application/json"))))])
    ∃ k document i item, (s.step (.finish 0)).1 = .ok (.contract k)
      ∧ ofContract k "utf-8" = .ok document ∧ k.interactions = [i]
      ∧ member document "interactions" = .list [item]
      ∧ (HasBody (member item "response") ↔ HasValue "utf-8" i.response.body i.response.headers)
      ∧ member? (member item "response") "body" = some (.int 10) := by
  intro s
  obtain ⟨k, document, i, item, hk, hdocument, hi, hitem, hentry⟩ : ∃ k document i item,
      (s.step (.finish 0)).1 = .ok (.contract k) ∧ ofContract k "utf-8" = .ok document
        ∧ k.interactions = [i] ∧ member document "interactions" = .list [item]
        ∧ member? (member item "response") "body" = some (.int 10) :=
    ⟨_, _, _, _, rfl, rfl, rfl, rfl, rfl⟩
  obtain ⟨items, hitems, hiff⟩ := hasBody_iff_hasValue hdocument
  cases hitem.symm.trans hitems
  rw [hi] at hiff
  cases hiff with
  | cons hiff _ => exact ⟨k, document, i, item, hk, hdocument, hi, hitem, hiff.2, hentry⟩

set_option maxRecDepth 8000 in
/-- The text `null` is there, but a document that takes it as JSON has no entry for it. -/
theorem null_text_has_no_body :
    let s := Session.empty.after (Session.opening ++
      [.editResponse 0 (.part (.body (.value (.text "null")) (some (.text "application/json"))))])
    ∃ k document i item, (s.step (.finish 0)).1 = .ok (.contract k)
      ∧ ofContract k "utf-8" = .ok document ∧ k.interactions = [i]
      ∧ member document "interactions" = .list [item]
      ∧ i.response.body.content = .present [0x6e, 0x75, 0x6c, 0x6c]
      ∧ member? (member item "response") "body" = none :=
  ⟨_, _, _, _, rfl, rfl, rfl, rfl, rfl, rfl⟩

end Document

end HttpContract
