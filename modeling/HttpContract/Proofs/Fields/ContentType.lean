import HttpContract.Proofs.Fields.Names

/-!
How often do headers declare a content type? Matching a header and setting a body replace all
spellings of `Content-Type`; other edits put a header under the name they are given, beside one of
another spelling that is there.
-/
namespace HttpContract

namespace Fields

def contentTypes (h : Fields) : List String := (Keyed.keys h).filter isContentType

theorem mem_contentTypes {h : Fields} {name : String} :
    name ∈ h.contentTypes ↔ name ∈ Keyed.keys h ∧ isContentType name = true := List.mem_filter

theorem contentTypes_append (h rest : Fields) :
    contentTypes (h ++ rest) = contentTypes h ++ contentTypes rest := by
  unfold contentTypes Keyed.keys
  rw [List.map_append, List.filter_append]

theorem contentType?_eq_none {h : Fields} (hnone : h.contentTypes = []) : h.contentType? = none := by
  refine List.findSome?_eq_none_iff.mpr fun e he => if_neg fun hc => ?_
  have : e.1 ∈ h.contentTypes := mem_contentTypes.mpr ⟨List.mem_map_of_mem he, hc⟩
  rw [hnone] at this
  exact List.not_mem_nil this

theorem contentType?_of_single {h : Fields} (hone : h.contentTypes.length ≤ 1)
    {e : String × List String} (he : e ∈ h) (hc : isContentType e.1 = true) :
    h.contentType? = e.2.head? := by
  obtain ⟨before, after, rfl⟩ := List.append_of_mem he
  have hown : contentTypes [e] = [e.1] := List.filter_cons_of_pos hc
  rw [contentTypes_append, ← List.singleton_append, contentTypes_append, hown] at hone
  simp only [List.length_append, List.length_singleton] at hone
  have hbefore : contentTypes before = [] := List.eq_nil_of_length_eq_zero (by omega)
  have hafter : contentTypes after = [] := List.eq_nil_of_length_eq_zero (by omega)
  have hskip : before.findSome? _ = none := contentType?_eq_none hbefore
  have hrest : after.findSome? _ = none := contentType?_eq_none hafter
  rw [contentType?, List.findSome?_append, hskip, Option.none_or, List.findSome?_cons, if_pos hc,
    hrest]
  cases e.2.head? <;> rfl

end Fields

namespace FieldChange

def OneSpelling (history : List FieldChange) : Prop :=
  ∀ a b, Stands history a → Stands history b → Fields.isContentType a = true →
    Fields.isContentType b = true → a = b

def SpellsContentType (history : List FieldChange) : Prop :=
  ∀ c ∈ history, ∀ name ∈ c.given, Fields.isContentType name = true → name = Fields.contentType

variable {history : List FieldChange} {fields : Fields} {generators : Keyed String Generator}

theorem SpellsContentType.oneSpelling (h : SpellsContentType history) : OneSpelling history := by
  have heq {name : String} (hs : Stands history name) (hc : Fields.isContentType name = true) :
      name = Fields.contentType := by
    obtain ⟨before, c, after, rfl, hgiven, -⟩ := hs
    exact h c (List.mem_append_right before List.mem_cons_self) name hgiven hc
  intro a b ha hb hca hcb
  rw [heq ha hca, heq hb hcb]

/-- There is one declaration at most exactly if no two spellings stand side by side. -/
theorem Tells.length_contentTypes_le_one_iff (h : Tells history fields generators) :
    fields.contentTypes.length ≤ 1 ↔ OneSpelling history := by
  have hmem {name : String} : name ∈ fields.contentTypes ↔
      Stands history name ∧ Fields.isContentType name = true := by
    rw [Fields.mem_contentTypes, h.names]
  have hdistinct : fields.contentTypes.Nodup := h.distinct.filter _
  constructor
  · intro hlen a b ha hb hca hcb
    have ha := hmem.mpr ⟨ha, hca⟩
    have hb := hmem.mpr ⟨hb, hcb⟩
    cases hl : fields.contentTypes with
    | nil =>
      rw [hl] at ha
      cases ha
    | cons first rest =>
      rw [hl, List.length_cons] at hlen
      have hrest : rest = [] := List.eq_nil_of_length_eq_zero (by omega)
      rw [hl, hrest, List.mem_singleton] at ha hb
      rw [ha, hb]
  · intro hone
    rcases hl : fields.contentTypes with _ | ⟨a, _ | ⟨b, rest⟩⟩
    · exact Nat.zero_le 1
    · exact Nat.le_refl 1
    · have ha := hmem.mp (hl ▸ List.mem_cons_self : a ∈ fields.contentTypes)
      have hb := hmem.mp (hl ▸ List.mem_cons_of_mem a List.mem_cons_self : b ∈ fields.contentTypes)
      rw [hl, hone a b ha.1 hb.1 ha.2 hb.2] at hdistinct
      exact absurd List.mem_cons_self (List.nodup_cons.mp hdistinct).1

/-- A declaration that is alone is the one that counts. -/
theorem Tells.declaredOnce (h : Tells history fields generators) :
    (fields.contentTypes.length ≤ 1 ↔ OneSpelling history)
    ∧ (SpellsContentType history → fields.contentTypes.length ≤ 1)
    ∧ (fields.contentTypes.length ≤ 1 → ∀ e ∈ fields, Fields.isContentType e.1 = true →
        fields.contentType? = e.2.head?) := by
  have hiff := h.length_contentTypes_le_one_iff
  exact ⟨hiff, fun hs => hiff.mpr hs.oneSpelling,
    fun hone _ he hc => Fields.contentType?_of_single hone he hc⟩

end FieldChange

/-- Whatever has been done to a request or a response: its headers declare one content type at most
exactly if no two spellings of that header have come to stand side by side, as they cannot where it
is only ever given as `Content-Type`. A declaration that is alone is the one by which bodies are
encoded and read. -/
theorem content_type_declared_once_iff (c : Config) (asked : List RequestChange)
    (answered : List ResponseChange) :
    let declaredOnce (headers : Fields) (history : List FieldChange) :=
      (headers.contentTypes.length ≤ 1 ↔ FieldChange.OneSpelling history)
      ∧ (FieldChange.SpellsContentType history → headers.contentTypes.length ≤ 1)
      ∧ (headers.contentTypes.length ≤ 1 → ∀ e ∈ headers, Fields.isContentType e.1 = true →
          headers.contentType? = e.2.head?)
    declaredOnce (RequestDraft.ofChanges c asked).build.headers (RequestDraft.headerHistory c asked)
    ∧ declaredOnce (ResponseDraft.ofChanges c answered).build.headers
      (ResponseDraft.headerHistory c answered) :=
  ⟨(RequestDraft.tells_ofChanges c asked).declaredOnce,
    (ResponseDraft.tells_ofChanges c answered).declaredOnce⟩

/-- A content type that is set again under another spelling stands beside the first, which goes on to
decide. -/
theorem two_spellings_stand :
    let changes : List ResponseChange :=
      [.edit (.part (.headers [("content-type", "text/plain")])),
        .edit (.part (.headers [("Content-Type", "text/html")]))]
    let r := (ResponseDraft.ofChanges .standard changes).build
    r.headers.contentTypes = ["content-type", "Content-Type"]
      ∧ r.headers.contentType? = some "text/plain" := by
  decide +kernel

end HttpContract
