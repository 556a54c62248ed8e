import HttpContract.Draft.BodySource
import HttpContract.Proofs.Editing
import HttpContract.Proofs.Success

/-!
The ways to set a body. Whatever it is made from, it is refused, or it is a text without a media type,
or it is encoded by a media type that is settled before. Only a document may have nothing to encode.
-/
namespace HttpContract

open Editing

namespace MediaType

def Plain (value : String) : Prop :=
  ∃ m, ofText value = .ok m ∧ m.text = value ∧ m.charset? = none

theorem plain_applicationJson : Plain applicationJson := ⟨_, rfl, rfl, rfl⟩

theorem plain_applicationXml : Plain applicationXml := ⟨_, rfl, rfl, rfl⟩

end MediaType

namespace BodySource

def suited? : BodySource → Option String
  | value (.element _) | xml _ | built _ | tree _ => some MediaType.applicationXml
  | value (.map _) | value (.list _) | json _ => some MediaType.applicationJson
  | content (.ok c) => some c.suited
  | _ => none

def text? : BodySource → Option (Result String)
  | value (.text s) | produced (.text s) => some (.ok s)
  | value (.map entries) => some (Json.text (.map entries))
  | value (.list items) => some (Json.text (.list items))
  | json d => some d.text
  | _ => none

/-- A document without content, which is not encoded in this charset. -/
def IsNull (source : BodySource) (charset : String) : Prop :=
  ∃ c, source = content (.ok c) ∧ c.encode charset = .ok none

end BodySource

theorem Content.plain_suited (c : Content) : MediaType.Plain c.suited := by
  unfold suited
  split
  · exact MediaType.plain_applicationXml
  · exact MediaType.plain_applicationJson

def EncodesText (encode : String → Result (Option (List UInt8))) (r : Result String) : Prop :=
  ∀ charset bytes, encode charset = .ok bytes → ∃ s wrap written,
    r = .ok s ∧ bytes = some written ∧ Encoding.encodeText wrap charset s.toList = .ok written

namespace PartDraft

theorem encodesText_encodeBody (s : String) :
    EncodesText (fun charset => some <$> encodeBody charset s) (.ok s) := by
  intro charset bytes h
  obtain ⟨written, hw, rfl⟩ := map_some_eq_ok_iff.mp h
  exact ⟨s, _, written, rfl, rfl, hw⟩

theorem encodesText_encodeJson (v : Value) :
    EncodesText (fun charset => some <$> encodeJson v charset) (Json.text v) := by
  intro charset bytes h
  obtain ⟨written, hw, rfl⟩ := map_some_eq_ok_iff.mp h
  obtain ⟨s, hs, hw⟩ := exists_of_bind_ok hw
  exact ⟨s, _, written, hs, rfl, hw⟩

theorem encodesText_draft (d : Json.Draft) : EncodesText (Content.ofJson d).encode d.text := by
  intro charset bytes h
  obtain ⟨written, hw, rfl⟩ := map_some_eq_ok_iff.mp h
  obtain ⟨s, hs, hw⟩ := exists_of_bind_ok hw
  exact ⟨s, _, written, hs, rfl, hw⟩

inductive Way (kind : PartKind) (source : BodySource) (wanted : Option Value)
    (x : Editing PartDraft Unit) : Prop
  | refused (e : Error) (is : x = throw e)
  | undeclared (s : String) (unasked : wanted = none) (unsuited : source.suited? = none)
      (text : source.text? = some (.ok s)) (is : x = setTextBody kind s none)
  | encoded (suited : String) (annotations : Option Annotations)
      (encode : String → Result (Option (List UInt8))) (plain : MediaType.Plain suited)
      (suits : wanted = none → source.suited? = some suited)
      (text : ∀ r, source.text? = some r → EncodesText encode r)
      (null : ∀ charset, encode charset = .ok none ↔ source.IsNull charset)
      (is : x = setBodyAs kind suited wanted annotations encode)

theorem not_null {source : BodySource} (encode : String → Result (List UInt8))
    (h : ∀ c, source ≠ .content (.ok c)) (charset : String) :
    some <$> encode charset = .ok none ↔ source.IsNull charset := by
  refine iff_of_false (fun hn => ?_) fun ⟨c, hc, _⟩ => h c hc
  obtain ⟨_, -, hn⟩ := map_some_eq_ok_iff.mp hn
  cases hn

theorem way_setTextBody {kind : PartKind} {source : BodySource} {s : String}
    (hs : source.suited? = none) (ht : source.text? = some (.ok s)) (wanted : Option Value) :
    Way kind source wanted (setTextBody kind s wanted) := by
  cases wanted with
  | none => exact .undeclared s rfl hs ht rfl
  | some v =>
    refine .encoded MediaType.applicationJson none (fun charset => some <$> encodeBody charset s)
      MediaType.plain_applicationJson nofun (fun r hr => ?_) (not_null _ fun c hc => ?_) rfl
    · cases ht.symm.trans hr
      exact encodesText_encodeBody s
    · rw [hc] at ht
      cases ht

theorem way_setTree {kind : PartKind} {source : BodySource} (root : Option Element)
    (hs : source.suited? = some MediaType.applicationXml) (ht : source.text? = none)
    (hc : ∀ c, source ≠ .content (.ok c)) (wanted : Option Value) :
    Way kind source wanted (setTree kind root wanted) := by
  refine .encoded MediaType.applicationXml none _ MediaType.plain_applicationXml (fun _ => hs)
    (fun r hr => ?_) (fun charset => ?_) rfl
  · rw [ht] at hr
    cases hr
  · cases root with
    | some e => exact not_null (fun charset => Xml.serialize charset e) hc charset
    | none => exact iff_of_false (fun h => by cases h) fun ⟨c, h, _⟩ => hc c h

theorem way_setBody (kind : PartKind) (source : BodySource) (wanted : Option Value) :
    Way kind source wanted (setBody kind source wanted) := by
  cases source with
  | value v =>
    cases v with
    | text s => exact way_setTextBody rfl rfl wanted
    | element e => exact way_setTree (some e) rfl rfl (fun _ h => by cases h) wanted
    | map entries =>
      refine .encoded MediaType.applicationJson none _ MediaType.plain_applicationJson
        (fun _ => rfl) (fun r hr => ?_) (not_null _ fun _ => nofun) rfl
      cases hr
      exact encodesText_encodeJson _
    | list items =>
      refine .encoded MediaType.applicationJson none _ MediaType.plain_applicationJson
        (fun _ => rfl) (fun r hr => ?_) (not_null _ fun _ => nofun) rfl
      cases hr
      exact encodesText_encodeJson _
    | _ => exact .refused _ rfl
  | produced v =>
    cases v with
    | text s => exact way_setTextBody rfl rfl wanted
    | _ => exact .refused _ rfl
  | callback => exact .refused _ rfl
  | json d =>
    refine .encoded MediaType.applicationJson (some d.annotations) (Content.ofJson d).encode
      MediaType.plain_applicationJson (fun _ => rfl) (fun r hr => ?_) (not_null _ fun _ => nofun) rfl
    cases hr
    exact encodesText_draft d
  | xml d =>
    exact .encoded MediaType.applicationXml (some d.annotations) (Content.ofXml d).encode
      MediaType.plain_applicationXml (fun _ => rfl) (fun _ => nofun) (not_null _ fun _ => nofun) rfl
  | content closed =>
    cases closed with
    | error e => exact .refused e rfl
    | ok c =>
      refine .encoded c.suited (some c.annotations) c.encode c.plain_suited
        (fun _ => rfl) (fun _ => nofun) (fun charset => ⟨fun h => ⟨c, rfl, h⟩, ?_⟩) rfl
      rintro ⟨_, ⟨⟩, h⟩
      exact h
  | built b =>
    exact .encoded MediaType.applicationXml (some b.annotations)
      (fun charset => some <$> b.bytes (some charset)) MediaType.plain_applicationXml
      (fun _ => rfl) (fun _ => nofun)
      (not_null (fun charset => b.bytes (some charset)) fun _ => nofun) rfl
  | tree root => exact way_setTree root rfl rfl (fun _ h => by cases h) wanted

end PartDraft

end HttpContract
