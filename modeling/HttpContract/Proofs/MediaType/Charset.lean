import HttpContract.MediaType
import HttpContract.Proofs.Success

/-!
What is read of a text as a media type. White space around the text makes no difference, so that what
has been read is read again from its own text. Some texts are neither media types nor refused as
such: the name of a charset with a NUL in it cannot even be looked up.
-/
namespace HttpContract

theorem Encoding.find_cut_iff {name : String} :
    Encoding.find name = .error .cut ↔ '\x00' ∈ name.toList := by
  unfold Encoding.find
  split
  · rename_i h
    exact iff_of_true rfl (List.contains_iff_mem.mp h)
  · rename_i h
    refine iff_of_false (fun hcut => ?_) (mt List.contains_iff_mem.mpr h)
    split at hcut <;> cases hcut

namespace MediaType

theorem ofText_error_iff {value : String} {fault : Error} :
    ofText value = .error fault ↔ read value = .error fault := by
  unfold ofText
  cases read value with
  | error e =>
    constructor <;> intro h <;> cases h <;> rfl
  | ok r => exact iff_of_false (fun h => by cases h) fun h => by cases h

theorem ofText_ok_iff {value : String} {m : MediaType} :
    ofText value = .ok m ↔ m.text = String.ofList (Text.trim value.toList)
      ∧ read value = .ok (m.essence, m.parameters) := by
  unfold ofText
  cases read value with
  | error e => exact iff_of_false (fun hm => by cases hm) fun hm => by cases hm.2
  | ok r =>
    constructor
    · intro hm
      cases hm
      exact ⟨rfl, rfl⟩
    · obtain ⟨text, essence, parameters⟩ := m
      rintro ⟨rfl, hread⟩
      cases hread
      rfl

/-! ## White space around a text -/

theorem readParameters_of_ok {value : String} {pieces : List (List Char)}
    {known parameters : Keyed String String} (other : String)
    (h : readParameters value pieces known = .ok parameters) :
    readParameters other pieces known = .ok parameters := by
  induction pieces generalizing known with
  | nil => exact h
  | cons piece pieces ih =>
    cases piece with
    | nil => exact ih h
    | cons c rest =>
      simp only [readParameters] at h ⊢
      split at h
      · exact ih h
      · cases h

theorem checkParameters_of_ok {value : String} {parameters : Keyed String String} (other : String)
    (h : checkParameters value parameters = .ok ()) :
    checkParameters other parameters = .ok () := by
  unfold checkParameters checkCharset at *
  split at h
  · split at h <;> simp_all
  · rfl

/-- What is read depends on the pieces alone: the text stands in complaints only. -/
theorem readPieces_of_ok {value : String} {pieces : List (List Char)}
    {r : String × Keyed String String} (other : String) (h : readPieces value pieces = .ok r) :
    readPieces other pieces = .ok r := by
  simp only [readPieces, bind, Except.bind] at h ⊢
  split at h
  · cases h
  · rename_i he
    cases hp : readParameters value pieces.tail [] with
    | error e => simp [hp] at h
    | ok parameters =>
      cases hc : checkParameters value parameters with
      | error e => simp [hp, hc] at h
      | ok u =>
        rw [if_neg he]
        simpa [hp, hc, readParameters_of_ok other hp, checkParameters_of_ok other hc] using h

/-- A text says the same without the white space around it. -/
theorem read_trim {value : String} {r : String × Keyed String String} (h : read value = .ok r) :
    read (String.ofList (Text.trim value.toList)) = .ok r := by
  unfold read at *
  rw [String.toList_ofList, Text.trim_trim, Text.trimmedPieces_trim (by decide)]
  split at h
  · cases h
  · rename_i hb
    rw [if_neg hb]
    exact readPieces_of_ok _ h

/-- A media type that is what its text says. One that is put together by hand may be another. -/
def IsRead (m : MediaType) : Prop := ofText m.text = .ok m

theorem isRead_of_ofText {value : String} {m : MediaType} (h : ofText value = .ok m) : m.IsRead := by
  obtain ⟨htext, hread⟩ := ofText_ok_iff.mp h
  unfold IsRead
  rw [ofText_ok_iff, htext, String.toList_ofList, Text.trim_trim]
  exact ⟨rfl, read_trim hread⟩

/-! ## Names of charsets -/

/-- A parameter that cannot be read is complained about. -/
theorem failsOnly_readParameters (value : String) (pieces : List (List Char))
    (known : Keyed String String) :
    FailsOnly (· ≠ .unusableValue) (readParameters value pieces known) := by
  induction pieces generalizing known with
  | nil => exact .ok known
  | cons piece pieces ih =>
    cases piece with
    | nil => exact ih known
    | cons c rest =>
      unfold readParameters
      split
      · exact ih _
      · exact .error Error.noConfusion

theorem checkParameters_unusable_iff {value : String} {parameters : Keyed String String} :
    checkParameters value parameters = .error .unusableValue ↔
      ∃ charset, Keyed.get? parameters "charset" = some charset ∧ '\x00' ∈ charset.toList := by
  unfold checkParameters
  cases Keyed.get? parameters "charset" with
  | none => exact iff_of_false (fun h => by cases h) (by rintro ⟨_, ⟨⟩, -⟩)
  | some charset =>
    simp only [Option.some.injEq, exists_eq_left', ← Encoding.find_cut_iff, checkCharset]
    cases Encoding.find charset with
    | ok codec => exact iff_of_false (fun h => by cases h) fun h => by cases h
    | error fault =>
      cases fault with
      | cut => exact iff_of_true rfl rfl
      | _ => exact iff_of_false (fun h => by cases h) fun h => by cases h

/-- The text is that of a media type but for its charset, in whose name a NUL stands. -/
def NamesCutCharset (value : String) : Prop :=
  let pieces := Text.trimmedPieces ';' value.toList
  Text.trim value.toList ≠ [] ∧ isEssence (pieces.headD []) = true
    ∧ ∃ parameters charset, readParameters value pieces.tail [] = .ok parameters
      ∧ Keyed.get? parameters "charset" = some charset ∧ '\x00' ∈ charset.toList

theorem readPieces_eq (value : String) (pieces : List (List Char)) :
    readPieces value pieces = if isEssence (pieces.headD []) then do
        let parameters ← readParameters value pieces.tail []
        checkParameters value parameters
        return (String.ofList (Text.lower (pieces.headD [])), parameters)
      else .error (.mediaTypeEssence (String.ofList (pieces.headD [])) value) := by
  unfold readPieces
  dsimp only
  cases isEssence (pieces.headD []) <;> rfl

theorem readPieces_unusable_iff {value : String} {pieces : List (List Char)} :
    readPieces value pieces = .error .unusableValue ↔ isEssence (pieces.headD []) = true
      ∧ ∃ parameters, readParameters value pieces.tail [] = .ok parameters
        ∧ checkParameters value parameters = .error .unusableValue := by
  rw [readPieces_eq]
  split
  · rename_i he
    rw [and_iff_right he]
    constructor
    · intro h
      rcases of_bind_error h with h | ⟨parameters, hp, h⟩
      · exact absurd rfl (failsOnly_readParameters _ _ _ _ h)
      · rcases of_bind_error h with h | ⟨_, -, h⟩
        · exact ⟨parameters, hp, h⟩
        · cases h
    · rintro ⟨parameters, hp, hc⟩
      simp only [hp, hc, bind, Except.bind]
  · rename_i he
    exact iff_of_false (fun h => by cases h) fun h => he h.1

/-- No other text fails without a complaint. -/
theorem ofText_unusable_iff {value : String} :
    ofText value = .error .unusableValue ↔ NamesCutCharset value := by
  rw [ofText_error_iff, read]
  split
  · rename_i h
    exact iff_of_false (fun hfault => by cases hfault) fun hcut => hcut.1 (List.isEmpty_iff.mp h)
  · rename_i h
    rw [readPieces_unusable_iff]
    simp only [checkParameters_unusable_iff]
    unfold NamesCutCharset
    rw [and_iff_right (mt List.isEmpty_iff.mpr h)]
    simp only [exists_and_left]

end MediaType

end HttpContract
