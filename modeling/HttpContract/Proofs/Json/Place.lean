import HttpContract.Json.Draft
import HttpContract.Proofs.Path.Reading

/-!
Places in a JSON document and the path expressions that name them: a place is read back from its
expression unless one of its names cannot be written.
-/
namespace HttpContract.Json

open HttpContract.Path

inductive Level
  | field (name : String)
  | item (n : Nat)
  | template
  deriving DecidableEq

namespace Level

def token : Level → PathToken
  | field name => .field name
  | item n => .index n
  | template => .starIndex

def path (parent : String) : Level → String
  | field name => childPath parent name
  | item n => parent ++ "[" ++ toString n ++ "]"
  | template => parent ++ "[*]"

/-- The level is read back as it is written. Names in quotes hold no quote and are not empty, and
no name that is written without quotes ends in the line break that does not count; an index is kept
to its limit of digits. -/
def Writable : Level → Prop
  | field name => name ≠ "" ∧ '\x27' ∉ name.toList
      ∧ ¬(isIdentifier name.toList = true ∧ name.toList.getLast? = some '\n')
  | item n => n < 10 ^ Number.digitLimit
  | template => True

def written (l : Level) : String := l.path ""

end Level

def keyOf (place : List Level) : String := place.foldl Level.path "$"

theorem Level.path_eq (parent : String) (l : Level) : l.path parent = parent ++ l.written := by
  cases l with
  | field name =>
    simp only [written, path, childPath]
    split <;> simp [String.append_assoc]
  | item n => simp [written, path, String.append_assoc]
  | template => simp [written, path]

theorem keyOf_append (place : List Level) (l : Level) : keyOf (place ++ [l]) = l.path (keyOf place) :=
  List.foldl_append

theorem toList_foldl_path (place : List Level) (parent : String) :
    (place.foldl Level.path parent).toList =
      parent.toList ++ place.flatMap fun l => l.written.toList := by
  induction place generalizing parent with
  | nil => simp
  | cons l place ih =>
    rw [List.foldl_cons, ih, Level.path_eq, String.toList_append, List.flatMap_cons,
      List.append_assoc]

theorem toList_keyOf (place : List Level) :
    (keyOf place).toList = '$' :: place.flatMap fun l => l.written.toList :=
  toList_foldl_path place "$"

/-! ## Names -/

theorem isFieldChar_of_isIdentifier {name : List Char} (h : isIdentifier name = true)
    (hl : name.getLast? ≠ some '\n') : name ≠ [] ∧ ∀ c ∈ name, isFieldChar c = true := by
  unfold isIdentifier at h
  rw [if_neg hl] at h
  cases name with
  | nil => cases h
  | cons c name =>
    refine ⟨List.cons_ne_nil c name, ?_⟩
    simp only [Bool.and_eq_true, List.all_eq_true, Bool.or_eq_true, decide_eq_true_eq] at h
    obtain ⟨hc, hs⟩ := h
    intro d hd
    unfold isFieldChar
    simp only [Bool.or_eq_true, List.contains_eq_mem, decide_eq_true_eq]
    rw [List.mem_cons] at hd
    rcases hd with rfl | hd
    · rcases hc with hc | rfl
      · exact .inl (.inl hc)
      · exact .inr (by decide)
    · rcases hs d hd with ((hc | rfl) | hc) | rfl
      · exact .inl (.inl hc)
      · exact .inr (by decide)
      · exact .inl (.inr hc)
      · exact .inr (by decide)

namespace Level

theorem writable_of_fieldChars {name : String} (hne : name ≠ "")
    (hc : ∀ c ∈ name.toList, isFieldChar c = true) : (field name).Writable := by
  refine ⟨hne, fun hq => ?_, fun ⟨_, hl⟩ => ?_⟩
  · cases hc _ hq
  · cases hc _ (List.mem_of_getLast? hl)

theorem toList_written_field (name : String) :
    (field name).written.toList = if isIdentifier name.toList then '.' :: name.toList
      else '[' :: '\x27' :: (name.toList ++ ['\x27', ']']) := by
  simp only [written, path, childPath]
  split <;> simp

theorem toList_written_item (n : Nat) :
    (item n).written.toList = '[' :: (Number.digitsOf n ++ [']']) := by
  simp [written, path, Number.digitsOf]

theorem tokenText_item {n : Nat} (h : n < 10 ^ Number.digitLimit) :
    TokenText (item n).written.toList (.index n) := by
  rw [toList_written_item]
  exact .bracket (.index (by rw [readIndex_digitsOf, if_pos h]))

theorem Writable.tokenText {l : Level} (h : l.Writable) : TokenText l.written.toList l.token := by
  cases l with
  | field name =>
    obtain ⟨hne, hq, hl⟩ := h
    rw [toList_written_field]
    split
    · rename_i hi
      obtain ⟨hne, hc⟩ := isFieldChar_of_isIdentifier hi fun he => hl ⟨hi, he⟩
      have ht := TokenText.named hne hc
      rwa [String.ofList_toList] at ht
    · have ht := TokenText.bracket (.quoted (fun he => hne (String.toList_eq_nil_iff.mp he)) hq)
      rwa [String.ofList_toList] at ht
  | item n => exact tokenText_item h
  | template => exact .bracket .star

theorem not_isIdentifier_bracket (s : List Char) : isIdentifier ('[' :: s) = false := by
  unfold isIdentifier
  cases s with
  | nil => rfl
  | cons c s =>
    split
    · rename_i he
      split at he <;> cases he
    · rename_i he
      split at he <;> (cases he; rfl)

theorem writable_of_tokenText_field {name : String} {text rest after : List Char}
    (h : TokenText text (.field name)) (he : text ++ rest = (field name).written.toList ++ after) :
    (field name).Writable ∧ rest = after := by
  rw [toList_written_field] at he
  generalize ht : PathToken.field name = token at h
  cases h with
  | star => cases ht
  | @named name' hne hc =>
    cases ht
    rw [String.toList_ofList] at he
    split at he
    · refine ⟨writable_of_fieldChars (fun h => hne (String.ofList_eq_empty_iff.mp h)) ?_, ?_⟩
      · rwa [String.toList_ofList]
      · exact List.append_cancel_left he
    · cases he
  | @quoted text token hb =>
    split at he
    · rename_i hi
      injection he with _ he
      cases hn : name.toList with
      | nil =>
        rw [hn] at hi
        cases hi
      | cons c s =>
        rw [hn] at he hi
        injection he with hc
        rw [← hc, not_isIdentifier_bracket] at hi
        cases hi
    · cases he
  | @bracket text token hb =>
    cases ht
    obtain ⟨rfl, hne, hq⟩ := hb.of_field
    split at he
    · cases he
    · rename_i hi
      exact ⟨⟨hne, hq, fun h => hi h.1⟩, List.append_cancel_left he⟩

/-- What is read as the token of a level, where the level is written, is that level. -/
theorem writable_of_tokenText {l : Level} {text rest after : List Char}
    (h : TokenText text l.token) (he : text ++ rest = l.written.toList ++ after) :
    l.Writable ∧ rest = after := by
  cases l with
  | field name => exact writable_of_tokenText_field h he
  | item n =>
    rw [toList_written_item] at he
    generalize ht : (item n).token = token at h
    cases h with
    | star => cases ht
    | named => cases ht
    | quoted => cases he
    | bracket hb =>
      cases ht
      obtain ⟨digits, rfl, hr⟩ := hb.of_index
      have hn : ']' ∉ Number.digitsOf n := fun hm => by
        cases Number.isAsciiDigit_of_mem_digitsOf hm
      have he : digits ++ ']' :: rest = Number.digitsOf n ++ ']' :: after := by simpa using he
      obtain ⟨rfl, rfl⟩ := append_bracket_inj (not_mem_of_readIndex hr) hn he
      rw [readIndex_digitsOf] at hr
      refine ⟨?_, rfl⟩
      by_cases hlt : n < 10 ^ Number.digitLimit
      · exact hlt
      · rw [if_neg hlt] at hr
        cases hr
  | template =>
    refine ⟨trivial, ?_⟩
    generalize ht : template.token = token at h
    cases h with
    | star => cases ht
    | named => cases ht
    | quoted => cases he
    | bracket hb =>
      cases ht
      rw [hb.of_starIndex] at he
      exact List.append_cancel_left he

end Level

/-! ## Places -/

theorem spells_written_iff {l : Level} {rest : List Char} {tokens : List PathToken} :
    Spells (l.written.toList ++ rest) (l.token :: tokens) ↔ l.Writable ∧ Spells rest tokens := by
  constructor
  · intro h
    generalize hs : l.written.toList ++ rest = s at h
    cases h with
    | @cons text after _ _ ht ha =>
      obtain ⟨hl, rfl⟩ := Level.writable_of_tokenText ht hs.symm
      exact ⟨hl, ha⟩
  · rintro ⟨hl, hr⟩
    exact .cons hl.tokenText hr

theorem spells_place_iff (place : List Level) :
    Spells (place.flatMap fun l => l.written.toList) (place.map Level.token) ↔
      ∀ l ∈ place, l.Writable := by
  induction place with
  | nil => exact ⟨fun _ _ h => absurd h List.not_mem_nil, fun _ => .nil⟩
  | cons l place ih =>
    rw [List.flatMap_cons, List.map_cons, spells_written_iff, ih, List.forall_mem_cons]

/-- The expression of a place is read back as the root and its levels exactly if each level can be
written. -/
theorem parse_keyOf_iff (place : List Level) :
    parse (keyOf place) = .ok (.root :: place.map Level.token) ↔ ∀ l ∈ place, l.Writable := by
  rw [← spells_place_iff, parse_eq_ok_iff]
  constructor
  · rintro (⟨-, h⟩ | ⟨s, rest, hs, hr, h⟩)
    · cases h
    · cases (toList_keyOf place).symm.trans hs
      cases hr
      exact h
  · exact fun h => .inr ⟨_, _, toList_keyOf place, rfl, h⟩

/-- Below any expression that is read, a field is read back exactly if its name can be written. -/
theorem parse_childPath_iff {parent name : String} {tokens : List PathToken}
    (hp : parse parent = .ok tokens) (hne : parent ≠ "") :
    parse (childPath parent name) = .ok (tokens ++ [.field name]) ↔
      (Level.field name).Writable := by
  have hopens : Opens (Level.field name).written.toList := by
    rw [Level.toList_written_field]
    split
    · exact .inl rfl
    · exact .inr rfl
  have hpath : childPath parent name = parent ++ (Level.field name).written :=
    Level.path_eq parent (.field name)
  rw [hpath, parse_append_iff hp hne hopens]
  simpa [Level.token] using spells_place_iff [.field name]

end HttpContract.Json
