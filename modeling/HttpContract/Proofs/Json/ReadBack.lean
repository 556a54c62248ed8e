import HttpContract.Json.Reader
import HttpContract.Proofs.Json.Mirror
import HttpContract.Proofs.Json.Requoted
import HttpContract.Proofs.Number.Digits
import Mathlib.Tactic.IntervalCases

/-!
Printed values read back. What is printed for a value is read as this value wherever it stands in a
text, as long as no digits, point or power of ten follow; so the text of a document tells what has
been put into it.
-/
namespace HttpContract

open Text

/-- JSON values as they are read: the names of a map are texts and differ, and numbers are integers
or one of the three words. -/
inductive Value.Legible : Value → Prop
  | null : Legible .null
  | bool (b : Bool) : Legible (.bool b)
  | int (n : Int) : Legible (.int n)
  | nan : Legible (.real .nan)
  | infinite (negative : Bool) : Legible (.real (.infinite negative))
  | text (s : String) : Legible (.text s)
  | list {items : List Value} (h : ∀ v ∈ items, Legible v) : Legible (.list items)
  | record {entries : List (String × Value)} (names : (Keyed.keys entries).Nodup)
      (h : ∀ e ∈ entries, Legible e.2) : Legible (.record entries)

namespace Json

/-! ## Texts -/

theorem readChar_escaped (c : Char) (rest : List Char) :
    readChar (escaped c ++ rest) = some (c, rest) := by
  have control (n : Nat) (h : n < 0x20) :
      readChar (escaped (Char.ofNat n) ++ rest) = some (Char.ofNat n, rest) := by
    interval_cases n <;> rfl
  by_cases hlow : c.toNat < 0x20
  · rw [← Char.ofNat_toNat c]
    exact control c.toNat hlow
  by_cases hq : c = '\x22'
  · rw [hq]
    rfl
  by_cases he : c = '\x5c'
  · rw [he]
    rfl
  have hne (d : Char) (hd : d.toNat < 0x20) : c ≠ d := fun h => hlow (h ▸ hd)
  have hitself : escaped c = [c] := by
    simp [escaped, hq, he, hlow, hne '\n', hne '\r', hne '\t', hne '\x08', hne '\x0c']
  rw [hitself, List.singleton_append, readChar]
  · exact if_neg hlow
  · intros
    contradiction
  · intros
    contradiction

theorem escaped_ne_nil (c : Char) : escaped c ≠ [] := by
  cases escape_escaped c with
  | pair d tail _ _ eq => exact eq ▸ List.cons_ne_nil _ _
  | itself _ _ eq => exact eq ▸ List.cons_ne_nil _ _

theorem head?_escaped (c : Char) : (escaped c).head? ≠ some '\x22' := by
  cases escape_escaped c with
  | pair d tail _ _ eq =>
    rw [eq]
    exact fun h => nomatch h
  | itself ne_quote _ eq =>
    rw [eq]
    exact fun h => ne_quote (Option.some.inj h)

theorem length_le_escaped (s : List Char) : s.length ≤ (s.flatMap escaped).length := by
  induction s with
  | nil => exact Nat.le_refl 0
  | cons c s ih =>
    have hc := List.length_pos_of_ne_nil (escaped_ne_nil c)
    rw [List.flatMap_cons, List.length_append, List.length_cons]
    omega

theorem readString_quoted {s : List Char} {fuel : Nat} (h : s.length < fuel) (rest : List Char) :
    readString fuel (s.flatMap escaped ++ '\x22' :: rest) = some (s, rest) := by
  induction s generalizing fuel with
  | nil =>
    obtain ⟨fuel, rfl⟩ := Nat.exists_eq_add_one.mpr (Nat.zero_lt_of_lt h)
    rfl
  | cons c s ih =>
    obtain ⟨fuel, rfl⟩ := Nat.exists_eq_add_one.mpr (Nat.zero_lt_of_lt h)
    have hchar := readChar_escaped c (s.flatMap escaped ++ '\x22' :: rest)
    rw [List.flatMap_cons, List.append_assoc, readString, hchar]
    · dsimp only
      rw [ih (Nat.lt_of_succ_lt_succ h), Option.map_some]
    · intro t ht
      have hhead := head?_escaped c
      cases he : escaped c with
      | nil => exact escaped_ne_nil c he
      | cons d tail =>
        rw [he] at ht hhead
        cases ht
        exact hhead rfl

/-- A text is read back from between its quotes, however much of what follows is looked at. -/
theorem readString_literal (s rest : List Char) :
    readString (s.flatMap escaped ++ '\x22' :: rest).length.succ
      (s.flatMap escaped ++ '\x22' :: rest) = some (s, rest) := by
  refine readString_quoted ?_ rest
  have hle := length_le_escaped s
  rw [List.length_append]
  omega

/-! ## Values in front of other text -/

def EndsNumber (rest : List Char) : Prop :=
  ∀ c ∈ rest.head?, isAsciiDigit c = false ∧ c ≠ '.' ∧ c ≠ 'e' ∧ c ≠ 'E'

structure ReadsBack (s : List Char) (v : Value) : Prop where
  opens : ∃ c rest, s = c :: rest ∧ isSpace c = false ∧ c ≠ ']'
  reads : ∀ {fuel : Nat} {rest : List Char}, 2 * s.length ≤ fuel + 1 → EndsNumber rest →
    readValue (fuel + 1) (s ++ rest) = some (v, rest)

theorem ReadsBack.readValue {s : List Char} {v : Value} (h : ReadsBack s v) {fuel : Nat}
    {rest : List Char} (hfuel : 2 * s.length ≤ fuel) (hr : EndsNumber rest) :
    Json.readValue fuel (s ++ rest) = some (v, rest) := by
  obtain ⟨c, t, hs, -⟩ := h.opens
  rw [hs, List.length_cons] at hfuel
  obtain ⟨fuel, rfl⟩ := Nat.exists_eq_add_one.mpr (show 0 < fuel by omega)
  exact h.reads (by rwa [hs, List.length_cons]) hr

/-- A text that begins with none of the signs for texts, lists and maps. -/
theorem readValue_of_ne {c : Char} (h : c ∉ ['\x22', '[', '\x7b']) (fuel : Nat) (s : List Char) :
    readValue (fuel + 1) (c :: s) = (readLiteral (c :: s)).or (readNumber (c :: s)) := by
  simp only [List.mem_cons, List.not_mem_nil, or_false, not_or] at h
  rw [readValue]
  · rintro _ ⟨⟩
    exact h.1 rfl
  · rintro _ ⟨⟩
    exact h.2.1 rfl
  · rintro _ ⟨⟩
    exact h.2.2 rfl

theorem readsBack_literal {word : List Char} {v : Value} (h : (word, v) ∈ literals) :
    ReadsBack word v := by
  have hword : (∀ rest, readLiteral (word ++ rest) = some (v, rest)) ∧
      ∃ c s, word = c :: s ∧ isSpace c = false ∧ c ≠ ']' ∧ c ∉ ['\x22', '[', '\x7b'] := by
    simp only [literals, List.mem_cons, List.not_mem_nil, or_false, Prod.mk.injEq] at h
    obtain ⟨rfl, rfl⟩ | ⟨rfl, rfl⟩ | ⟨rfl, rfl⟩ | ⟨rfl, rfl⟩ | ⟨rfl, rfl⟩ | ⟨rfl, rfl⟩ := h <;>
      exact ⟨fun _ => rfl, _, _, rfl, by decide, by decide, by decide⟩
  obtain ⟨hread, c, s, rfl, hspace, hclose, hsign⟩ := hword
  refine ⟨⟨c, s, rfl, hspace, hclose⟩, fun {fuel rest} _ _ => ?_⟩
  rw [List.cons_append, readValue_of_ne hsign, ← List.cons_append, hread, Option.some_or]

theorem readsBack_text (s : String) : ReadsBack (quoted s.toList) (.text s) where
  opens := ⟨'\x22', _, rfl, by decide, by decide⟩
  reads := by
    intro fuel rest _ _
    have htext : quoted s.toList ++ rest =
        '\x22' :: (s.toList.flatMap escaped ++ '\x22' :: rest) := by simp [quoted]
    rw [htext, readValue, readString_literal, Option.map_some, String.ofList_toList]

/-! ## Numbers -/

theorem readFraction_of_ends {rest : List Char} (h : EndsNumber rest) :
    readFraction rest = ([], rest) := by
  unfold readFraction
  split
  · exact absurd rfl (h '.' rfl).2.1
  · rfl

theorem readExponent_of_ends {rest : List Char} (h : EndsNumber rest) :
    readExponent rest = ([], rest) := by
  cases rest with
  | nil => rfl
  | cons c rest =>
    obtain ⟨-, -, he, hE⟩ := h c rfl
    simp [readExponent, he, hE]

theorem whole_digitsOf (n : Nat) {rest : List Char} (h : EndsNumber rest) :
    (if (Number.digitsOf n ++ rest).head? = some '0' then ['0']
      else (Number.digitsOf n ++ rest).takeWhile isAsciiDigit) = Number.digitsOf n := by
  have hrest : rest.takeWhile isAsciiDigit = [] := by
    cases rest with
    | nil => rfl
    | cons c rest => rw [List.takeWhile_cons, (h c rfl).1, if_neg Bool.false_ne_true]
  rw [List.takeWhile_append_of_pos fun c => Number.isAsciiDigit_of_mem_digitsOf, hrest,
    List.append_nil]
  split
  · rename_i hzero
    cases hd : Number.digitsOf n with
    | nil => exact absurd hd (Number.digitsOf_ne_nil n)
    | cons c s =>
      rw [hd] at hzero
      obtain rfl := Option.some.inj hzero
      rw [Number.eq_nil_of_digitsOf hd]
  · rfl

theorem readNumber_integerText {n : Int} {rest : List Char}
    (hn : Number.isPrintableInteger n = true) (h : EndsNumber rest) :
    readNumber (Number.integerText n ++ rest) = some (.int n, rest) := by
  have hread := Number.readInteger_integerText hn
  have hempty : (Number.digitsOf n.natAbs).isEmpty = false := by
    simpa using Number.digitsOf_ne_nil n.natAbs
  unfold Number.integerText at hread ⊢
  split at hread
  · rename_i hneg
    rw [if_pos hneg, List.cons_append, readNumber]
    simp only [whole_digitsOf n.natAbs h, hempty, List.drop_left, readFraction_of_ends h,
      readExponent_of_ends h]
    simp [hread]
  · rename_i hneg
    rw [if_neg hneg]
    unfold readNumber
    split
    rename_i hsign
    split at hsign
    · rename_i hminus
      cases hd : Number.digitsOf n.natAbs with
      | nil => exact absurd hd (Number.digitsOf_ne_nil _)
      | cons c digits =>
        rw [hd] at hminus
        obtain ⟨rfl, -⟩ := List.cons.inj hminus
        exact Bool.noConfusion (Number.isAsciiDigit_of_mem_digitsOf (hd ▸ List.mem_cons_self))
    · obtain ⟨rfl, rfl⟩ := Prod.mk.inj hsign
      simp only [whole_digitsOf n.natAbs h, hempty, List.drop_left, readFraction_of_ends h,
        readExponent_of_ends h]
      simp [hread]

theorem ne_of_isAsciiDigit {c d : Char} (hc : isAsciiDigit c = false)
    (hd : isAsciiDigit d = true) : c ≠ d := by
  rintro rfl
  exact Bool.noConfusion (hd.symm.trans hc)

/-- None of the words begins with a digit, or with a sign and a digit. -/
theorem readLiteral_digit {c : Char} (h : isAsciiDigit c = true) (s : List Char) :
    readLiteral (c :: s) = none ∧ readLiteral ('-' :: c :: s) = none := by
  have hne (d : Char) (hd : isAsciiDigit d = false) : d ≠ c := ne_of_isAsciiDigit hd h
  constructor <;>
    simp [readLiteral, literals, List.isPrefixOf, hne 'n' (by decide), hne 't' (by decide),
      hne 'f' (by decide), hne 'N' (by decide), hne 'I' (by decide), hne '-' (by decide)]

theorem readsBack_int {n : Int} {s : List Char} (h : integerText n = .ok s) :
    ReadsBack s (.int n) := by
  unfold integerText at h
  split at h
  · rename_i hn
    cases h
    obtain ⟨d, digits, hdigits⟩ := List.exists_cons_of_ne_nil (Number.digitsOf_ne_nil n.natAbs)
    have hmem : d ∈ Number.digitsOf n.natAbs := hdigits ▸ List.mem_cons_self
    have hd : isAsciiDigit d = true := Number.isAsciiDigit_of_mem_digitsOf hmem
    have hfirst : ∃ c t, Number.integerText n = c :: t ∧ (c = '-' ∨ isAsciiDigit c = true)
        ∧ ∀ rest, readLiteral (c :: (t ++ rest)) = none := by
      unfold Number.integerText
      rw [hdigits]
      split
      · exact ⟨_, _, rfl, .inl rfl, fun rest => (readLiteral_digit hd (digits ++ rest)).2⟩
      · exact ⟨_, _, rfl, .inr hd, fun rest => (readLiteral_digit hd (digits ++ rest)).1⟩
    obtain ⟨c, t, htext, hc, hliteral⟩ := hfirst
    have hopens : isSpace c = false ∧ c ≠ ']' ∧ c ∉ ['\x22', '[', '\x7b'] := by
      obtain rfl | hc := hc
      · decide
      · have hne (d : Char) (hd : isAsciiDigit d = false) : c ≠ d :=
          (ne_of_isAsciiDigit hd hc).symm
        simp [isSpace, hne ' ' (by decide), hne '\t' (by decide), hne '\n' (by decide),
          hne '\r' (by decide), hne ']' (by decide), hne '\x22' (by decide), hne '[' (by decide),
          hne '\x7b' (by decide)]
    refine ⟨⟨c, t, htext, hopens.1, hopens.2.1⟩, fun {fuel rest} _ hr => ?_⟩
    have hnumber := readNumber_integerText hn hr
    rw [htext, List.cons_append] at hnumber ⊢
    rw [readValue_of_ne hopens.2.2, hliteral, hnumber, Option.none_or]
  · cases h

/-! ## Lists and maps -/

theorem ReadsBack.skipSpace {s : List Char} {v : Value} (h : ReadsBack s v) (rest : List Char) :
    Json.skipSpace (s ++ rest) = s ++ rest := by
  obtain ⟨c, t, rfl, hc, -⟩ := h.opens
  exact List.dropWhile_cons_of_neg (Bool.eq_false_iff.mp hc)

def afterFirst (pieces : List (List Char)) (rest : List Char) : List Char :=
  match pieces with
  | [] => rest
  | _ :: _ => ',' :: ' ' :: (join ", ".toList pieces ++ rest)

theorem join_append (piece : List Char) (pieces : List (List Char)) (rest : List Char) :
    join ", ".toList (piece :: pieces) ++ rest = piece ++ afterFirst pieces rest := by
  cases pieces with
  | nil => rfl
  | cons next pieces => simp [join, afterFirst]

theorem length_le_join (piece : List Char) (pieces : List (List Char)) :
    piece.length ≤ (join ", ".toList (piece :: pieces)).length := by
  have hjoin := congrArg List.length (join_append piece pieces [])
  rw [List.append_nil, List.length_append] at hjoin
  omega

theorem length_join_lt (piece next : List Char) (pieces : List (List Char)) :
    (join ", ".toList (next :: pieces)).length <
      (join ", ".toList (piece :: next :: pieces)).length := by
  have hjoin := congrArg List.length (join_append piece (next :: pieces) [])
  simp only [afterFirst, List.append_nil, List.length_append, List.length_cons] at hjoin
  omega

theorem endsNumber_afterFirst (pieces : List (List Char)) {c : Char} (rest : List Char)
    (hc : isAsciiDigit c = false ∧ c ≠ '.' ∧ c ≠ 'e' ∧ c ≠ 'E') :
    EndsNumber (afterFirst pieces (c :: rest)) := by
  cases pieces with
  | nil =>
    intro d hd
    cases hd
    exact hc
  | cons next pieces =>
    intro d hd
    cases hd
    decide

theorem readItems_join {pieces : List (List Char)} {items : List Value}
    (h : List.Forall₂ ReadsBack pieces items) (hne : items ≠ []) {fuel : Nat} (rest : List Char)
    (hfuel : 2 * (join ", ".toList pieces).length < fuel) :
    readItems fuel (join ", ".toList pieces ++ ']' :: rest) = some (items, rest) := by
  -- An item takes a call by itself and one for its place, and is shorter than what holds it.
  induction h generalizing fuel with
  | nil => exact absurd rfl hne
  | @cons piece v pieces items hv hothers ih =>
    obtain ⟨fuel, rfl⟩ := Nat.exists_eq_add_one.mpr (Nat.zero_lt_of_lt hfuel)
    have hlength := length_le_join piece pieces
    have hread : readValue fuel (piece ++ afterFirst pieces (']' :: rest)) =
        some (v, afterFirst pieces (']' :: rest)) :=
      hv.readValue (by omega) (endsNumber_afterFirst pieces rest (by decide))
    rw [join_append, readItems, hread]
    cases hothers with
    | nil => rfl
    | @cons next w pieces items hw hothers =>
      have hskip : Json.skipSpace (' ' :: (join ", ".toList (next :: pieces) ++ ']' :: rest)) =
          join ", ".toList (next :: pieces) ++ ']' :: rest := by
        rw [join_append]
        exact hw.skipSpace _
      have hshorter := length_join_lt piece next pieces
      have hrest : readItems fuel (join ", ".toList (next :: pieces) ++ ']' :: rest) = _ :=
        ih (List.cons_ne_nil _ _) (by omega)
      show (readItems fuel (Json.skipSpace
        (' ' :: (join ", ".toList (next :: pieces) ++ ']' :: rest)))).map _ = _
      rw [hskip, hrest]
      rfl

theorem readsBack_list {pieces : List (List Char)} {items : List Value}
    (h : List.Forall₂ ReadsBack pieces items) : ReadsBack (listText pieces) (.list items) where
  opens := ⟨'[', _, rfl, by decide, by decide⟩
  reads := by
    intro fuel rest hfuel _
    have htext : listText pieces ++ rest = '[' :: (join ", ".toList pieces ++ ']' :: rest) := by
      simp [listText]
    have hlength : 2 * (join ", ".toList pieces).length < fuel := by
      simp only [listText, List.cons_append, List.length_cons, List.length_append] at hfuel
      omega
    rw [htext, readValue]
    cases h with
    | nil => rfl
    | @cons piece v pieces items hv hothers =>
      have hread := readItems_join (.cons hv hothers) (List.cons_ne_nil _ _) rest hlength
      have hskip : Json.skipSpace (join ", ".toList (piece :: pieces) ++ ']' :: rest) =
          join ", ".toList (piece :: pieces) ++ ']' :: rest := by
        rw [join_append]
        exact hv.skipSpace _
      rw [hskip]
      split
      · rename_i hclose
        obtain ⟨c, t, rfl, -, hc⟩ := hv.opens
        rw [join_append] at hclose
        exact absurd (List.cons.inj hclose).1 hc
      · rw [hread]
        rfl

def EntryReadsBack (s : List Char) (e : String × Value) : Prop :=
  ∃ t, s = quoted e.1.toList ++ ": ".toList ++ t ∧ ReadsBack t e.2

theorem readEntries_join {pieces : List (List Char)} {entries : List (String × Value)}
    (h : List.Forall₂ EntryReadsBack pieces entries) (hne : entries ≠ []) {fuel : Nat}
    (rest : List Char) (hfuel : 2 * (join ", ".toList pieces).length < fuel) :
    readEntries fuel (join ", ".toList pieces ++ '\x7d' :: rest) =
      some (entries.map fun e => (.text e.1, e.2), rest) := by
  induction h generalizing fuel with
  | nil => exact absurd rfl hne
  | @cons piece e pieces entries he hothers ih =>
    obtain ⟨fuel, rfl⟩ := Nat.exists_eq_add_one.mpr (Nat.zero_lt_of_lt hfuel)
    obtain ⟨t, rfl, hv⟩ := he
    have hlength := length_le_join (quoted e.1.toList ++ ": ".toList ++ t) pieces
    rw [List.length_append] at hlength
    have htext : quoted e.1.toList ++ ": ".toList ++ t ++ afterFirst pieces ('\x7d' :: rest) =
        '\x22' :: (e.1.toList.flatMap escaped ++ '\x22' :: ':' :: ' ' ::
          (t ++ afterFirst pieces ('\x7d' :: rest))) := by simp [quoted]
    have hread : readValue fuel (t ++ afterFirst pieces ('\x7d' :: rest)) =
        some (e.2, afterFirst pieces ('\x7d' :: rest)) :=
      hv.readValue (by omega) (endsNumber_afterFirst pieces rest (by decide))
    have hskip : Json.skipSpace (' ' :: (t ++ afterFirst pieces ('\x7d' :: rest))) =
        t ++ afterFirst pieces ('\x7d' :: rest) := hv.skipSpace _
    have hcolon : Json.skipSpace (':' :: ' ' :: (t ++ afterFirst pieces ('\x7d' :: rest))) =
        ':' :: ' ' :: (t ++ afterFirst pieces ('\x7d' :: rest)) := rfl
    rw [join_append, htext, readEntries, readString_literal]
    simp only [hcolon, hskip, hread, String.ofList_toList]
    cases hothers with
    | nil => rfl
    | @cons next other pieces entries hother hothers =>
      have hagain : Json.skipSpace (' ' :: (join ", ".toList (next :: pieces) ++ '\x7d' :: rest)) =
          join ", ".toList (next :: pieces) ++ '\x7d' :: rest := by
        obtain ⟨u, rfl, -⟩ := hother
        rw [join_append]
        rfl
      have hshorter := length_join_lt (quoted e.1.toList ++ ": ".toList ++ t) next pieces
      have hrest : readEntries fuel (join ", ".toList (next :: pieces) ++ '\x7d' :: rest) = _ :=
        ih (List.cons_ne_nil _ _) (by omega)
      show (readEntries fuel (Json.skipSpace
        (' ' :: (join ", ".toList (next :: pieces) ++ '\x7d' :: rest)))).map _ = _
      rw [hagain, hrest]
      rfl

theorem readsBack_record {pieces : List (List Char)} {entries : List (String × Value)}
    (h : List.Forall₂ EntryReadsBack pieces entries) (hn : (Keyed.keys entries).Nodup) :
    ReadsBack (recordText pieces) (.record entries) where
  opens := ⟨'\x7b', _, rfl, by decide, by decide⟩
  reads := by
    intro fuel rest hfuel _
    have htext : recordText pieces ++ rest =
        '\x7b' :: (join ", ".toList pieces ++ '\x7d' :: rest) := by simp [recordText]
    have hlength : 2 * (join ", ".toList pieces).length < fuel := by
      simp only [recordText, List.cons_append, List.length_cons, List.length_append] at hfuel
      omega
    rw [htext, readValue]
    cases h with
    | nil => rfl
    | @cons piece e pieces entries he hothers =>
      have hread := readEntries_join (.cons he hothers) (List.cons_ne_nil _ _) rest hlength
      obtain ⟨t, rfl, -⟩ := he
      rw [join_append] at hread ⊢
      have hskip : Json.skipSpace (quoted e.1.toList ++ ": ".toList ++ t ++
          afterFirst pieces ('\x7d' :: rest)) = quoted e.1.toList ++ ": ".toList ++ t ++
          afterFirst pieces ('\x7d' :: rest) := rfl
      rw [hskip]
      split
      · rename_i hclose
        exact absurd (List.cons.inj hclose).1 (by decide)
      · rw [hread, Option.map_some]
        have hput := Value.foldl_putEntry_record [] (e :: entries)
        rw [Keyed.putAll_of_nodup hn] at hput
        exact congrArg (fun m => some (Value.map m, rest)) hput

/-! ## Printed values -/

theorem forall₂_renderItems {items : List Value} {pieces : List (List Char)}
    (h : ∀ v ∈ items, ∀ {s}, render v = .ok s → ReadsBack s v)
    (hp : renderItems items = .ok pieces) : List.Forall₂ ReadsBack pieces items := by
  induction items generalizing pieces with
  | nil =>
    cases hp
    exact .nil
  | cons v items ih =>
    obtain ⟨hv, hitems⟩ := List.forall_mem_cons.mp h
    obtain ⟨first, hfirst, hp⟩ := exists_of_bind_ok hp
    obtain ⟨others, hothers, hp⟩ := exists_of_bind_ok hp
    cases hp
    exact .cons (hv hfirst) (ih hitems hothers)

theorem forall₂_renderEntries {entries : List (String × Value)} {pieces : List (List Char)}
    (h : ∀ e ∈ entries, ∀ {s}, render e.2 = .ok s → ReadsBack s e.2)
    (hp : renderEntries (entries.map fun e => (.text e.1, e.2)) = .ok pieces) :
    List.Forall₂ EntryReadsBack pieces entries := by
  induction entries generalizing pieces with
  | nil =>
    cases hp
    exact .nil
  | cons e entries ih =>
    obtain ⟨he, hentries⟩ := List.forall_mem_cons.mp h
    obtain ⟨key, hkey, hp⟩ := exists_of_bind_ok hp
    obtain ⟨value, hvalue, hp⟩ := exists_of_bind_ok hp
    obtain ⟨others, hothers, hp⟩ := exists_of_bind_ok hp
    cases hkey
    cases hp
    exact .cons ⟨value, rfl, he hvalue⟩ (ih hentries hothers)

theorem readsBack_render {v : Value} (hv : v.Legible) {s : List Char} (h : render v = .ok s) :
    ReadsBack s v := by
  induction hv generalizing s with
  | null =>
    cases h
    exact readsBack_literal (by simp [literals])
  | bool b =>
    cases h
    cases b <;> exact readsBack_literal (by simp [literals, boolText])
  | int n =>
    rw [render] at h
    exact readsBack_int h
  | nan =>
    cases h
    exact readsBack_literal (by simp [literals, realText])
  | infinite negative =>
    cases h
    cases negative <;> exact readsBack_literal (by simp [literals, realText])
  | text t =>
    cases h
    exact readsBack_text t
  | list _ ih =>
    obtain ⟨pieces, hp, hs⟩ := exists_of_bind_ok h
    cases hs
    exact readsBack_list (forall₂_renderItems ih hp)
  | record names _ ih =>
    obtain ⟨pieces, hp, hs⟩ := exists_of_bind_ok h
    cases hs
    exact readsBack_record (forall₂_renderEntries ih hp) names

/-- What is printed for a value is read as this value. -/
theorem read_text {v : Value} (hv : v.Legible) {s : String} (h : text v = .ok s) :
    read s.toList = some v := by
  unfold text at h
  split at h
  · rename_i t ht
    cases h
    have hback := readsBack_render hv ht
    have hskip : skipSpace t = t := by simpa using hback.skipSpace []
    have hread : readValue (2 * t.length + 1) (t ++ []) = some (v, []) :=
      hback.reads (by omega) fun c hc => by cases hc
    rw [List.append_nil] at hread
    rw [String.toList_ofList, read, hskip, hread]
    rfl
  · cases h

/-- The text of a document is read as what has been put together. -/
theorem document_reads_back (config : Config) (root : Root) (moves : List (Nat × Step)) {s : String}
    (h : ((Draft.begin config root).after moves).text = .ok s) :
    let r := (Nested.begin root).after ((Draft.begin config root).settledMoves moves)
    r.value.Legible → read s.toList = some r.value := by
  intro r hr
  have hmirror := (Mirrors.begins config root).after moves
  have htext : text r.value = .ok s := (congrArg text hmirror.value).trans h
  exact read_text hr htext

end Json

end HttpContract
