import HttpContract.Json.Printer
import HttpContract.Proofs.Number.Digits
import HttpContract.Proofs.Success
import HttpContract.Proofs.Text.Literals

/-!
JSON texts with their literals between apostrophes. What is printed for a value can be written that
way: rewriting the literals with double quotes gives the printed text again, and leaves the printed
text itself as it is.
-/
namespace HttpContract.Text

/-- The text with its literals between apostrophes: a double quote within needs no escape then, and an
apostrophe needs one. All other escapes stay. -/
def apostrophed : QuoteState → List Char → List Char
  | .outside, [] => []
  | .outside, c :: rest =>
    if c = '\x22' then '\x27' :: apostrophed .double rest else c :: apostrophed .outside rest
  | .double, [] => []
  | .double, '\x5c' :: c :: rest =>
    if c = '\x22' then '\x22' :: apostrophed .double rest else '\x5c' :: c :: apostrophed .double rest
  | .double, c :: rest =>
    if c = '\x22' then '\x27' :: apostrophed .outside rest
    else if c = '\x27' then '\x5c' :: '\x27' :: apostrophed .double rest
    else c :: apostrophed .double rest
  | .single, s => s

def withApostrophes (s : String) : String := String.ofList (apostrophed .outside s.toList)

theorem apostrophed_double_of_ne {c : Char} (rest : List Char) (h : c ≠ '\x5c') :
    apostrophed .double (c :: rest) =
      if c = '\x22' then '\x27' :: apostrophed .outside rest
      else if c = '\x27' then '\x5c' :: '\x27' :: apostrophed .double rest
      else c :: apostrophed .double rest := by
  cases rest <;> simp [apostrophed, h]

/-- Both rewritings get past a text that stands outside of literals: the one from apostrophes gives
it back, and the other one copies it. -/
structure Rewritable (s : List Char) : Prop where
  copied : ∀ rest, requote .outside (s ++ rest) = s ++ requote .outside rest
  restored : ∀ rest, requote .outside (apostrophed .outside (s ++ rest)) =
    s ++ requote .outside (apostrophed .outside rest)

theorem rewritable_nil : Rewritable [] := ⟨fun _ => rfl, fun _ => rfl⟩

theorem Rewritable.append {s t : List Char} (hs : Rewritable s) (ht : Rewritable t) :
    Rewritable (s ++ t) where
  copied rest := by rw [List.append_assoc, hs.copied, ht.copied, List.append_assoc]
  restored rest := by rw [List.append_assoc, hs.restored, ht.restored, List.append_assoc]

theorem rewritable_cons {c : Char} (hd : c ≠ '\x22') (ha : c ≠ '\x27') {s : List Char}
    (hs : Rewritable s) : Rewritable (c :: s) where
  copied rest := by simp [requote, hd, ha, hs.copied]
  restored rest := by simp [requote, apostrophed, hd, ha, hs.restored]

theorem rewritable_of_unquoted {s : List Char} (hd : '\x22' ∉ s) (ha : '\x27' ∉ s) :
    Rewritable s := by
  induction s with
  | nil => exact rewritable_nil
  | cons c s ih =>
    rw [List.mem_cons, not_or] at hd ha
    exact rewritable_cons (Ne.symm hd.1) (Ne.symm ha.1) (ih hd.2 ha.2)

theorem Rewritable.join {separator : List Char} (hsep : Rewritable separator)
    {pieces : List (List Char)} (h : ∀ piece ∈ pieces, Rewritable piece) :
    Rewritable (Text.join separator pieces) := by
  induction pieces with
  | nil => exact rewritable_nil
  | cons piece pieces ih =>
    obtain ⟨hpiece, hpieces⟩ := List.forall_mem_cons.mp h
    cases pieces with
    | nil => exact hpiece
    | cons next pieces => exact (hpiece.append hsep).append (ih hpieces)

end HttpContract.Text

namespace HttpContract.Json

open Text

/-! ## Literals -/

theorem mem_hex {width n : Nat} {c : Char} (h : c ∈ hex width n) : ∃ d < 16, c = hexDigit d := by
  induction width generalizing n with
  | zero => cases h
  | succ width ih =>
    rcases List.mem_append.mp h with h | h
    · exact ih h
    · exact ⟨n % 16, Nat.mod_lt _ (by decide), List.mem_singleton.mp h⟩

structure IsInner (c : Char) : Prop where
  ne_quote : c ≠ '\x22'
  ne_apostrophe : c ≠ '\x27'
  ne_escape : c ≠ '\x5c'

theorem isInner_of_mem_hex {width n : Nat} {c : Char} (h : c ∈ hex width n) : IsInner c := by
  have hdigits : ∀ d < 16, hexDigit d ≠ '\x22' ∧ hexDigit d ≠ '\x27' ∧ hexDigit d ≠ '\x5c' := by
    decide
  obtain ⟨d, hd, rfl⟩ := mem_hex h
  obtain ⟨hq, ha, he⟩ := hdigits d hd
  exact ⟨hq, ha, he⟩

inductive Escape (c : Char) : Prop
  | pair (d : Char) (tail : List Char) (hd : d ≠ '\x27') (inner : ∀ x ∈ tail, IsInner x)
    (eq : escaped c = '\x5c' :: d :: tail)
  | itself (ne_quote : c ≠ '\x22') (ne_escape : c ≠ '\x5c') (eq : escaped c = [c])

theorem escape_escaped (c : Char) : Escape c := by
  have short (d : Char) (hd : d ≠ '\x27') (h : escaped c = ['\x5c', d]) : Escape c :=
    .pair d [] hd (by simp) h
  by_cases hq : c = '\x22'
  · exact short '\x22' (by decide) (by rw [hq]; rfl)
  by_cases he : c = '\x5c'
  · exact short '\x5c' (by decide) (by rw [he]; rfl)
  by_cases hn : c = '\n'
  · exact short 'n' (by decide) (by rw [hn]; rfl)
  by_cases hr : c = '\r'
  · exact short 'r' (by decide) (by rw [hr]; rfl)
  by_cases ht : c = '\t'
  · exact short 't' (by decide) (by rw [ht]; rfl)
  by_cases hb : c = '\x08'
  · exact short 'b' (by decide) (by rw [hb]; rfl)
  by_cases hf : c = '\x0c'
  · exact short 'f' (by decide) (by rw [hf]; rfl)
  by_cases hlow : c.toNat < 0x20
  · refine .pair 'u' (hex 4 c.toNat) (by decide) (fun x hx => isInner_of_mem_hex hx) ?_
    simp [escaped, hq, he, hn, hr, ht, hb, hf, hlow]
  · exact .itself hq he (by simp [escaped, hq, he, hn, hr, ht, hb, hf, hlow])

theorem requote_double_inner {s : List Char} (h : ∀ c ∈ s, IsInner c) (rest : List Char) :
    requote .double (s ++ rest) = s ++ requote .double rest := by
  induction s with
  | nil => rfl
  | cons c s ih =>
    obtain ⟨hc, hs⟩ := List.forall_mem_cons.mp h
    rw [List.cons_append, requote_double_of_ne _ hc.ne_escape, if_neg hc.ne_quote, ih hs]
    rfl

theorem restored_inner {s : List Char} (h : ∀ c ∈ s, IsInner c) (rest : List Char) :
    requote .single (apostrophed .double (s ++ rest)) =
      s ++ requote .single (apostrophed .double rest) := by
  induction s with
  | nil => rfl
  | cons c s ih =>
    obtain ⟨hc, hs⟩ := List.forall_mem_cons.mp h
    rw [List.cons_append, apostrophed_double_of_ne _ hc.ne_escape, if_neg hc.ne_quote,
      if_neg hc.ne_apostrophe, requote_single_of_ne _ hc.ne_escape, if_neg hc.ne_apostrophe,
      if_neg hc.ne_quote, ih hs]
    rfl

theorem requote_double_escaped (c : Char) (rest : List Char) :
    requote .double (escaped c ++ rest) = escaped c ++ requote .double rest := by
  cases escape_escaped c with
  | pair d tail _ inner eq =>
    rw [eq]
    simp [requote, requote_double_inner inner]
  | itself ne_quote ne_escape eq =>
    rw [eq, List.singleton_append, requote_double_of_ne rest ne_escape, if_neg ne_quote]
    rfl

theorem restored_escaped (c : Char) (rest : List Char) :
    requote .single (apostrophed .double (escaped c ++ rest)) =
      escaped c ++ requote .single (apostrophed .double rest) := by
  cases escape_escaped c with
  | pair d tail hd inner eq =>
    rw [eq]
    by_cases hq : d = '\x22'
    · rw [hq]
      simp [apostrophed, requote_single_of_ne, restored_inner inner]
    · simp [apostrophed, requote, hq, hd, restored_inner inner]
  | itself ne_quote ne_escape eq =>
    rw [eq, List.singleton_append, apostrophed_double_of_ne rest ne_escape, if_neg ne_quote]
    by_cases ha : c = '\x27'
    · rw [ha]
      rfl
    · rw [if_neg ha, requote_single_of_ne _ ne_escape, if_neg ha, if_neg ne_quote]
      rfl

theorem requote_double_literal (s rest : List Char) :
    requote .double (s.flatMap escaped ++ '\x22' :: rest) =
      s.flatMap escaped ++ '\x22' :: requote .outside rest := by
  induction s with
  | nil => exact requote_double_of_ne rest (by decide)
  | cons c s ih => simp only [List.flatMap_cons, List.append_assoc, requote_double_escaped, ih]

theorem restored_literal (s rest : List Char) :
    requote .single (apostrophed .double (s.flatMap escaped ++ '\x22' :: rest)) =
      s.flatMap escaped ++ '\x22' :: requote .outside (apostrophed .outside rest) := by
  induction s with
  | nil =>
    rw [List.flatMap_nil, List.nil_append, apostrophed_double_of_ne rest (by decide), if_pos rfl,
      requote_single_of_ne _ (by decide), if_pos rfl]
    rfl
  | cons c s ih => simp only [List.flatMap_cons, List.append_assoc, restored_escaped, ih]

theorem rewritable_quoted (s : List Char) : Rewritable (quoted s) where
  copied rest := by simp [quoted, requote, requote_double_literal]
  restored rest := by simp [quoted, apostrophed, requote, restored_literal]

/-! ## Numbers -/

def isNumeral (c : Char) : Bool :=
  isAsciiDigit c || ['-', '+', '.', 'e', 'N', 'a', 'I', 'n', 'f', 'i', 't', 'y'].contains c

theorem rewritable_of_numerals {s : List Char} (h : s.all isNumeral = true) : Rewritable s := by
  refine rewritable_of_unquoted ?_ ?_ <;> intro hc <;> cases List.all_eq_true.mp h _ hc

theorem numerals_digitsOf (n : Nat) : (Number.digitsOf n).all isNumeral = true :=
  List.all_eq_true.mpr fun c hc => by
    rw [isNumeral, Number.isAsciiDigit_of_mem_digitsOf hc, Bool.true_or]

theorem numerals_of_sublist {s t : List Char} (h : t.all isNumeral = true) (hs : s.Sublist t) :
    s.all isNumeral = true :=
  List.all_eq_true.mpr fun c hc => List.all_eq_true.mp h c (hs.subset hc)

theorem numerals_layout {digits : List Char} (h : digits.all isNumeral = true) (point : Int) :
    (Number.Real64.layout digits point).all isNumeral = true := by
  have htake (k : Nat) : (digits.take k).all isNumeral = true :=
    numerals_of_sublist h (List.take_sublist k digits)
  have hdrop (k : Nat) : (digits.drop k).all isNumeral = true :=
    numerals_of_sublist h (List.drop_sublist k digits)
  have htail : digits.tail.all isNumeral = true := numerals_of_sublist h (List.tail_sublist digits)
  have hzeros (k : Nat) : (List.replicate k '0').all isNumeral = true := by
    simp [isNumeral, isAsciiDigit]
  have hpower := numerals_digitsOf (point - 1).natAbs
  have hmarks : ∀ c ∈ ['0', '.', 'e', '-', '+'], isNumeral c = true :=
    List.all_eq_true.mp (by decide)
  unfold Number.Real64.layout
  split
  · split
    · simp [List.all_append, hzeros, h, hmarks]
    · dsimp only
      split <;> simp [List.all_append, hzeros, htake, hdrop, hmarks]
  · dsimp only
    split <;> split <;> split <;> simp [List.all_append, htake, htail, hpower, hmarks, -List.all_eq_true]

theorem numerals_realText (x : Number.Real64) : (realText x).all isNumeral = true := by
  have hsign (negative : Bool) : (if negative then ['-'] else []).all isNumeral = true := by
    cases negative <;> decide
  cases x with
  | nan => decide
  | infinite negative => cases negative <;> decide
  | finite negative m e =>
    show (Number.Real64.finite negative m e).text.all isNumeral = true
    cases m with
    | zero => cases negative <;> rfl
    | succ m =>
      obtain ⟨zeros, hzeros, -⟩ := exists_dropEndWhile_append (· = '0')
        (Number.digitsOf (Number.Real64.shortest (m + 1) e).coefficient)
      have hdigits := numerals_digitsOf (Number.Real64.shortest (m + 1) e).coefficient
      rw [hzeros, List.all_append, Bool.and_eq_true] at hdigits
      rw [Number.Real64.text, List.all_append, hsign, numerals_layout hdigits.1]
      · rfl
      · exact nofun

theorem numerals_integerText (n : Int) : (Number.integerText n).all isNumeral = true := by
  have hdigits := numerals_digitsOf n.natAbs
  unfold Number.integerText
  split
  · rw [List.all_cons, hdigits]
    rfl
  · exact hdigits

/-! ## Values -/

theorem rewritable_realText (x : Number.Real64) : Rewritable (realText x) :=
  rewritable_of_numerals (numerals_realText x)

theorem rewritable_integerText {n : Int} {s : List Char} (h : integerText n = .ok s) :
    Rewritable s := by
  unfold integerText at h
  split at h
  · cases h
    exact rewritable_of_numerals (numerals_integerText n)
  · cases h

theorem rewritable_decimalText {d : Number.Decimal} {s : List Char} (h : decimalText d = .ok s) :
    Rewritable s := by
  unfold decimalText at h
  split at h
  · cases h
  · cases d <;> cases h <;> exact rewritable_realText _

theorem rewritable_listText {pieces : List (List Char)} (h : ∀ piece ∈ pieces, Rewritable piece) :
    Rewritable (listText pieces) := by
  have hcomma : Rewritable ", ".toList := rewritable_of_unquoted (by decide) (by decide)
  have hclose : Rewritable [']'] := rewritable_of_unquoted (by decide) (by decide)
  exact rewritable_cons (by decide) (by decide) ((hcomma.join h).append hclose)

theorem rewritable_recordText {pieces : List (List Char)} (h : ∀ piece ∈ pieces, Rewritable piece) :
    Rewritable (recordText pieces) := by
  have hcomma : Rewritable ", ".toList := rewritable_of_unquoted (by decide) (by decide)
  have hclose : Rewritable ['\x7d'] := rewritable_of_unquoted (by decide) (by decide)
  exact rewritable_cons (by decide) (by decide) ((hcomma.join h).append hclose)

mutual

theorem rewritable_render {s : List Char} : ∀ v : Value, render v = .ok s → Rewritable s
  | .null => fun h => by
    cases h
    exact rewritable_of_unquoted (by decide) (by decide)
  | .bool b => fun h => by
    cases h
    cases b <;> exact rewritable_of_unquoted (by decide) (by decide)
  | .int n => fun h => by
    rw [render] at h
    exact rewritable_integerText h
  | .real x => fun h => by
    rw [render, Except.ok.injEq] at h
    exact h ▸ rewritable_realText x
  | .decimal d => fun h => by
    rw [render] at h
    exact rewritable_decimalText h
  | .text t => fun h => by
    cases h
    exact rewritable_quoted t.toList
  | .list items => fun h => by
    obtain ⟨pieces, hp, hs⟩ := exists_of_bind_ok h
    cases hs
    exact rewritable_listText (rewritable_renderItems items hp)
  | .tuple items => fun h => by
    obtain ⟨pieces, hp, hs⟩ := exists_of_bind_ok h
    cases hs
    exact rewritable_listText (rewritable_renderItems items hp)
  | .map entries => fun h => by
    obtain ⟨pieces, hp, hs⟩ := exists_of_bind_ok h
    cases hs
    exact rewritable_recordText (rewritable_renderEntries entries hp)
  | .bytes _ | .element _ | .mediaType _ | .foreign _ => fun h => by cases h

theorem rewritable_renderItems {pieces : List (List Char)} : ∀ items : List Value,
    renderItems items = .ok pieces → ∀ piece ∈ pieces, Rewritable piece
  | [] => fun h => by
    cases h
    exact nofun
  | v :: rest => fun h => by
    obtain ⟨first, hv, h⟩ := exists_of_bind_ok h
    obtain ⟨others, hrest, h⟩ := exists_of_bind_ok h
    cases h
    exact List.forall_mem_cons.mpr ⟨rewritable_render v hv, rewritable_renderItems rest hrest⟩

theorem rewritable_renderEntries {pieces : List (List Char)} : ∀ entries : List (Value × Value),
    renderEntries entries = .ok pieces → ∀ piece ∈ pieces, Rewritable piece
  | [] => fun h => by
    cases h
    exact nofun
  | (k, v) :: rest => fun h => by
    obtain ⟨key, -, h⟩ := exists_of_bind_ok h
    obtain ⟨value, hv, h⟩ := exists_of_bind_ok h
    obtain ⟨others, hrest, h⟩ := exists_of_bind_ok h
    cases h
    have hcolon : Rewritable ": ".toList := rewritable_of_unquoted (by decide) (by decide)
    have hentry := ((rewritable_quoted key).append hcolon).append (rewritable_render v hv)
    exact List.forall_mem_cons.mpr ⟨hentry, rewritable_renderEntries rest hrest⟩

end

/-- The text printed for a value is the rewriting of the same text with its literals between
apostrophes, and the rewriting of itself. -/
theorem text_from_apostrophes {v : Value} {t : String} (h : text v = .ok t) :
    withDoubleQuotes (withApostrophes t) = t ∧ withDoubleQuotes t = t := by
  unfold text at h
  split at h
  · rename_i s hs
    cases h
    have hr := rewritable_render v hs
    have hrestored := hr.restored []
    have hcopied := hr.copied []
    rw [List.append_nil] at hrestored hcopied
    have hempty : requote .outside [] = [] := rfl
    constructor
    · rw [withDoubleQuotes, withApostrophes, String.toList_ofList, String.toList_ofList, hrestored]
      exact congrArg String.ofList (List.append_nil s)
    · rw [withDoubleQuotes, String.toList_ofList, hcopied]
      exact congrArg String.ofList (List.append_nil s)
  · cases h

/-- Both kinds of quotes and a backslash, in a name and in a value. -/
theorem text_from_apostrophes_both_quotes :
    let v := Value.record [("it's", .text "\x22\x5c\x22'")]
    let t := "\x7b\x22it's\x22: \x22\x5c\x22\x5c\x5c\x5c\x22'\x22\x7d"
    text v = .ok t
    ∧ withApostrophes t = "\x7b'it\x5c's': '\x22\x5c\x5c\x22\x5c''\x7d"
    ∧ withDoubleQuotes "\x7b'it\x5c's': '\x22\x5c\x5c\x22\x5c''\x7d" = t := by
  intro v t
  have ht : text v = .ok t := eq_ok_of_toOption (by decide)
  have hs : withApostrophes t = "\x7b'it\x5c's': '\x22\x5c\x5c\x22\x5c''\x7d" := by decide
  exact ⟨ht, hs, hs ▸ (text_from_apostrophes ht).1⟩

end HttpContract.Json
