import HttpContract.Text.QuoteStyle

/-!
Literals that end. Rewriting closes every literal but one: where a text stops in a literal right after
a backslash, the quote that is meant to close it is read as escaped. Apart from that, what has been
rewritten consists of closed literals and is not changed again.
-/
namespace HttpContract.Text

/-- Does a text, read on from this state, consist of closed literals between double quotes and, outside
of them, of other characters than quotes? In a literal a backslash and the character after it are
one. -/
def isClosed : QuoteState → List Char → Bool
  | .outside, [] => true
  | .outside, c :: rest =>
    if c = '\x22' then isClosed .double rest else c ≠ '\x27' && isClosed .outside rest
  | .double, [] => false
  | .double, '\x5c' :: _ :: rest => isClosed .double rest
  | .double, c :: rest => if c = '\x22' then isClosed .outside rest else isClosed .double rest
  | .single, _ => false

/-- Does a text, read on from this state, stop in a literal of either kind, right after a backslash
that is not itself escaped? -/
def stopsEscaping : QuoteState → List Char → Bool
  | _, [] => false
  | .outside, c :: rest =>
    if c = '\x27' then stopsEscaping .single rest
    else if c = '\x22' then stopsEscaping .double rest
    else stopsEscaping .outside rest
  | .double, '\x5c' :: _ :: rest => stopsEscaping .double rest
  | .double, c :: rest =>
    if c = '\x22' then stopsEscaping .outside rest else c = '\x5c' || stopsEscaping .double rest
  | .single, '\x5c' :: _ :: rest => stopsEscaping .single rest
  | .single, c :: rest =>
    if c = '\x27' then stopsEscaping .outside rest else c = '\x5c' || stopsEscaping .single rest

def QuoteState.rewritten : QuoteState → QuoteState
  | .outside => .outside
  | .double | .single => .double

/-! ## Reading within a literal -/

section Reading

variable {c : Char} (rest : List Char) (h : c ≠ '\x5c')
include h

theorem isClosed_double_of_ne :
    isClosed .double (c :: rest) =
      if c = '\x22' then isClosed .outside rest else isClosed .double rest := by
  cases rest <;> simp [isClosed, h]

theorem requote_double_of_ne :
    requote .double (c :: rest) =
      if c = '\x22' then '\x22' :: requote .outside rest else c :: requote .double rest := by
  cases rest <;> simp [requote, h]

theorem requote_single_of_ne :
    requote .single (c :: rest) =
      if c = '\x27' then '\x22' :: requote .outside rest
      else if c = '\x22' then '\x5c' :: '\x22' :: requote .single rest
      else c :: requote .single rest := by
  cases rest <;> simp [requote, h]

theorem stopsEscaping_double_of_ne :
    stopsEscaping .double (c :: rest) =
      if c = '\x22' then stopsEscaping .outside rest else stopsEscaping .double rest := by
  cases rest <;> simp [stopsEscaping, h]

theorem stopsEscaping_single_of_ne :
    stopsEscaping .single (c :: rest) =
      if c = '\x27' then stopsEscaping .outside rest else stopsEscaping .single rest := by
  cases rest <;> simp [stopsEscaping, h]

end Reading

theorem eq_nil_of_lone {c : Char} {rest : List Char}
    (h : ∀ d tail, c = '\x5c' → rest = d :: tail → False) (hc : c = '\x5c') : rest = [] := by
  cases rest with
  | nil => rfl
  | cons d tail => exact (h d tail hc rfl).elim

/-! ## Closed texts -/

/-- Closed literals are copied, with what stands between them, and nothing else is. -/
theorem requote_eq_self_iff {q : QuoteState} (hq : q ≠ .single) {s : List Char} :
    requote q s = s ↔ isClosed q s = true := by
  induction q, s using isClosed.induct with
  | case1 => simp [requote, isClosed]
  | case2 rest ih => simpa [requote, isClosed] using ih (by decide)
  | case3 c rest hc ih =>
    by_cases ha : c = '\x27'
    · simp [requote, isClosed, ha]
    · simpa [requote, isClosed, hc, ha] using ih hq
  | case4 => simp [requote, isClosed]
  | case5 c rest ih => simpa [requote, isClosed] using ih hq
  | case6 rest _ ih =>
    simpa [requote_double_of_ne, isClosed_double_of_ne] using ih (by decide)
  | case7 c rest hlone hc ih =>
    by_cases hb : c = '\x5c'
    · simp [eq_nil_of_lone hlone hb, hb, requote, isClosed]
    · simpa [requote_double_of_ne rest hb, isClosed_double_of_ne rest hb, hc] using ih hq
  | case8 s => exact absurd rfl hq

/-- What has been rewritten is closed, unless the quote that is meant to close it follows a
backslash. -/
theorem isClosed_requote (q : QuoteState) (s : List Char) :
    isClosed q.rewritten (requote q s) = !stopsEscaping q s := by
  induction q, s using requote.induct with
  | case7 rest _ ih =>
    rw [requote_double_of_ne rest (by decide), stopsEscaping_double_of_ne rest (by decide)]
    exact (isClosed_double_of_ne _ (by decide)).trans ih
  | case8 c rest hlone hc ih =>
    by_cases hb : c = '\x5c'
    · rw [eq_nil_of_lone hlone hb, hb]
      rfl
    · rw [requote_double_of_ne rest hb, stopsEscaping_double_of_ne rest hb, if_neg hc, if_neg hc]
      exact (isClosed_double_of_ne _ hb).trans ((if_neg hc).trans ih)
  | case10 rest ih =>
    refine Eq.trans ?_ ih
    exact (isClosed_double_of_ne _ (by decide)).trans (if_neg (by decide))
  | case12 rest _ ih =>
    rw [requote_single_of_ne rest (by decide), stopsEscaping_single_of_ne rest (by decide)]
    exact (isClosed_double_of_ne _ (by decide)).trans ih
  | case13 rest _ _ ih =>
    rw [requote_single_of_ne rest (by decide), stopsEscaping_single_of_ne rest (by decide)]
    exact ih
  | case14 c rest hlone hc hd ih =>
    by_cases hb : c = '\x5c'
    · rw [eq_nil_of_lone hlone hb, hb]
      rfl
    · rw [requote_single_of_ne rest hb, stopsEscaping_single_of_ne rest hb, if_neg hc, if_neg hd,
        if_neg hc]
      exact (isClosed_double_of_ne _ hb).trans ((if_neg hd).trans ih)
  | _ => simp_all [QuoteState.rewritten, requote, isClosed, stopsEscaping]

/-- A rewritten text consists of closed literals, and of no other quotes, if and only if the text does not
stop in a literal right after a backslash; and these are the texts that rewriting changes only
once. -/
theorem rewritten_closed_iff (s : String) :
    (isClosed .outside (withDoubleQuotes s).toList = true ↔ stopsEscaping .outside s.toList = false)
    ∧ (withDoubleQuotes (withDoubleQuotes s) = withDoubleQuotes s ↔
      stopsEscaping .outside s.toList = false) := by
  have hclosed : isClosed .outside (withDoubleQuotes s).toList = true ↔
      stopsEscaping .outside s.toList = false := by
    have h := isClosed_requote .outside s.toList
    rw [QuoteState.rewritten] at h
    rw [withDoubleQuotes, String.toList_ofList, h, Bool.not_eq_true']
  refine ⟨hclosed, ?_⟩
  rw [← hclosed, ← requote_eq_self_iff (by decide), withDoubleQuotes]
  constructor
  · intro h
    simpa using congrArg String.toList h
  · intro h
    rw [h, String.ofList_toList]

/-- A literal that stops after a backslash: the quote that is added is escaped, and the next rewriting
adds another one. -/
theorem stopped_literal_stays_open :
    withDoubleQuotes "\x22a\x5c" = "\x22a\x5c\x22"
    ∧ isClosed .outside (withDoubleQuotes "\x22a\x5c").toList = false
    ∧ withDoubleQuotes (withDoubleQuotes "\x22a\x5c") = "\x22a\x5c\x22\x22" := by
  decide

end HttpContract.Text
