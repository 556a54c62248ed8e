import HttpContract.Proofs.Regex.Shifted
import HttpContract.Regex.Use
import Mathlib.Tactic.FinCases

/-!
A pattern that goes on after a text: read behind characters that stand for themselves, it gives the
nodes that it gives alone if it is a single sequence and sets no flags for the whole. So it matches
there what it matches alone if none of its nodes looks back.
-/
namespace HttpContract.Regex

namespace Reader

variable {α β γ δ : Type}

/-! ## Readers that read what other readers read -/

/-- Whatever the first reader takes off, the second one takes off, too, and makes `f` of what the
first one makes of it. -/
def Reads (f : α → β) (x : Reader α) (y : Reader β) : Prop :=
  ∀ r a r', x.run r = .ok (a, r') → y.run r = .ok (f a, r')

theorem reads_rfl (x : Reader α) : Reads id x x := fun _ _ _ h => h

theorem reads_pure (f : α → β) (a : α) : Reads f (pure a) (pure (f a)) := by
  rintro r _ _ ⟨⟩
  rfl

theorem run_fail (r : Reading) : (fail : Reader α).run r = .error .invalid := rfl

theorem reads_fail (f : α → β) (y : Reader β) : Reads f fail y := by
  intro r a r' h
  rw [run_fail] at h
  cases h

theorem reads_fail_bind (f : α → β) (k : γ → Reader α) (y : Reader β) :
    Reads f (fail >>= k) y := by
  intro r a r' h
  rw [StateT.run_bind, run_fail] at h
  cases h

theorem Reads.bind {f : α → β} {g : γ → δ} {x : Reader α} {y : Reader β} {k : α → Reader γ}
    {l : β → Reader δ} (hx : Reads f x y) (hk : ∀ a, Reads g (k a) (l (f a))) :
    Reads g (x >>= k) (y >>= l) := by
  intro r c r' h
  cases hfirst : x.run r with
  | error e =>
    rw [StateT.run_bind, hfirst] at h
    cases h
  | ok p =>
    rw [StateT.run_bind, hfirst] at h
    rw [StateT.run_bind, hx r p.1 p.2 hfirst]
    exact hk p.1 p.2 c r' h

theorem Reads.after {g : γ → δ} {k : α → Reader γ} {l : α → Reader δ} (x : Reader α)
    (h : ∀ a, Reads g (k a) (l a)) : Reads g (x >>= k) (x >>= l) := (reads_rfl x).bind h

theorem Reads.ite {f : α → β} {c : Prop} [Decidable c] {x x' : Reader α} {y y' : Reader β}
    (h : c → Reads f x y) (h' : ¬c → Reads f x' y') :
    Reads f (if c then x else x') (if c then y else y') := by
  split
  · exact h ‹_›
  · exact h' ‹_›

theorem Reads.withGroupLimit {x y : Reader Node} (h : Reads id x y) :
    Reads id (withGroupLimit x) (withGroupLimit y) := by
  refine .after _ fun r => ?_
  cases r.groupLimit with
  | some limit => exact h
  | none => exact .after _ fun _ => h.bind fun _ => reads_rfl _

/-! ## More steps, and items before -/

theorem nodesOf_append (items pre : List Item) :
    nodesOf (items ++ pre) = nodesOf pre ++ nodesOf items := by
  rw [nodesOf, List.reverse_append, List.flatMap_append]
  rfl

/-- Only the last item is put under a repetition. -/
theorem reads_repeatLast (flags : Flags) (min : Nat) (max : Option Nat) (items pre : List Item) :
    Reads (· ++ pre) (repeatLast flags min max items) (repeatLast flags min max (items ++ pre)) := by
  cases items with
  | nil => exact reads_fail _ _
  | cons item items =>
    obtain ⟨nodes, kind⟩ := item
    cases kind with
    | plain =>
      refine .after _ fun greed => .ite (fun _ => .after _ fun _ => ?_) fun _ => ?_
      · exact reads_pure (· ++ pre) _
      · exact reads_pure (· ++ pre) _
    | place | repeated => exact reads_fail _ _

/-- What is read within `fuel` steps is read within `fuel'` steps: within parentheses as it is, and
in a sequence behind any items that have been read before. Such items are no place for flags that
hold everywhere, so that the shorter reading may not set any. -/
structure Grows (fuel fuel' : Nat) : Prop where
  nested (flags : Flags) (first : Bool) :
    Reads id (alternatives fuel flags 1 first) (alternatives fuel' flags 1 first)
  behind (flags : Flags) (first : Bool) (items pre : List Item) :
    Reads (nodesOf pre ++ ·) (sequence fuel flags false items)
      (sequence fuel' flags first (items ++ pre))

namespace Grows

variable {fuel fuel' : Nat}

theorem alone (h : Grows fuel fuel') (flags : Flags) :
    Reads id (sequence fuel flags false []) (sequence fuel' flags false []) :=
  h.behind flags false [] []

theorem body (h : Grows fuel fuel') (flags : Flags) :
    Reads id (nodeOf <$> alternatives fuel flags 1 true)
      (nodeOf <$> alternatives fuel' flags 1 true) := by
  rw [map_eq_pure_bind, map_eq_pure_bind]
  exact (h.nested flags true).bind fun _ => reads_pure id _

theorem nested_succ (h : Grows fuel fuel') (flags : Flags) (first : Bool) :
    Reads id (alternatives (fuel + 1) flags 1 first) (alternatives (fuel' + 1) flags 1 first) := by
  rw [alternatives, alternatives]
  refine (h.alone flags).bind fun nodes => .after _ fun more => .ite (fun _ => ?_) fun _ => reads_rfl _
  exact .after _ fun r => (h.nested _ false).bind fun others => reads_rfl _

theorem behind_succ (h : Grows fuel fuel') (flags : Flags) (first : Bool) (items pre : List Item) :
    Reads (nodesOf pre ++ ·) (sequence (fuel + 1) flags false items)
      (sequence (fuel' + 1) flags first (items ++ pre)) := by
  have onward : ∀ items, Reads (nodesOf pre ++ ·) (sequence fuel flags false items)
      (sequence fuel' flags first (items ++ pre)) := fun items => h.behind flags first items pre
  have finished : Reads (nodesOf pre ++ ·) (pure (nodesOf items)) (pure (nodesOf (items ++ pre))) := by
    rw [nodesOf_append]
    exact reads_pure _ _
  rw [sequence, sequence]
  -- Both readers look at the same token; only flags for the whole tell where the reading began.
  refine .after _ fun t => ?_
  cases t with
  | none => exact finished
  | some t =>
    cases t with
    | dangling => exact reads_fail _ _
    | escape c => exact .after _ fun _ => .after _ fun _ => onward ((_, _) :: items)
    | char c =>
      refine .ite (fun _ => finished) fun _ => .after _ fun _ => .ite (fun _ => onward items) fun _ =>
        .ite (fun _ => .after _ fun _ => onward items) fun _ => ?_
      split
      · exact .after _ fun node => onward (_ :: items)
      · exact onward (_ :: items)
      · exact onward (_ :: items)
      · exact onward (_ :: items)
      · refine .after _ fun o => ?_
        cases o with
        | nothing => exact onward items
        | item node => exact onward (_ :: items)
        | everywhere on => exact reads_fail_bind _ _ _
        | look back negated =>
          cases back with
          | true =>
            exact (h.body flags).withGroupLimit.bind fun node =>
              .after _ fun _ => .after _ fun _ => onward (_ :: items)
          | false =>
            exact (h.body flags).bind fun node =>
              .after _ fun _ => .after _ fun _ => onward (_ :: items)
        | choice group =>
          refine (h.alone flags).bind fun yes => .after _ fun other => .ite (fun _ => ?_) fun _ => ?_
          · exact (h.alone flags).bind fun no => .after _ fun _ => onward (_ :: items)
          · exact .after _ fun no => .after _ fun _ => onward (_ :: items)
        | atomic | plain => exact (h.nested flags true).bind fun _ => .after _ fun _ => onward (_ :: items)
        | flagged on off => exact (h.nested _ true).bind fun _ => .after _ fun _ => onward (_ :: items)
        | capture name =>
          exact .after _ fun group => (h.nested flags true).bind fun _ =>
            .after _ fun _ => .after _ fun _ => onward (_ :: items)
      · refine .ite (fun _ => .after _ fun bounds => ?_) fun _ => onward (_ :: items)
        cases bounds with
        | none => exact onward (_ :: items)
        | some b => exact (reads_repeatLast flags b.1 b.2 items pre).bind fun items => onward items

end Grows

theorem grows_zero (fuel' : Nat) : Grows 0 fuel' := by
  constructor
  · intro flags first
    rw [alternatives]
    exact reads_fail _ _
  · intro flags first items pre
    rw [sequence]
    exact reads_fail _ _

theorem grows_of_le {fuel fuel' : Nat} (h : fuel ≤ fuel') : Grows fuel fuel' := by
  induction fuel generalizing fuel' with
  | zero => exact grows_zero fuel'
  | succ fuel ih =>
    obtain ⟨fuel', rfl⟩ := Nat.exists_eq_add_of_le' (Nat.le_trans (Nat.le_add_left 1 fuel) h)
    have hg := ih (Nat.le_of_succ_le_succ h)
    exact ⟨hg.nested_succ, hg.behind_succ⟩

end Reader

/-! ## Characters that stand for themselves -/

def escapedLetter (c : Char) : List Char := if isSpecial c then ['\x5c', c] else [c]

theorem toList_escape (w : String) : (escape w).toList = w.toList.flatMap escapedLetter :=
  String.toList_ofList

def Token.ofLetter (c : Char) : Token := if isSpecial c then .escape c else .char c

theorem Token.ofText_letter (c : Char) (rest : List Char) :
    ofText (escapedLetter c ++ rest) = ofLetter c :: ofText rest := by
  rw [escapedLetter, ofLetter]
  by_cases h : isSpecial c
  · rw [if_pos h, if_pos h]
    rfl
  · rw [if_neg h, if_neg h]
    have hne : c ≠ '\x5c' := by
      rintro rfl
      exact h (by decide)
    rw [List.singleton_append, ofText]
    · rintro rfl
      exact absurd rfl hne
    · rintro d others rfl
      exact absurd rfl hne

theorem Token.ofText_letters (w rest : List Char) :
    ofText (w.flatMap escapedLetter ++ rest) = w.map ofLetter ++ ofText rest := by
  induction w with
  | nil => rfl
  | cons c w ih => rw [List.flatMap_cons, List.append_assoc, ofText_letter, ih]; rfl

namespace Reader

theorem escape_special {c : Char} (h : isSpecial c) :
    escape {} c = pure (code {} c.toNat, false) := by
  have hmem : c ∈ ['(', ')', '[', ']', '\x7b', '\x7d', '?', '*', '+', '-', '|', '^', '$', '\x5c', '.',
      '&', '~', '#', ' ', '\t', '\n', '\r', '\x0b', '\x0c'] := List.contains_iff_mem.mp h
  fin_cases hmem <;> rfl

def letterItem (c : Char) : Item := ([code {} c.toNat], .plain)

theorem nodesOf_letterItems (w : List Char) : nodesOf (w.map letterItem).reverse = letters w := by
  rw [nodesOf, List.reverse_reverse, List.flatMap_map, letters, List.map_eq_flatMap]
  rfl

theorem run_letter (c : Char) (rest : List Token) (fuel : Nat) (first : Bool) (items : List Item)
    (r : Reading) :
    (sequence (fuel + 1) {} first items).run { r with tokens := .ofLetter c :: rest } =
      (sequence fuel {} first (letterItem c :: items)).run { r with tokens := rest } := by
  rw [sequence, Token.ofLetter]
  by_cases h : isSpecial c
  · rw [if_pos h]
    show (escape {} c >>= fun p => sequence fuel {} first
      (([p.1], if p.2 then .place else .plain) :: items)).run { r with tokens := rest } = _
    rw [escape_special h]
    rfl
  · rw [if_neg h]
    have hne : ∀ d, isSpecial d → c ≠ d := fun d hd hc => h (hc ▸ hd)
    have hend : ¬(decide (c = '|') || decide (c = ')')) = true := by
      simp only [hne '|' rfl, hne ')' rfl, decide_false, Bool.or_self, Bool.false_eq_true,
        not_false_eq_true]
    have hmark : ¬['*', '+', '?', '\x7b'].contains c = true := by
      simp only [List.contains_iff_mem, List.mem_cons, hne '*' rfl, hne '+' rfl, hne '?' rfl,
        hne '\x7b' rfl, List.not_mem_nil, or_self, not_false_eq_true]
    rw [StateT.run_bind]
    show (StateT.run (if (decide (c = '|') || decide (c = ')')) = true then _ else _) _) = _
    rw [if_neg hend, if_neg hmark, if_neg nofun, if_neg nofun]
    -- the characters with cases of their own are special
    split
    · exact absurd rfl (hne '[' rfl)
    · exact absurd rfl (hne '.' rfl)
    · exact absurd rfl (hne '^' rfl)
    · exact absurd rfl (hne '$' rfl)
    · exact absurd rfl (hne '(' rfl)
    · rfl

theorem run_letters (w : List Char) (rest : List Token) (fuel : Nat) (first : Bool)
    (items : List Item) (r : Reading) :
    (sequence (fuel + w.length) {} first items).run { r with tokens := w.map .ofLetter ++ rest } =
      (sequence fuel {} first ((w.map letterItem).reverse ++ items)).run { r with tokens := rest } := by
  induction w generalizing items with
  | nil => rfl
  | cons c w ih =>
    rw [List.map_cons, List.map_cons, List.reverse_cons, List.append_assoc, ← ih]
    exact run_letter c _ (fuel + w.length) first items r

end Reader

/-! ## The rest of a pattern -/

open Reader

def Reading.start (tokens : List Token) : Reading := ⟨tokens, {}, #[none], [], none, [], true⟩

def continuation (s : List Char) : Except SyntaxFault (List Node × Reading) :=
  (sequence (3 * (Token.ofText s).length + 2) {} false []).run (.start (Token.ofText s))

/-- Does a pattern mean the same after a text? It is a single sequence, sets no flags for the whole,
and none of its nodes looks back. -/
def goesOn (s : List Char) : Bool :=
  match continuation s with
  | .ok (nodes, r) => r.tokens.isEmpty && nodes.all Node.looksAhead
  | .error _ => false

section Continuation

variable {w s : List Char} {nodes : List Node} {r : Reading}

def closing (r : Reading) : Except SyntaxFault Unit :=
  if r.flags.ascii && r.flags.unicode then .error .incompatible
  else if r.awaited.any (r.groups.size ≤ ·) then .error .invalid
  else .ok ()

theorem run_expression {fuel : Nat} {start : Reading}
    (h : (sequence fuel {} true []).run start = .ok (nodes, r)) (hend : r.tokens = []) :
    (expression (fuel + 1)).run start = (closing r).map fun _ => (.ofList nodes, r) := by
  obtain ⟨tokens, flags, groups, names, groupLimit, awaited, usable⟩ := r
  cases hend
  have halternatives : (alternatives (fuel + 1) {} 0 true).run start =
      .ok ([nodes], ⟨[], flags, groups, names, groupLimit, awaited, usable⟩) := by
    rw [alternatives, StateT.run_bind]
    show ((sequence fuel {} true []).run start >>= _) = _
    rw [h]
    rfl
  rw [expression, StateT.run_bind, halternatives, closing]
  show (if flags.ascii && flags.unicode then _ else _ : Reader Node).run _ = _
  cases flags.ascii && flags.unicode with
  | true => rfl
  | false =>
    show (if !([] : List Token).isEmpty || awaited.any (groups.size ≤ ·) then _ else _ :
      Reader Node).run _ = _
    rw [List.isEmpty_nil, Bool.not_true, Bool.false_or]
    dsimp only
    cases awaited.any (groups.size ≤ ·) <;> rfl

/-- A pattern that goes on behind a text is read as this text, character by character, and then as
what it is by itself. -/
theorem parse_behind (h : continuation s = .ok (nodes, r)) (hend : r.tokens = []) (w : List Char) :
    Pattern.parse (w.flatMap escapedLetter ++ s) = (closing r).map fun _ =>
      ⟨.ofList (letters w ++ nodes), r.groups.size - 1, r.names, r.usable⟩ := by
  let tokens := w.map Token.ofLetter ++ Token.ofText s
  have hlength : tokens.length = w.length + (Token.ofText s).length := by
    rw [List.length_append, List.length_map]
  -- one step for each character of the text, and more than enough for the rest
  have hfuel : 3 * tokens.length + 2 =
      3 * (Token.ofText s).length + 2 + 2 * w.length + w.length := by omega
  have hrest := (grows_of_le (Nat.le_add_right (3 * (Token.ofText s).length + 2) (2 * w.length))).behind
    {} true [] (w.map letterItem).reverse _ _ _ h
  have hsequence : (sequence (3 * tokens.length + 2) {} true []).run (.start tokens) =
      .ok (letters w ++ nodes, r) := by
    rw [hfuel, ← nodesOf_letterItems, ← hrest, List.nil_append, ← List.append_nil (List.reverse _)]
    exact run_letters w (Token.ofText s) _ true [] (.start tokens)
  have hexpression : (expression (3 * tokens.length + 3)).run ⟨tokens, {}, #[none], [], none, [], true⟩ =
      (closing r).map fun _ => (.ofList (letters w ++ nodes), r) := run_expression hsequence hend
  rw [Pattern.parse, Token.ofText_letters, hexpression]
  cases closing r <;> rfl

end Continuation

/-- A pattern that means the same after a text can be used there, and begins with the text. -/
theorem compile_behind {pattern : String} {p : Pattern} (hp : compile pattern = .ok p)
    (hgoes : goesOn pattern.toList) (w : String) :
    ∃ nodes q, p.root = .ofList nodes ∧ (∀ n ∈ nodes, n.looksAhead) ∧
      compile (escape w ++ pattern) = .ok q ∧ q.root = .ofList (letters w.toList ++ nodes) := by
  unfold goesOn at hgoes
  cases hc : continuation pattern.toList with
  | error fault =>
    rw [hc] at hgoes
    cases hgoes
  | ok found =>
    obtain ⟨nodes, r⟩ := found
    rw [hc] at hgoes
    obtain ⟨hend, hnodes⟩ := Bool.and_eq_true_iff.mp hgoes
    have hread := parse_behind hc (List.isEmpty_iff.mp hend)
    have halone : Pattern.parse pattern.toList = _ := hread []
    rw [compile, read, halone] at hp
    rw [compile, read, String.toList_append, toList_escape, hread]
    cases hclosing : closing r with
    | error fault =>
      rw [hclosing] at hp
      cases hp
    | ok _ =>
      rw [hclosing] at hp
      cases husable : r.usable with
      | false =>
        rw [husable] at hp
        cases hp
      | true =>
        rw [husable] at hp
        cases hp
        exact ⟨nodes, _, rfl, List.all_eq_true.mp hnodes, rfl, rfl⟩

/-- A pattern that means the same after a text matches there this text with what it matches
alone. -/
theorem fullMatch_behind {pattern : String} {p : Pattern} (hp : compile pattern = .ok p)
    (hgoes : goesOn pattern.toList) {w : String} (hw : EndsOutsideWord w.toList.toArray)
    (s : List Char) :
    ∃ b, fullMatch (escape w ++ pattern) s = .ok b ∧
      (b ↔ ∃ t, s = w.toList ++ t ∧ fullMatch pattern t = .ok true) := by
  obtain ⟨nodes, q, hroot, hnodes, hq, hqroot⟩ := compile_behind hp hgoes w
  refine ⟨q.matchesAll s, by rw [fullMatch, hq]; rfl, ?_⟩
  rw [Pattern.matchesAll_letters hqroot hroot hw hnodes]
  refine exists_congr fun t => and_congr_right fun _ => ?_
  rw [fullMatch, hp]
  exact (Except.ok.injEq _ _).symm.to_iff

end HttpContract.Regex
