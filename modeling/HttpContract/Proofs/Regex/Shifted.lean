import HttpContract.Regex.Match

/-!
Matching behind a text that stands before: a node that heeds nothing of what stands before it does
there what it does at the start of a text, only further on. So a pattern that begins with the
characters of a text, one by one, matches exactly this text with what the rest of it matches.
-/
namespace HttpContract.Regex

/-! ## Positions further on -/

def Captures.shift (k : Nat) (c : Captures) : Captures :=
  c.map fun e => (e.1, k + e.2.1, e.2.2.map (k + ·))

def shiftReached (k : Nat) (r : Reached) : Reached := (k + r.1, Captures.shift k r.2)

namespace Captures

variable {k : Nat}

theorem shift_change {f g : Option (Nat × Option Nat) → Nat × Option Nat}
    (h : ∀ old, g (old.map fun s => (k + s.1, s.2.map (k + ·))) = (k + (f old).1, (f old).2.map (k + ·)))
    (c : Captures) (i : Nat) : change g i (c.shift k) = shift k (change f i c) := by
  induction c with
  | nil => exact congrArg (fun s => [(i, s)]) (h none)
  | cons e c ih =>
    show (if e.1 = i then _ else _) = shift k (if e.1 = i then _ else _)
    split
    · exact congrArg (fun s => (i, s) :: shift k c) (h (some e.2))
    · exact congrArg (_ :: ·) ih

theorem shift_enter (c : Captures) (i pos : Nat) :
    (c.shift k).enter i (k + pos) = (c.enter i pos).shift k := by
  refine shift_change (fun old => ?_) c i
  cases old <;> rfl

theorem shift_leave (c : Captures) (i pos : Nat) :
    (c.shift k).leave i (k + pos) = (c.leave i pos).shift k := by
  refine shift_change (fun old => ?_) c i
  cases old <;> rfl

theorem lookup_shift (c : Captures) (i : Nat) :
    (c.shift k).lookup i = (c.lookup i).map fun s => (k + s.1, s.2.map (k + ·)) := by
  induction c with
  | nil => rfl
  | cons e c ih =>
    rw [List.lookup_cons]
    show (bif i == e.1 then _ else _) = _
    cases i == e.1 with
    | true => rfl
    | false => exact ih

theorem get?_shift (c : Captures) (i : Nat) :
    (c.shift k).get? i = (c.get? i).map fun s => (k + s.1, k + s.2) := by
  rw [get?, get?, lookup_shift]
  cases c.lookup i with
  | none => rfl
  | some s =>
    obtain ⟨start, stop⟩ := s
    cases stop with
    | none => rfl
    | some stop =>
      show (if k + start ≤ k + stop then _ else _) = Option.map _ (if start ≤ stop then _ else _)
      simp only [Nat.add_le_add_iff_left]
      split <;> rfl

end Captures

/-! ## Matchers that do the same further on -/

def RestShifts (k : Nat) (rest rest' : Rest) : Prop :=
  ∀ pos caps, rest' (k + pos) (caps.shift k) = (rest pos caps).map (shiftReached k)

def Shifts (k : Nat) (m m' : Matcher) : Prop :=
  ∀ pos caps rest rest', RestShifts k rest rest' →
    m' (k + pos) (caps.shift k) rest' = (m pos caps rest).map (shiftReached k)

theorem restShifts_some {k : Nat} : RestShifts k (fun p c => some (p, c)) fun p c => some (p, c) :=
  fun _ _ => rfl

theorem shifted_if {k : Nat} {b : Bool} {r r' : Option Reached} (h : r' = r.map (shiftReached k)) :
    (if b then r' else none) = (if b then r else none).map (shiftReached k) := by
  cases b with
  | false => rfl
  | true => exact h

section Repetition

variable {k : Nat} {step step' : Matcher} (min : Nat) (max : Option Nat)

theorem last_shift (last : Option Nat) (pos : Nat) :
    (last.map (k + ·) != some (k + pos)) = (last != some pos) := by
  cases last with
  | none => rfl
  | some p =>
    rw [Bool.eq_iff_iff]
    simp

theorem shifts_greedy (h : Shifts k step step') (fuel count : Nat) (last : Option Nat) :
    Shifts k (greedy step min max fuel count last)
      (greedy step' min max fuel count (last.map (k + ·))) := by
  induction fuel generalizing count last with
  | zero => exact fun _ _ _ _ _ => rfl
  | succ fuel ih =>
    intro pos caps rest rest' hrest
    rw [greedy, greedy, last_shift]
    split
    · exact h pos caps _ _ fun p c => ih _ _ p c rest rest' hrest
    · split
      · rw [h pos caps _ _ fun p c => ih (count + 1) (some pos) p c rest rest' hrest]
        cases step pos caps fun p c => greedy step min max fuel (count + 1) (some pos) p c rest with
        | none => exact hrest pos caps
        | some r => rfl
      · exact hrest pos caps

theorem shifts_lazy (h : Shifts k step step') (fuel count : Nat) (last : Option Nat) :
    Shifts k (lazy step min max fuel count last)
      (lazy step' min max fuel count (last.map (k + ·))) := by
  induction fuel generalizing count last with
  | zero => exact fun _ _ _ _ _ => rfl
  | succ fuel ih =>
    intro pos caps rest rest' hrest
    rw [lazy, lazy, last_shift]
    split
    · exact h pos caps _ _ fun p c => ih _ _ p c rest rest' hrest
    · rw [hrest pos caps]
      cases rest pos caps with
      | some r => rfl
      | none =>
        exact shifted_if (h pos caps _ _ fun p c => ih _ (some pos) p c rest rest' hrest)

theorem shift_possessive (h : Shifts k step step') (fuel count : Nat) (last : Option Nat) (pos : Nat)
    (caps : Captures) :
    possessive step' min max fuel count (last.map (k + ·)) (k + pos) (caps.shift k) =
      (possessive step min max fuel count last pos caps).map (shiftReached k) := by
  induction fuel generalizing count last pos caps with
  | zero => rfl
  | succ fuel ih =>
    rw [possessive, possessive, last_shift, h pos caps _ _ restShifts_some]
    split
    · cases step pos caps fun p c => some (p, c) with
      | none => rfl
      | some r => exact ih _ last r.1 r.2
    · split
      · cases step pos caps fun p c => some (p, c) with
        | none => rfl
        | some r => exact ih _ (some pos) r.1 r.2
      · rfl

end Repetition

/-! ## Behind a text -/

section Behind

variable {pre input : Array Char}

theorem getElem?_behind (pos : Nat) : (pre ++ input)[pre.size + pos]? = input[pos]? := by
  rw [Array.getElem?_append_right (Nat.le_add_right ..), Nat.add_sub_cancel_left]

theorem isWordAt_behind (ascii : Bool) (pos : Nat) :
    isWordAt (pre ++ input) ascii (pre.size + pos) = isWordAt input ascii pos := by
  rw [isWordAt, isWordAt, getElem?_behind]

theorem repeats_behind (fold : Fold) (start pos n : Nat) :
    repeats (pre ++ input) fold (pre.size + start) (pre.size + pos) n =
      repeats input fold start pos n := by
  unfold repeats
  simp only [Nat.add_assoc, getElem?_behind]

def EndsOutsideWord (pre : Array Char) : Prop :=
  ∀ ascii, isWordAt pre ascii (pre.size - 1) = false

theorem endsOutsideWord_concat (w : List Char) {c : Char}
    (h : ∀ ascii, ClassKind.word.holds ascii c = false) : EndsOutsideWord (w ++ [c]).toArray := by
  intro ascii
  rw [isWordAt, List.getElem?_toArray, List.size_toArray, List.length_append, List.length_singleton,
    Nat.add_sub_cancel, List.getElem?_concat_length]
  exact h ascii

theorem isBoundary_behind (h : EndsOutsideWord pre) (ascii : Bool) (pos : Nat) :
    isBoundary (pre ++ input) ascii (pre.size + pos) = isBoundary input ascii pos := by
  rw [isBoundary, isBoundary, isWordAt_behind]
  congr 1
  cases pos with
  | succ pos =>
    rw [show pre.size + (pos + 1) - 1 = pre.size + pos from rfl, isWordAt_behind]
    simp
  | zero =>
    by_cases hsize : pre.size = 0
    · rw [hsize]
      rfl
    · have hlast : isWordAt (pre ++ input) ascii (pre.size - 1) = false := by
        rw [isWordAt, Array.getElem?_append_left (by omega)]
        exact h ascii
      rw [Nat.add_zero, hlast, Bool.and_false]
      rfl

namespace Anchor

/-- Does an anchor heed nothing of what stands before its place? Within an empty text there is
neither a boundary nor its absence, so that the latter heeds whether the text is empty. -/
def looksAhead : Anchor → Bool
  | textStart | lineStart | noBoundary _ => false
  | textEnd | lastLineEnd | lineEnd | boundary _ => true

theorem holds_behind (h : EndsOutsideWord pre) {a : Anchor} (ha : a.looksAhead) (pos : Nat) :
    a.holds (pre ++ input) (pre.size + pos) = a.holds input pos := by
  cases a with
  | textStart | lineStart | noBoundary ascii => cases ha
  | textEnd | lineEnd | lastLineEnd =>
    simp only [holds, Array.size_append, getElem?_behind, Nat.add_assoc, Nat.add_right_inj]
  | boundary ascii =>
    rw [holds, holds, isBoundary_behind h]
    by_cases hsize : input.size = 0
    · have hnone : ∀ i, isWordAt input ascii i = false := by
        intro i
        rw [isWordAt, Array.getElem?_eq_none (by omega)]
      have hnever : isBoundary input ascii pos = false := by
        rw [isBoundary, hnone, hnone, Bool.and_false]
        rfl
      rw [hnever, Bool.and_false, Bool.and_false]
    · have hboth : (pre ++ input).size ≠ 0 := by
        rw [Array.size_append]
        omega
      rw [bne_iff_ne.mpr hsize, bne_iff_ne.mpr hboth]

end Anchor

namespace Node

def looksAhead : Node → Bool
  | empty | one _ | any _ | ref _ _ => true
  | anchor a => a.looksAhead
  | cat a b | alt a b | choose _ a b => a.looksAhead && b.looksAhead
  | group _ body | flagged body | ahead _ body | atomic body | times _ _ _ body => body.looksAhead
  | behind _ _ _ => false

/-- A node that does not look back does the same behind a text. -/
theorem shifts_run (h : EndsOutsideWord pre) {n : Node} (hn : n.looksAhead) :
    Shifts pre.size (n.run input) (n.run (pre ++ input)) := by
  -- Shifting passes through what comes after a node, so that the parts of a node need no more.
  induction n with
  | empty => exact fun pos caps _ _ hrest => hrest pos caps
  | one test =>
    intro pos caps rest rest' hrest
    rw [run, run, getElem?_behind]
    cases input[pos]? with
    | none => rfl
    | some c => exact shifted_if (hrest (pos + 1) caps)
  | any lineBreaks =>
    intro pos caps rest rest' hrest
    rw [run, run, getElem?_behind]
    cases input[pos]? with
    | none => rfl
    | some c => exact shifted_if (hrest (pos + 1) caps)
  | anchor a =>
    intro pos caps rest rest' hrest
    rw [run, run, a.holds_behind h hn]
    exact shifted_if (hrest pos caps)
  | cat a b iha ihb =>
    obtain ⟨ha, hb⟩ := Bool.and_eq_true_iff.mp hn
    intro pos caps rest rest' hrest
    exact iha ha pos caps _ _ fun p c => ihb hb p c rest rest' hrest
  | alt a b iha ihb =>
    obtain ⟨ha, hb⟩ := Bool.and_eq_true_iff.mp hn
    intro pos caps rest rest' hrest
    rw [run, run, iha ha pos caps rest rest' hrest, ihb hb pos caps rest rest' hrest]
    cases a.run input pos caps rest <;> rfl
  | group i body ih =>
    intro pos caps rest rest' hrest
    rw [run, run, Captures.shift_enter]
    refine ih hn pos _ _ _ fun p c => ?_
    rw [Captures.shift_leave]
    exact hrest p _
  | ref i fold =>
    intro pos caps rest rest' hrest
    rw [run, run, Captures.get?_shift]
    cases caps.get? i with
    | none => rfl
    | some s =>
      obtain ⟨start, stop⟩ := s
      show (if repeats (pre ++ input) fold (pre.size + start) (pre.size + pos)
          (pre.size + stop - (pre.size + start)) then _ else _) =
        Option.map _ (if repeats input fold start pos (stop - start) then _ else _)
      rw [Nat.add_sub_add_left, repeats_behind, Nat.add_assoc]
      exact shifted_if (hrest (pos + (stop - start)) caps)
  | flagged body ih => exact ih hn
  | ahead negated body ih =>
    intro pos caps rest rest' hrest
    rw [run, run, ih hn pos caps _ _ restShifts_some]
    cases body.run input pos caps fun p c => some (p, c) with
    | none =>
      show (if negated then _ else _) = Option.map _ (if negated then _ else _)
      split
      · exact hrest pos caps
      · rfl
    | some r =>
      show (if negated then _ else _) = Option.map _ (if negated then _ else _)
      split
      · rfl
      · exact hrest pos r.2
  | behind negated width body ih => cases hn
  | atomic body ih =>
    intro pos caps rest rest' hrest
    rw [run, run, ih hn pos caps _ _ restShifts_some]
    cases body.run input pos caps fun p c => some (p, c) with
    | none => rfl
    | some r => exact hrest r.1 r.2
  | times min max greed body ih =>
    intro pos caps rest rest' hrest
    have hfuel : (pre ++ input).size - (pre.size + pos) = input.size - pos := by
      rw [Array.size_append, Nat.add_sub_add_left]
    cases greed with
    | greedy =>
      rw [run, run, hfuel]
      exact shifts_greedy min max (ih hn) _ 0 none pos caps rest rest' hrest
    | lazy =>
      rw [run, run, hfuel]
      exact shifts_lazy min max (ih hn) _ 0 none pos caps rest rest' hrest
    | possessive =>
      have hsettled := shift_possessive min max (ih hn) (min + (input.size - pos) + 2) 0 none pos caps
      rw [run, run, hfuel]
      rw [Option.map_none] at hsettled
      rw [hsettled]
      cases possessive (body.run input) min max (min + (input.size - pos) + 2) 0 none pos caps with
      | none => rfl
      | some r => exact hrest r.1 r.2
  | choose i yes no ihy ihn =>
    obtain ⟨hyes, hno⟩ := Bool.and_eq_true_iff.mp hn
    intro pos caps rest rest' hrest
    rw [run, run, Captures.get?_shift]
    cases caps.get? i with
    | none => exact ihn hno pos caps rest rest' hrest
    | some s => exact ihy hyes pos caps rest rest' hrest

end Node

end Behind

/-! ## A text first -/

def letters (w : List Char) : List Node := w.map fun c => .one (.ofCode .exact c.toNat)

theorem holds_letter (c d : Char) : (CharTest.ofCode .exact c.toNat).holds d = decide (c = d) := by
  show (decide (c.toNat = d.toNat) != false) = _
  rw [Bool.bne_false, decide_eq_decide]
  exact Char.toNat_inj

namespace Node

theorem looksAhead_ofList {nodes : List Node} (h : ∀ n ∈ nodes, n.looksAhead) :
    (ofList nodes).looksAhead := by
  induction nodes with
  | nil => rfl
  | cons n nodes ih =>
    rw [List.forall_mem_cons] at h
    cases nodes with
    | nil => exact h.1
    | cons m nodes => exact Bool.and_eq_true_iff.mpr ⟨h.1, ih h.2⟩

variable {input : Array Char}

theorem run_ofList_cons (n : Node) (nodes : List Node) (pos : Nat) (caps : Captures) (rest : Rest) :
    (ofList (n :: nodes)).run input pos caps rest =
      n.run input pos caps fun p c => (ofList nodes).run input p c rest := by
  cases nodes <;> rfl

theorem run_ofList_append (a b : List Node) (pos : Nat) (caps : Captures) (rest : Rest) :
    (ofList (a ++ b)).run input pos caps rest =
      (ofList a).run input pos caps fun p c => (ofList b).run input p c rest := by
  induction a generalizing pos caps with
  | nil => rfl
  | cons n a ih =>
    rw [List.cons_append, run_ofList_cons, run_ofList_cons]
    simp only [ih]

theorem run_letters (w : List Char) (pos : Nat) (caps : Captures) (rest : Rest) :
    (ofList (letters w)).run input pos caps rest =
      if w <+: input.toList.drop pos then rest (pos + w.length) caps else none := by
  induction w generalizing pos with
  | nil => rw [if_pos List.nil_prefix, List.length_nil, Nat.add_zero]; rfl
  | cons c w ih =>
    have hat : input[pos]? = (input.toList.drop pos).head? := by
      rw [List.head?_drop, Array.getElem?_toList]
    rw [letters, List.map_cons, run_ofList_cons, run, hat]
    cases hdrop : input.toList.drop pos with
    | nil => rw [if_neg (fun h => by cases List.prefix_nil.mp h)]; rfl
    | cons d after =>
      have hnext : input.toList.drop (pos + 1) = after := by
        rw [← List.drop_drop, hdrop, List.drop_one, List.tail_cons]
      show (if (CharTest.ofCode .exact c.toNat).holds d then
        (ofList (letters w)).run input (pos + 1) caps rest else none) = _
      rw [holds_letter, ih, hnext]
      simp only [decide_eq_true_eq, List.cons_prefix_cons, List.length_cons]
      by_cases hc : c = d
      · simp only [hc, true_and, if_true]
        rw [Nat.add_right_comm, Nat.add_assoc]
      · simp only [hc, false_and, if_false]

end Node

/-- A pattern that begins with a text, and does not look back from what comes after it, matches
this text with what the rest of the pattern matches. -/
theorem Pattern.matchesAll_letters {p q : Pattern} {w : List Char} {nodes : List Node}
    (hp : p.root = .ofList (letters w ++ nodes)) (hq : q.root = .ofList nodes)
    (hw : EndsOutsideWord w.toArray) (hnodes : ∀ n ∈ nodes, n.looksAhead) (s : List Char) :
    p.matchesAll s ↔ ∃ t, s = w ++ t ∧ q.matchesAll t := by
  unfold matchesAll
  rw [hp, hq]
  simp only [Node.run_ofList_append, Node.run_letters, List.drop_zero, Nat.zero_add]
  by_cases hprefix : w <+: s
  · rw [if_pos hprefix]
    obtain ⟨t, rfl⟩ := hprefix
    simp only [List.append_cancel_left_eq, exists_eq_left']
    have hend : RestShifts w.length
        (fun pos caps => if pos = t.toArray.size then some (pos, caps) else none)
        fun pos caps => if pos = (w ++ t).toArray.size then some (pos, caps) else none := by
      intro pos caps
      simp only [List.size_toArray, List.length_append, Nat.add_left_cancel_iff]
      split <;> rfl
    have hshifts : Shifts w.length ((Node.ofList nodes).run t.toArray)
        ((Node.ofList nodes).run (w ++ t).toArray) := by
      rw [← List.append_toArray]
      exact Node.shifts_run hw (Node.looksAhead_ofList hnodes)
    have hsome := congrArg Option.isSome (hshifts 0 [] _ _ hend)
    rw [Option.isSome_map] at hsome
    exact iff_of_eq (congrArg (· = true) hsome)
  · rw [if_neg hprefix]
    exact iff_of_false nofun fun ⟨t, ht, _⟩ => hprefix ⟨t, ht.symm⟩

end HttpContract.Regex
