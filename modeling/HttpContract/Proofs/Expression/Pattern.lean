import HttpContract.Proofs.Expression.Pieces
import HttpContract.Proofs.Regex.Shifted
import HttpContract.Regex.Use

/-!
Placeholders as a regular expression finds them. Tried at one position after the other, the expression
finds the pieces that an expression is made of, and it matches the whole text exactly if that is a
single placeholder.
-/
namespace HttpContract

/-! ## A repeated character -/

namespace Regex

variable {input : Array Char}

theorem getElem?_of_drop {pos : Nat} {u : List Char} (h : input.toList.drop pos = u) (i : Nat) :
    input[pos + i]? = u[i]? := by
  rw [← h, List.getElem?_drop, Array.getElem?_toList]

/-- Without a bound, one more is tried wherever the last one has moved. -/
theorem greedy_succ (step : Matcher) (fuel count : Nat) {last : Option Nat} {pos : Nat}
    (hlast : last ≠ some pos) (caps : Captures) (rest : Rest) :
    greedy step 0 none (fuel + 1) count last pos caps rest =
      match step pos caps fun p c => greedy step 0 none fuel (count + 1) (some pos) p c rest with
      | some r => some r
      | none => rest pos caps := by
  have hmoved : (last != some pos) = true := bne_iff_ne.mpr hlast
  rw [greedy, if_neg (Nat.not_lt_zero count), mayRepeat, hmoved]
  rfl

/-- A greedy repetition of single characters takes all that there are, if nothing can go on from any
position before their end. -/
theorem greedy_one {t : CharTest} {taken after : List Char} (htaken : ∀ c ∈ taken, t.holds c = true)
    (hafter : ∀ c ∈ after.head?, t.holds c = false) {pos : Nat}
    (hpos : input.toList.drop pos = taken ++ after) {fuel : Nat} (hfuel : taken.length < fuel)
    (count : Nat) {last : Option Nat} (hlast : last ≠ some pos) (caps : Captures) (rest : Rest)
    (hrest : ∀ i < taken.length, rest (pos + i) caps = none) :
    greedy ((Node.one t).run input) 0 none fuel count last pos caps rest =
      rest (pos + taken.length) caps := by
  induction taken generalizing pos fuel count last with
  | nil =>
    obtain ⟨fuel, rfl⟩ := Nat.exists_eq_add_one.mpr (Nat.zero_lt_of_lt hfuel)
    have hat : input[pos]? = after.head? := by
      rw [List.head?_eq_getElem?]
      exact getElem?_of_drop hpos 0
    rw [greedy_succ _ _ _ hlast, Node.run, hat]
    cases hhead : after.head? with
    | none => rfl
    | some c =>
      dsimp only
      rw [hafter c hhead]
      rfl
  | cons c taken ih =>
    obtain ⟨fuel, rfl⟩ := Nat.exists_eq_add_one.mpr (Nat.zero_lt_of_lt hfuel)
    obtain ⟨hc, htaken⟩ := List.forall_mem_cons.mp htaken
    have hat : input[pos]? = some c := getElem?_of_drop hpos 0
    have hnext : input.toList.drop (pos + 1) = taken ++ after := by
      rw [← List.drop_drop, hpos]
      rfl
    have hgo : greedy ((Node.one t).run input) 0 none fuel (count + 1) (some pos) (pos + 1) caps rest =
        rest (pos + 1 + taken.length) caps := by
      refine ih htaken hnext (Nat.lt_of_succ_lt_succ hfuel) (count + 1) (by simp) fun i hi => ?_
      rw [Nat.add_right_comm, Nat.add_assoc]
      exact hrest (i + 1) (Nat.succ_lt_succ hi)
    rw [greedy_succ _ _ _ hlast, Node.run, hat]
    dsimp only
    rw [hc, if_pos rfl, hgo, List.length_cons, Nat.add_right_comm, Nat.add_assoc]
    cases rest (pos + (taken.length + 1)) caps with
    | some r => rfl
    | none => exact hrest 0 (Nat.succ_pos _)

end Regex

namespace Expression

open Regex

def placeholder : String := "\\$\\\x7b([^\x7d]*)\\\x7d"

def keyTest : CharTest := ⟨true, [.code '\x7d'.toNat], .exact⟩

def closing : Node := .one (.ofCode .exact '\x7d'.toNat)

def keyNodes : List Node := [.group 1 (.times 0 none .greedy (.one keyTest)), closing]

def placeholderRoot : Node := .ofList (letters ['$', '\x7b'] ++ keyNodes)

deriving instance DecidableEq for Regex.Node
deriving instance DecidableEq for Regex.Pattern

theorem compile_placeholder : compile placeholder = .ok ⟨placeholderRoot, 1, [], true⟩ :=
  eq_ok_of_toOption (by decide +kernel)

/-! ### A placeholder at a position -/

variable {input : Array Char} {pos : Nat}

theorem holds_keyTest (c : Char) : keyTest.holds c = decide (c ≠ '\x7d') := by
  show (decide ('\x7d'.toNat = c.toNat) != true) = _
  rw [Bool.bne_true, ← decide_not, decide_eq_decide]
  exact not_congr (Char.toNat_inj.trans eq_comm)

theorem run_closing (caps : Captures) (rest : Rest) : closing.run input pos caps rest =
    if input[pos]? = some '\x7d' then rest (pos + 1) caps else none := by
  rw [closing, Node.run]
  cases input[pos]? with
  | none => rfl
  | some c =>
    simp only [holds_letter, decide_eq_true_eq, Option.some.injEq, eq_comm (a := c)]

theorem run_keyNodes {key after : List Char} (hkey : '\x7d' ∉ key)
    (hafter : ∀ c ∈ after.head?, c = '\x7d') (hpos : input.toList.drop pos = key ++ after)
    (caps : Captures) (rest : Rest) :
    (Node.ofList keyNodes).run input pos caps rest =
      closing.run input (pos + key.length)
        ((caps.enter 1 pos).leave 1 (pos + key.length)) rest := by
  have hletter : ∀ c ∈ key, keyTest.holds c = true := fun c hc => by
    rw [holds_keyTest]
    exact decide_eq_true fun he => hkey (he ▸ hc)
  have hstop : ∀ c ∈ after.head?, keyTest.holds c = false := fun c hc => by
    rw [holds_keyTest, hafter c hc]
    rfl
  have hopen (i : Nat) (hi : i < key.length) : closing.run input (pos + i)
      ((caps.enter 1 pos).leave 1 (pos + i)) rest = none := by
    have hletter : key[i] ≠ '\x7d' := fun he => hkey (he ▸ List.getElem_mem hi)
    rw [run_closing, getElem?_of_drop hpos, List.getElem?_append_left hi, List.getElem?_eq_getElem hi,
      if_neg fun he => hletter (Option.some.inj he)]
  have hfuel : key.length < 0 + (input.size - pos) + 2 := by
    have := congrArg List.length hpos
    simp only [List.length_drop, Array.length_toList, List.length_append] at this
    omega
  have hnone : (none : Option Nat) ≠ some pos := nofun
  exact greedy_one hletter hstop hpos hfuel 0 hnone (caps.enter 1 pos)
    (fun p c => closing.run input p (c.leave 1 p) rest) hopen

/-- Where a placeholder begins, the pattern matches it, and nothing else. -/
theorem run_placeholder {key after : List Char} (hkey : '\x7d' ∉ key)
    (hpos : input.toList.drop pos = '$' :: '\x7b' :: (key ++ '\x7d' :: after)) (caps : Captures)
    (rest : Rest) : placeholderRoot.run input pos caps rest =
      rest (pos + 2 + key.length + 1)
        ((caps.enter 1 (pos + 2)).leave 1 (pos + 2 + key.length)) := by
  have hopening : ['$', '\x7b'] <+: input.toList.drop pos := hpos ▸ List.prefix_append _ _
  have hinner : input.toList.drop (pos + 2) = key ++ '\x7d' :: after := by
    rw [← List.drop_drop, hpos]
    rfl
  have hclosing : input[pos + 2 + key.length]? = some '\x7d' := by
    rw [getElem?_of_drop hinner]
    simp
  rw [placeholderRoot, Node.run_ofList_append, Node.run_letters, if_pos hopening]
  refine (run_keyNodes hkey (by simp) hinner caps rest).trans ?_
  rw [run_closing, if_pos hclosing]

/-- Where no placeholder begins, the pattern does not match. -/
theorem run_of_not_begins (h : ¬Begins (input.toList.drop pos)) (caps : Captures) (rest : Rest) :
    placeholderRoot.run input pos caps rest = none := by
  rw [placeholderRoot, Node.run_ofList_append, Node.run_letters]
  split
  · rename_i hopening
    obtain ⟨inner, hpos⟩ := hopening
    have hopen : '\x7d' ∉ inner := fun hmem => h (hpos ▸ begins_of_mem hmem)
    have hinner : input.toList.drop (pos + 2) = inner ++ [] := by
      rw [← List.drop_drop, ← hpos, List.append_nil]
      rfl
    have hend : input[pos + 2 + inner.length]? = none := by
      rw [getElem?_of_drop hinner]
      simp
    refine (run_keyNodes hopen (by simp) hinner caps rest).trans ?_
    rw [run_closing, hend, if_neg nofun]
  · rfl

/-! ### All placeholders of a text -/

def groupText (input : Array Char) (caps : Captures) : List Char :=
  match caps.get? 1 with
  | some (start, stop) => (input.toList.drop start).take (stop - start)
  | none => []

/-- What the pattern finds from a position on. It is tried at each position, and where it matches
something, the search goes on behind that. -/
def found (p : Pattern) (input : Array Char) (pos : Nat) : List Piece :=
  if h : pos < input.size then
    match p.root.run input pos [] fun stop caps => some (stop, caps) with
    | some (stop, caps) =>
      if pos < stop then .placeholder (groupText input caps) :: found p input stop
      else .literal input[pos] :: found p input (pos + 1)
    | none => .literal input[pos] :: found p input (pos + 1)
  else []
termination_by input.size - pos

theorem get?_group {start stop : Nat} (h : start ≤ stop) :
    ((Captures.enter [] 1 start).leave 1 stop).get? 1 = some (start, stop) := if_pos h

theorem groupText_key {key after : List Char} (hpos : input.toList.drop pos = key ++ after) :
    groupText input ((Captures.enter [] 1 pos).leave 1 (pos + key.length)) = key := by
  rw [groupText, get?_group (Nat.le_add_right _ _)]
  dsimp only
  rw [hpos, Nat.add_sub_cancel_left, List.take_left]

/-- What is found from a position on are the pieces of what stands there. -/
theorem found_eq_pieces {p : Pattern} (hp : p.root = placeholderRoot) (s front : List Char) :
    found p (front ++ s).toArray front.length = pieces s := by
  induction s using pieces_induction generalizing front with
  | nil =>
    rw [found, dif_neg (by simp), pieces]
  | placeholder key after hkey ih =>
    have hpos : (front ++ '$' :: '\x7b' :: (key ++ '\x7d' :: after)).toArray.toList.drop front.length
        = '$' :: '\x7b' :: (key ++ '\x7d' :: after) := List.drop_left
    have hinner : (front ++ '$' :: '\x7b' :: (key ++ '\x7d' :: after)).toArray.toList.drop
        (front.length + 2) = key ++ '\x7d' :: after := by
      rw [← List.drop_drop, hpos]
      rfl
    have hbehind : front.length + 2 + key.length + 1 =
        (front ++ (Piece.placeholder key).written).length := by
      simp only [Piece.written, List.length_append, List.length_cons, List.length_nil]
      omega
    rw [found, dif_pos (by simp), hp, run_placeholder hkey hpos]
    dsimp only
    rw [if_pos (by omega), groupText_key hinner, pieces_placeholder hkey, hbehind,
      ← ih (front ++ (Piece.placeholder key).written)]
    simp [Piece.written]
  | literal c rest hbegins ih =>
    have hpos : (front ++ c :: rest).toArray.toList.drop front.length = c :: rest := List.drop_left
    have hnone : ¬Begins ((front ++ c :: rest).toArray.toList.drop front.length) := by
      rw [hpos]
      exact hbegins
    rw [found, dif_pos (by simp), hp, run_of_not_begins hnone, pieces_literal hbegins,
      ← ih (front ++ [c])]
    simp

/-- The pattern matches a text as a whole exactly if that is a placeholder and nothing else. -/
theorem matchesAll_iff {p : Pattern} (hp : p.root = placeholderRoot) (s : List Char) :
    p.matchesAll s = true ↔ ∃ key, pieces s = [.placeholder key] := by
  have hpos : s.toArray.toList.drop 0 = s := rfl
  by_cases hbegins : Begins s
  · obtain ⟨key, after, hkey, rfl⟩ := hbegins
    have hend : 0 + 2 + key.length + 1 = ('$' :: '\x7b' :: (key ++ '\x7d' :: after)).toArray.size ↔
        after = [] := by
      simp only [List.size_toArray, List.length_cons, List.length_append, ← List.length_eq_zero_iff]
      omega
    have halone : (∃ other, Piece.placeholder key :: pieces after = [.placeholder other]) ↔
        after = [] := by
      rw [← pieces_eq_nil_iff]
      simp
    rw [Pattern.matchesAll, hp, run_placeholder hkey hpos, pieces_placeholder hkey, halone, ← hend]
    split
    · rename_i hsize
      exact iff_of_true rfl hsize
    · rename_i hsize
      exact iff_of_false Bool.false_ne_true hsize
  · have hother : ¬∃ key, pieces s = [.placeholder key] := by
      rintro ⟨key, hpieces⟩
      have hs : Decomposes s [.placeholder key] := hpieces ▸ decomposes_pieces s
      have htext := hs.text
      rw [written_placeholder] at htext
      exact hbegins ⟨key, _, hs.closed key List.mem_cons_self, htext.symm⟩
    rw [Pattern.matchesAll, hp, run_of_not_begins (hpos.symm ▸ hbegins)]
    exact iff_of_false Bool.false_ne_true hother

end Expression

end HttpContract
