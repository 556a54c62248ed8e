import HttpContract.Proofs.Expression.Pattern
import HttpContract.Proofs.Value.Written

/-!
What an expression comes to. It is taken apart once; every piece stands for something by itself, and the
pieces are put together, so that nothing that comes from a value is read as an expression. It fails
where a key is missing, and then it names the first one.
-/
namespace HttpContract

def Error.missingKey? : Error → Option String
  | .undefinedState key | .undefinedPlaceholder key _ => some key
  | _ => none

namespace Expression

def isMissing (values : Values) (key : List Char) : Bool :=
  (Value.lookup values (String.ofList key)).isNone

def sought (expression : String) : List (List Char) :=
  match keys (pieces expression.toList) with
  | [] => [expression.toList]
  | ks => ks

def firstMissing? (expression : String) (values : Values) : Option String :=
  ((sought expression).find? (isMissing values)).map String.ofList

def Piece.content (expression : String) (values : Values) : Piece → Result (List Char)
  | literal c => .ok [c]
  | placeholder key => do (← find expression values key).plain

variable {expression : String} {values : Values} {key : List Char} {ks : List (List Char)}
  {ps : List Piece}

/-! ## Keys -/

theorem find_of_isMissing (h : isMissing values key = true) :
    find expression values key = .error (.undefinedPlaceholder (String.ofList key) expression) := by
  rw [find, Option.isNone_iff_eq_none.mp h]

theorem exists_of_not_isMissing (expression : String) (h : isMissing values key = false) :
    ∃ v, Value.lookup values (String.ofList key) = some v ∧ find expression values key = .ok v := by
  obtain ⟨v, hv⟩ := Option.isSome_iff_exists.mp (Option.isNone_eq_false_iff.mp h)
  exact ⟨v, hv, by rw [find, hv]⟩

theorem mapM_find_of_missing (h : ks.find? (isMissing values) = some key) :
    ks.mapM (find expression values) =
      .error (.undefinedPlaceholder (String.ofList key) expression) := by
  induction ks with
  | nil => cases h
  | cons k ks ih =>
    rw [List.mapM_cons]
    cases hk : isMissing values k with
    | true =>
      rw [List.find?_cons_of_pos hk] at h
      cases h
      rw [find_of_isMissing hk]
      rfl
    | false =>
      rw [List.find?_cons_of_neg (by rw [hk]; exact Bool.false_ne_true)] at h
      obtain ⟨v, -, hv⟩ := exists_of_not_isMissing expression hk
      rw [hv, ih h]
      rfl

theorem exists_mapM_find (expression : String) (h : ks.find? (isMissing values) = none) :
    ∃ found, ks.mapM (find expression values) = .ok found := by
  refine exists_mapM_ok_iff.mpr fun key hkey => ?_
  have hthere := Bool.eq_false_iff.mpr (List.find?_eq_none.mp h key hkey)
  obtain ⟨v, -, hv⟩ := exists_of_not_isMissing expression hthere
  exact ⟨v, hv⟩

/-! ## The text -/

theorem expand_eq : expand expression values ps =
    (ps.mapM (Piece.content expression values)).map List.flatten := by
  induction ps with
  | nil => rfl
  | cons p ps ih =>
    rw [List.mapM_cons]
    cases p with
    | literal c =>
      rw [expand, ih]
      cases ps.mapM (Piece.content expression values) <;> rfl
    | placeholder key =>
      rw [expand, ih, Piece.content]
      cases find expression values key with
      | error fault => rfl
      | ok v =>
        dsimp only [bind, Except.bind]
        cases v.plain with
        | error fault => rfl
        | ok s => cases ps.mapM (Piece.content expression values) <;> rfl

theorem failsOnly_content {p : Piece} (h : ∀ key, p = .placeholder key → isMissing values key = false) :
    FailsOnly (· = .unusableValue) (p.content expression values) := by
  cases p with
  | literal c => exact .ok [c]
  | placeholder key =>
    obtain ⟨v, -, hv⟩ := exists_of_not_isMissing expression (h key rfl)
    rw [Piece.content, hv]
    exact Value.failsOnly_plain v

/-! ## The three kinds of expressions -/

theorem mem_keys_iff : key ∈ keys ps ↔ .placeholder key ∈ ps := by
  rw [keys, List.mem_filterMap]
  constructor
  · rintro ⟨p, hp, hkey⟩
    cases p with
    | literal c => cases hkey
    | placeholder other =>
      cases hkey
      exact hp
  · exact fun h => ⟨_, h, rfl⟩

/-- An expression without placeholders is a key itself. -/
theorem eval_of_bare (h : keys (pieces expression.toList) = []) :
    eval expression values = match Value.lookup values expression with
      | some v => .ok v
      | none => .error (.undefinedState expression) := by
  unfold eval
  split
  · rename_i key hlone
    rw [hlone] at h
    cases h
  · rw [h]
    rfl

theorem eval_of_lone (h : pieces expression.toList = [.placeholder key]) :
    eval expression values = find expression values key := by
  rw [eval, h]

theorem eval_of_mixed (hkeys : keys (pieces expression.toList) ≠ [])
    (hlone : ∀ key, pieces expression.toList ≠ [.placeholder key]) :
    eval expression values = do
      let _ ← (keys (pieces expression.toList)).mapM (find expression values)
      let texts ← (pieces expression.toList).mapM (Piece.content expression values)
      return .text (String.ofList texts.flatten) := by
  have hsome : ¬(keys (pieces expression.toList)).isEmpty = true := by
    rw [List.isEmpty_iff]
    exact hkeys
  unfold eval
  split
  · rename_i key h
    exact absurd h (hlone key)
  · rw [if_neg hsome, expand_eq]
    cases (pieces expression.toList).mapM (Piece.content expression values) <;> rfl

theorem sought_of_bare (h : keys (pieces expression.toList) = []) :
    sought expression = [expression.toList] := by
  rw [sought, h]

theorem sought_of_ne (h : keys (pieces expression.toList) ≠ []) :
    sought expression = keys (pieces expression.toList) := by
  unfold sought
  split
  · contradiction
  · rfl

theorem keys_of_lone (h : pieces expression.toList = [.placeholder key]) :
    keys (pieces expression.toList) = [key] := by
  rw [h]
  rfl

/-! ## Missing keys -/

theorem eval_of_missing {name : String} (h : firstMissing? expression values = some name) :
    ∃ fault, eval expression values = .error fault ∧ fault.missingKey? = some name := by
  obtain ⟨key, hkey, rfl⟩ := Option.map_eq_some_iff.mp h
  have hmissing : isMissing values key = true := List.find?_some hkey
  by_cases hkeys : keys (pieces expression.toList) = []
  · rw [sought_of_bare hkeys] at hkey
    obtain rfl := List.mem_singleton.mp (List.mem_of_find?_eq_some hkey)
    rw [isMissing, String.ofList_toList, Option.isNone_iff_eq_none] at hmissing
    rw [eval_of_bare hkeys, hmissing, String.ofList_toList]
    exact ⟨_, rfl, rfl⟩
  · rw [sought_of_ne hkeys] at hkey
    refine ⟨.undefinedPlaceholder (String.ofList key) expression, ?_, rfl⟩
    by_cases hlone : ∃ other, pieces expression.toList = [.placeholder other]
    · obtain ⟨other, hlone⟩ := hlone
      rw [keys_of_lone hlone] at hkey
      obtain rfl := List.mem_singleton.mp (List.mem_of_find?_eq_some hkey)
      rw [eval_of_lone hlone, find_of_isMissing hmissing]
    · rw [eval_of_mixed hkeys fun other h => hlone ⟨other, h⟩, mapM_find_of_missing hkey]
      rfl

theorem not_isMissing_of_sought (h : firstMissing? expression values = none)
    (hkey : key ∈ sought expression) : isMissing values key = false :=
  Bool.eq_false_iff.mpr (List.find?_eq_none.mp (Option.map_eq_none_iff.mp h) key hkey)

section Found

variable (h : firstMissing? expression values = none)

include h

theorem exists_eval_of_bare (hkeys : keys (pieces expression.toList) = []) :
    ∃ v, Value.lookup values expression = some v ∧ eval expression values = .ok v := by
  have hthere := not_isMissing_of_sought h (sought_of_bare hkeys ▸ List.mem_cons_self)
  obtain ⟨v, hv, -⟩ := exists_of_not_isMissing expression hthere
  rw [String.ofList_toList] at hv
  exact ⟨v, hv, by rw [eval_of_bare hkeys, hv]⟩

theorem exists_eval_of_lone (hlone : pieces expression.toList = [.placeholder key]) :
    ∃ v, Value.lookup values (String.ofList key) = some v ∧ eval expression values = .ok v := by
  have hkeys := keys_of_lone hlone
  have hsought : key ∈ sought expression := by
    rw [sought_of_ne (by rw [hkeys]; exact List.cons_ne_nil _ _), hkeys]
    exact List.mem_cons_self
  obtain ⟨v, hv, hfind⟩ := exists_of_not_isMissing expression (not_isMissing_of_sought h hsought)
  exact ⟨v, hv, by rw [eval_of_lone hlone, hfind]⟩

theorem eval_of_found (hkeys : keys (pieces expression.toList) ≠ [])
    (hlone : ∀ key, pieces expression.toList ≠ [.placeholder key]) :
    eval expression values =
      ((pieces expression.toList).mapM (Piece.content expression values)).map fun texts =>
        .text (String.ofList texts.flatten) := by
  have hnone : (keys (pieces expression.toList)).find? (isMissing values) = none :=
    sought_of_ne hkeys ▸ Option.map_eq_none_iff.mp h
  obtain ⟨found, hfound⟩ := exists_mapM_find expression hnone
  rw [eval_of_mixed hkeys hlone, hfound]
  cases (pieces expression.toList).mapM (Piece.content expression values) <;> rfl

/-- Where no key is missing, no error says that one is. -/
theorem failsOnly_eval : FailsOnly (fun fault => fault.missingKey? = none) (eval expression values) := by
  by_cases hkeys : keys (pieces expression.toList) = []
  · obtain ⟨v, -, hv⟩ := exists_eval_of_bare h hkeys
    exact hv ▸ .ok v
  by_cases hlone : ∃ key, pieces expression.toList = [.placeholder key]
  · obtain ⟨key, hlone⟩ := hlone
    obtain ⟨v, -, hv⟩ := exists_eval_of_lone h hlone
    exact hv ▸ .ok v
  · rw [eval_of_found h hkeys fun key he => hlone ⟨key, he⟩]
    refine FailsOnly.map (FailsOnly.mapM fun p hp => ?_)
    have hcontent : FailsOnly (· = .unusableValue) (p.content expression values) := by
      refine failsOnly_content fun key he => not_isMissing_of_sought h ?_
      rw [sought_of_ne hkeys, mem_keys_iff]
      exact he ▸ hp
    intro fault hfault
    rw [hcontent fault hfault]
    rfl

end Found

theorem missing_iff {name : String} :
    (∃ fault, eval expression values = .error fault ∧ fault.missingKey? = some name) ↔
      firstMissing? expression values = some name := by
  refine ⟨?_, eval_of_missing⟩
  rintro ⟨fault, hfault, hname⟩
  cases h : firstMissing? expression values with
  | none => cases (failsOnly_eval h fault hfault).symm.trans hname
  | some first =>
    obtain ⟨other, hother, hfirst⟩ := eval_of_missing h
    cases hfault.symm.trans hother
    exact hfirst.symm.trans hname

/-! ## All expressions -/

theorem fullMatch_placeholder_iff (s : List Char) :
    Regex.fullMatch placeholder s = .ok true ↔ ∃ key, pieces s = [.placeholder key] := by
  rw [Regex.fullMatch, compile_placeholder]
  exact (Iff.of_eq (Except.ok.injEq _ _)).trans (matchesAll_iff rfl s)

/-- There is one way to take an expression apart, and the pattern of a placeholder finds it, whether it
is tried at each position or held against the whole text. If a key is missing, the error names the
first one, and no such error comes up otherwise. An expression without placeholders is a key, one
placeholder by itself stands for its value as it is, and any other expression for the text that its
pieces make up, with the text of its value in the place of each placeholder. -/
theorem eval_follows_pieces (expression : String) (values : Values) :
    let s := expression.toList
    let ps := pieces s
    (∀ qs, Decomposes s qs ↔ qs = ps)
    ∧ (∃ p, Regex.compile placeholder = .ok p ∧ found p s.toArray 0 = ps)
    ∧ (Regex.fullMatch placeholder s = .ok true ↔ ∃ key, ps = [.placeholder key])
    ∧ (∀ name, (∃ fault, eval expression values = .error fault ∧ fault.missingKey? = some name) ↔
      firstMissing? expression values = some name)
    ∧ (firstMissing? expression values = none →
      (keys ps = [] →
        ∃ v, Value.lookup values expression = some v ∧ eval expression values = .ok v)
      ∧ (∀ key, ps = [.placeholder key] →
        ∃ v, Value.lookup values (String.ofList key) = some v ∧ eval expression values = .ok v)
      ∧ (keys ps ≠ [] → (∀ key, ps ≠ [.placeholder key]) → eval expression values =
        (ps.mapM (Piece.content expression values)).map fun texts =>
          .text (String.ofList texts.flatten))) := by
  intro s ps
  refine ⟨fun qs => decomposes_iff, ⟨_, compile_placeholder, found_eq_pieces rfl s []⟩,
    fullMatch_placeholder_iff s, fun name => missing_iff, fun h => ⟨?_, ?_, ?_⟩⟩
  · exact exists_eval_of_bare h
  · exact fun key => exists_eval_of_lone h
  · exact eval_of_found h

/-- What looks like a placeholder in a value is left alone. -/
theorem eval_follows_pieces_once :
    let expression := "/$\x7bid\x7d"
    let values : Values := [(.text "id", .text "$\x7bother\x7d")]
    firstMissing? expression values = none
      ∧ pieces expression.toList = [.literal '/', .placeholder ['i', 'd']]
      ∧ eval expression values = .ok (.text "/$\x7bother\x7d") := by
  intro expression values
  have hpieces : pieces expression.toList = [.literal '/', .placeholder ['i', 'd']] := by
    decide +kernel
  have hfound : firstMissing? expression values = none := by decide +kernel
  obtain ⟨-, -, -, -, h⟩ := eval_follows_pieces expression values
  refine ⟨hfound, hpieces, ((h hfound).2.2 ?_ ?_).trans ?_⟩
  · rw [hpieces]
    exact List.cons_ne_nil _ _
  · rw [hpieces]
    exact fun key => nofun
  · rw [hpieces]
    rfl

end Expression

end HttpContract
