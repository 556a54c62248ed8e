import HttpContract.Proofs.Json.Chart

/-!
The keys under which a JSON document leaves its rules and generators: each is read back as the
place that it was noted at, exactly if all names on the way there can be written.
-/
namespace HttpContract.Json

theorem rules_mark (a : Annotations) (m : Mark) : (mark a m).rules = match m.rule with
    | some rule => RuleGroups.addRule a.rules (keyOf m.place) rule .all
    | none => a.rules := by
  obtain ⟨place, rule, generator⟩ := m
  cases rule <;> cases generator <;> rfl

theorem places_mark (a : Annotations) (m : Mark) : (mark a m).places = match m.generator with
    | some g => Keyed.put a.places (keyOf m.place) g
    | none => a.places := by
  obtain ⟨place, rule, generator⟩ := m
  cases rule <;> cases generator <;> rfl

theorem mem_keys_rules (marks : List Mark) (a : Annotations) (key : String) :
    key ∈ Keyed.keys (marks.foldl mark a).rules ↔
      key ∈ Keyed.keys a.rules ∨ ∃ m ∈ marks, m.rule ≠ none ∧ keyOf m.place = key := by
  induction marks generalizing a with
  | nil => simp
  | cons m marks ih =>
    rw [List.foldl_cons, ih, rules_mark]
    cases hr : m.rule with
    | none => simp [hr]
    | some rule => simp [RuleGroups.addRule, RuleGroups.addGroup, Keyed.mem_keys_put, hr, or_assoc, eq_comm]

theorem mem_keys_places (marks : List Mark) (a : Annotations) (key : String) :
    key ∈ Keyed.keys (marks.foldl mark a).places ↔
      key ∈ Keyed.keys a.places ∨ ∃ m ∈ marks, m.generator ≠ none ∧ keyOf m.place = key := by
  induction marks generalizing a with
  | nil => simp
  | cons m marks ih =>
    rw [List.foldl_cons, ih, places_mark]
    cases hg : m.generator with
    | none => simp [hg]
    | some g => simp [Keyed.mem_keys_put, hg, or_assoc, eq_comm]

/-- Whatever is put into a document and wherever: the keys of its rules and of its generators are
the expressions of the places at which they were noted, the paths of its nodes are those of theirs,
and an expression is read back as the root and one token for each level of its place exactly if all
of these levels can be written. In particular a field below any path that is read adds its token to
the path exactly if its name can be written. -/
theorem recorded_keys_read_back (config : Config) (root : Root) (moves : List (Nat × Step)) :
    let c := (Chart.begin config root).after moves
    let d := (Draft.begin config root).after moves
    (∀ key, key ∈ Keyed.keys d.annotations.rules ↔
      ∃ m ∈ c.marks, m.rule ≠ none ∧ keyOf m.place = key)
    ∧ (∀ key, key ∈ Keyed.keys d.annotations.places ↔
      ∃ m ∈ c.marks, m.generator ≠ none ∧ keyOf m.place = key)
    ∧ d.nodes.map Node.path = c.places.map keyOf
    ∧ (∀ place, Path.parse (keyOf place) = .ok (.root :: place.map Level.token) ↔
      ∀ l ∈ place, l.Writable)
    ∧ (∀ parent tokens name, parent ≠ "" → Path.parse parent = .ok tokens →
      (Path.parse (childPath parent name) = .ok (tokens ++ [.field name]) ↔
        (Level.field name).Writable)) := by
  intro c d
  have hd : c.draft = d := Chart.draft_after (.begin config root) moves
  have hs : c.Sound := (Chart.sound_begin config root).after moves
  refine ⟨fun key => ?_, fun key => ?_, hd ▸ hs.paths, parse_keyOf_iff,
    fun parent tokens name hne hp => parse_childPath_iff hp hne⟩
  · rw [← hd, hs.annotations, mem_keys_rules]
    exact or_iff_right List.not_mem_nil
  · rw [← hd, hs.annotations, mem_keys_places]
    exact or_iff_right List.not_mem_nil

/-- A name with a blank stands in quotes and is read back, one with a line break at its end is not. -/
theorem recorded_keys_read_back_names :
    let moves := [(0, .put "ship to" (.string (.text "x"))), (0, .put "a\n" (.string (.text "x")))]
    let d := (Draft.begin .standard .object).after moves
    childPath "$" "ship to" ∈ Keyed.keys d.annotations.rules
      ∧ childPath "$" "a\n" ∈ Keyed.keys d.annotations.rules
      ∧ Path.parse (childPath "$" "ship to") = .ok [.root, .field "ship to"]
      ∧ Path.parse (childPath "$" "a\n") ≠ .ok [.root, .field "a\n"] := by
  intro moves d
  obtain ⟨hrules, -, -, hplaces, hchild⟩ := recorded_keys_read_back .standard .object moves
  have hroot : Path.parse "$" = .ok [.root] := (hplaces []).mpr fun _ h => absurd h List.not_mem_nil
  have hread (name : String) : Path.parse (childPath "$" name) = .ok [.root, .field name] ↔
      (Level.field name).Writable := hchild "$" [.root] name (by decide) hroot
  refine ⟨(hrules _).mpr ⟨_, .head _, nofun, rfl⟩, (hrules _).mpr ⟨_, .tail _ (.head _), nofun, rfl⟩,
    (hread _).mpr ?_, fun h => ?_⟩
  · exact ⟨by decide, by decide, by decide⟩
  · exact ((hread _).mp h).2.2 ⟨by decide, by decide⟩

/-- The line break at the end of a name is written without quotes, where no path has one. -/
theorem line_break_unread :
    let d := (Draft.begin .standard .object).after [(0, .put "a\n" (.string (.text "x")))]
    Keyed.keys d.annotations.rules = ["$.a\n"]
      ∧ Path.parse "$.a\n" = .error (.path (.unexpected '\n' 3) "$.a\n")
      ∧ Path.parse "$['a\n']" = .ok [.root, .field "a\n"] := by
  refine ⟨by decide +kernel, ?_, ?_⟩
  · have hlast : Path.readTokens 3 ['\n'] = .error (some (.unexpected '\n' 3)) := by
      rw [Path.readTokens.eq_def]
      rfl
    have hfield : Path.readTokens 1 ['.', 'a', '\n'] = .error (some (.unexpected '\n' 3)) := by
      rw [Path.readTokens.eq_def]
      show (Path.readTokens 3 ['\n'] >>= fun tokens => pure (.field "a" :: tokens)) = _
      rw [hlast]
      rfl
    have hread : Path.readAll "$.a\n".toList = .error (some (.unexpected '\n' 3)) := by
      show (Path.readTokens 1 ['.', 'a', '\n'] >>= _) = _
      rw [hfield]
      rfl
    rw [Path.parse, hread]
  · have ht : Path.TokenText ("['a\n']".toList) (.field "a\n") :=
      .bracket (.quoted (List.cons_ne_nil 'a' ['\n']) (by decide))
    exact Path.parse_eq_ok_iff.mpr (.inr ⟨_, _, rfl, rfl, .cons ht .nil⟩)

end HttpContract.Json
