import HttpContract.Matching.Comparison
import HttpContract.Proofs.Calendar.Moment
import HttpContract.Proofs.MediaType.Charset
import HttpContract.Proofs.Value.Equality

/-!
When a rule comes to a verdict. A rule that can be used compares any two values whose integers can be
written and whose numbers can be compared, but for three things: it cannot tell whether a number
without digits is a decimal number, it cannot look up a charset with a NUL in its name, and it cannot
name a bound of too many digits.
-/
namespace HttpContract

structure Value.IsComparable (v : Value) : Prop where
  writable : v.isWritable = true
  quiet : v.isQuiet = true

def Number.Decimal.isFinite : Number.Decimal → Bool
  | .finite _ _ _ => true
  | .infinite _ | .nan _ _ _ => false

namespace Comparison

open Value (IsComparable)

variable (path : List String) {e a : Value}

/-- Messages are made only where they are needed, and can be made. -/
theorem exists_verdict {c : Prop} [Decidable c] (m : Mismatch) :
    ∃ found : List Mismatch, (if c then .ok [] else .ok [m] : Outcome) = .ok found := by
  split <;> exact ⟨_, rfl⟩

theorem exists_agrees (he : e.isQuiet = true) (ha : a.isQuiet = true) :
    ∃ same, agrees e a = .ok same := by
  unfold agrees
  split
  · exact ⟨_, rfl⟩
  · exact ⟨_, rfl⟩
  · exact ⟨_, rfl⟩
  · exact ⟨_, rfl⟩
  · exact Value.exists_equal he ha

theorem exists_equality (he : e.IsComparable) (ha : a.IsComparable) :
    ∃ found, equality path e a = .ok found := by
  refine exists_bind_ok (exists_agrees he.quiet ha.quiet) fun same => ?_
  refine exists_bind_ok (Value.exists_described_iff.mpr ha.writable) fun s => ?_
  exact exists_bind_ok (Value.exists_described_iff.mpr he.writable) fun t => exists_verdict _

theorem exists_fullMatch {pattern : String} {p : Regex.Pattern} (hp : Regex.compile pattern = .ok p)
    (s : List Char) : ∃ matched, Regex.fullMatch pattern s = .ok matched :=
  exists_bind_ok ⟨p, hp⟩ fun p => ⟨p.matchesAll s, rfl⟩

theorem exists_regex {pattern : String} {p : Regex.Pattern} (hp : Regex.compile pattern = .ok p)
    (ha : a.isWritable = true) : ∃ found, regex pattern path e a = .ok found := by
  refine exists_bind_ok (Value.exists_content ha) fun text => ?_
  refine exists_bind_ok (exists_fullMatch hp text) fun matched => ?_
  exact exists_bind_ok (Value.exists_described_iff.mpr ha) fun s => exists_verdict _

theorem exists_type (he : e.isWritable = true) (ha : a.isWritable = true) :
    ∃ found, type path e a = .ok found := by
  refine exists_bind_ok (Value.exists_described_iff.mpr ha) fun s => ?_
  refine exists_bind_ok (Value.exists_described_iff.mpr he) fun t => ?_
  split
  · exact ⟨_, rfl⟩
  · split <;> exact ⟨_, rfl⟩

theorem exists_inclusion (part : String) (ha : a.isWritable = true) :
    ∃ found, inclusion part path e a = .ok found := by
  refine exists_bind_ok (Value.exists_content ha) fun text => ?_
  exact exists_bind_ok (Value.exists_described_iff.mpr ha) fun s => exists_verdict _

theorem exists_null (ha : a.isWritable = true) : ∃ found, null path a = .ok found := by
  refine exists_bind_ok (Value.exists_described_iff.mpr ha) fun s => ?_
  split <;> exact ⟨_, rfl⟩

/-- What is wrong with the text is told in a mismatch, and nothing is wrong with the format. -/
theorem exists_moment (kind : String) {format : String}
    (hformat : Calendar.IsFormat format.toList) (ha : a.isWritable = true) :
    ∃ found, moment kind format path e a = .ok found := by
  refine exists_bind_ok (Value.exists_described_iff.mpr ha) fun s => ?_
  split
  · exact ⟨_, rfl⟩
  · refine exists_bind_ok (Value.exists_content ha) fun text => ?_
    split
    · exact ⟨_, rfl⟩
    · rename_i hread
      exact ((Calendar.blamesText_read_iff text).mpr hformat _ hread).elim
    · exact ⟨_, rfl⟩

theorem exists_ignoreOrder (he : e.IsComparable) (ha : a.IsComparable) :
    ∃ found, ignoreOrder path e a = .ok found := by
  refine exists_bind_ok (Value.exists_described_iff.mpr ha.writable) fun s => ?_
  refine exists_bind_ok (Value.exists_described_iff.mpr he.writable) fun t => ?_
  split
  · exact exists_verdict _
  · exact exists_equality path he ha

/-! ## Numbers -/

/-- Whether it is a decimal number cannot be told of what has no digits. -/
def LacksDigits (kind : NumberKind) (e a : Value) : Prop :=
  kind = .decimal ∧ e ≠ .null ∧ ∃ d : Number.Decimal, a = .decimal d ∧ d.isFinite = false

theorem exists_isOfKind_iff (kind : NumberKind) (ha : a.isQuiet = true) :
    (∃ answer, isOfKind a kind = .ok answer) ↔
      ¬(kind = .decimal ∧ ∃ d : Number.Decimal, a = .decimal d ∧ d.isFinite = false) := by
  cases kind with
  | number => exact iff_of_true ⟨_, rfl⟩ (by rintro ⟨⟨⟩, -⟩)
  | integer =>
    refine iff_of_true ?_ (by rintro ⟨⟨⟩, -⟩)
    cases a with
    | decimal d =>
      have hd : d.isSignaling = false := (Bool.not_eq_true' _).mp ha
      refine ⟨d.isWhole, ?_⟩
      rw [isOfKind, isInteger, hd]
      rfl
    | _ => exact ⟨_, rfl⟩
  | decimal =>
    cases a with
    | decimal d =>
      cases d with
      | finite negative c e => exact iff_of_true ⟨_, rfl⟩ (by rintro ⟨-, _, ⟨⟩, ⟨⟩⟩)
      | _ => exact iff_of_false (by rintro ⟨_, ⟨⟩⟩) fun h => h ⟨rfl, _, rfl, rfl⟩
    | _ => exact iff_of_true ⟨_, rfl⟩ (by rintro ⟨-, _, ⟨⟩, -⟩)

theorem number_of_ne_null (kind : NumberKind) (he : e ≠ .null) :
    number kind path e a = (do
      let s ← a.described
      if ← isOfKind a kind then return []
      mismatch path e a
        ("Expected " ++ s ++ " (" ++ a.describedType ++ ") to be " ++ kindName kind)) := by
  unfold number
  cases e with
  | null => exact absurd rfl he
  | _ => rfl

/-- A number is found to be of the kind if it is, and if it can be written. -/
theorem number_nil_iff (kind : NumberKind) (he : e ≠ .null) :
    number kind path e a = .ok [] ↔ a.isWritable = true ∧ isOfKind a kind = .ok true := by
  rw [number_of_ne_null path kind he, ← Value.exists_described_iff]
  constructor
  · intro h
    obtain ⟨s, hs, h⟩ := exists_of_bind_ok h
    obtain ⟨answer, hanswer, h⟩ := exists_of_bind_ok h
    cases answer with
    | true => exact ⟨⟨s, hs⟩, hanswer⟩
    | false => cases h
  · rintro ⟨⟨s, hs⟩, hanswer⟩
    rw [hs, hanswer]
    rfl

theorem exists_number_iff (kind : NumberKind) (ha : a.IsComparable) :
    (∃ found, number kind path e a = .ok found) ↔ ¬LacksDigits kind e a := by
  obtain ⟨s, hs⟩ := Value.exists_described_iff.mpr ha.writable
  by_cases he : e = .null
  · subst he
    refine iff_of_true ?_ fun h => h.2.1 rfl
    unfold number
    rw [hs]
    cases a with
    | null => cases kind <;> exact ⟨_, rfl⟩
    | _ => exact ⟨_, rfl⟩
  · have hlacks : LacksDigits kind e a ↔
        kind = .decimal ∧ ∃ d : Number.Decimal, a = .decimal d ∧ d.isFinite = false :=
      and_congr_right fun _ => and_iff_right he
    rw [hlacks, ← exists_isOfKind_iff kind ha.quiet, number_of_ne_null path kind he, hs]
    dsimp only [bind, Except.bind]
    cases isOfKind a kind with
    | error fault => exact iff_of_false (by rintro ⟨_, ⟨⟩⟩) (by rintro ⟨_, ⟨⟩⟩)
    | ok answer => exact iff_of_true (exists_verdict _) ⟨answer, rfl⟩

/-! ## Sizes -/

def Bound.limit : Bound → Int
  | least n | greatest n => n

def Bound.BreaksUnnamed (bound : Bound) (a : Value) : Prop :=
  (Value.int bound.limit).isLongInteger = true ∧ ∃ n, a.size? = some n ∧ bound.allows n = false

theorem exists_boundText_iff (bound : Bound) :
    (∃ s, bound.text = .ok s) ↔ (Value.int bound.limit).isLongInteger = false := by
  rw [Value.isLongInteger_int, Bool.not_eq_false', ← Value.exists_integerShown_iff]
  cases bound <;> exact exists_bind_pure_iff

theorem exists_size_iff (bound : Bound) {otherwise : List String → Value → Value → Outcome}
    (hother : ∃ found, otherwise path e a = .ok found) (ha : a.isWritable = true) :
    (∃ found, size bound otherwise path e a = .ok found) ↔ ¬bound.BreaksUnnamed a := by
  obtain ⟨s, hs⟩ := Value.exists_described_iff.mpr ha
  unfold size Bound.BreaksUnnamed
  cases hn : a.size? with
  | none => exact iff_of_true hother (by rintro ⟨-, _, ⟨⟩, -⟩)
  | some n =>
    simp only [Option.some.injEq, exists_eq_left']
    cases hb : bound.allows n with
    | true => exact iff_of_true ⟨_, rfl⟩ fun h => Bool.false_ne_true h.2.symm
    | false =>
      rw [if_neg Bool.false_ne_true, hs, and_iff_left rfl, Bool.not_eq_true, ← exists_boundText_iff]
      exact exists_bind_pure_iff

theorem exists_sizedType_iff (bound : Bound) (he : e.isWritable = true) (ha : a.isWritable = true) :
    (∃ found, sizedType bound path e a = .ok found) ↔ ¬bound.BreaksUnnamed a := by
  obtain ⟨s, hs⟩ := Value.exists_described_iff.mpr ha
  rw [sizedType, hs]
  exact exists_size_iff path bound (exists_type path he ha) ha

theorem exists_sizedEquality_iff (bound : Bound) (he : e.IsComparable) (ha : a.IsComparable) :
    (∃ found, sizedEquality bound path e a = .ok found) ↔ ¬bound.BreaksUnnamed a :=
  exists_size_iff path bound (exists_equality path he ha) ha.writable

/-! ## Media types -/

theorem exists_mediaType?_iff (ha : a.isWritable = true) :
    (∃ m, mediaType? a = .ok m) ↔ ¬∃ s, a = .text s ∧ MediaType.NamesCutCharset s := by
  cases a with
  | text s =>
    simp only [Value.text.injEq, exists_eq_left', ← MediaType.ofText_unusable_iff, mediaType?]
    split
    · rename_i h
      exact iff_of_true ⟨_, rfl⟩ (by rw [h]; rintro ⟨⟩)
    · rename_i h
      exact iff_of_false (by rintro ⟨_, ⟨⟩⟩) fun hcut => hcut h
    · rename_i hne h
      exact iff_of_true ⟨_, rfl⟩ fun hcut => hne (Except.error.inj (h.symm.trans hcut))
  | null | mediaType => exact iff_of_true ⟨_, rfl⟩ (by rintro ⟨_, ⟨⟩, -⟩)
  | _ =>
    refine iff_of_true ?_ (by rintro ⟨_, ⟨⟩, -⟩)
    exact exists_bind_pure_iff.mpr (Value.exists_shown_iff.mpr ha)

theorem exists_content_iff {wanted : String} {m : MediaType} (hm : MediaType.ofText wanted = .ok m)
    (ha : a.isWritable = true) :
    (∃ found, content wanted path a = .ok found) ↔
      ¬∃ s, a = .text s ∧ MediaType.NamesCutCharset s := by
  obtain ⟨s, hs⟩ := Value.exists_plainText ha
  rw [← exists_mediaType?_iff ha, content, hm]
  dsimp only [bind, Except.bind]
  cases mediaType? a with
  | error fault => exact iff_of_false (by rintro ⟨_, ⟨⟩⟩) (by rintro ⟨_, ⟨⟩⟩)
  | ok found =>
    refine iff_of_true ?_ ⟨found, rfl⟩
    dsimp only
    rw [hs]
    split <;> exact ⟨_, rfl⟩

end Comparison

namespace Rule

/-- The parameters of the rule can be used: a pattern that something can be matched by, a media type,
and formats that dates and times are read after. -/
def IsValid : Rule → Prop
  | .regex pattern _ => ∃ p, Regex.compile pattern = .ok p
  | .mediaType text => ∃ m, MediaType.ofText text = .ok m
  | .date format | .time format | .timestamp format => Calendar.IsFormat format.toList
  | _ => True

def bounds : Rule → List Comparison.Bound
  | .minType min | .minIgnoreOrder min => [.least min]
  | .maxType max | .maxIgnoreOrder max => [.greatest max]
  | .minMaxType min max | .minMaxIgnoreOrder min max => [.least min, .greatest max]
  | _ => []

/-- What a rule that can be used does not get over: a number without digits, a charset with a NUL in
its name, and a broken bound of too many digits. -/
def Trips (rule : Rule) (expected actual : Value) : Prop :=
  (∃ kind, rule = .number kind ∧ Comparison.LacksDigits kind expected actual)
    ∨ (∃ wanted s, rule = .mediaType wanted ∧ actual = .text s ∧ MediaType.NamesCutCharset s)
    ∨ ∃ bound ∈ rule.bounds, bound.BreaksUnnamed actual

variable {rule : Rule} {expected actual : Value}

/-- A rule that can be used comes to a verdict, but for these three things. -/
theorem verdict_iff (hrule : rule.IsValid) (he : expected.IsComparable) (ha : actual.IsComparable)
    (path : List String) :
    (∃ found, rule.check path expected actual = .ok found) ↔ ¬rule.Trips expected actual := by
  unfold Trips
  cases rule with
  | number kind =>
    simpa [bounds, check] using Comparison.exists_number_iff path kind ha
  | mediaType wanted =>
    obtain ⟨m, hm⟩ := hrule
    simpa [bounds, check] using Comparison.exists_content_iff path hm ha.writable
  | minType n | maxType n =>
    simpa [bounds, check] using Comparison.exists_sizedType_iff path _ he.writable ha.writable
  | minIgnoreOrder n | maxIgnoreOrder n =>
    simpa [bounds, check] using Comparison.exists_sizedEquality_iff path _ he ha
  | minMaxType min max =>
    refine exists_both_iff.trans ?_
    rw [Comparison.exists_sizedType_iff path _ he.writable ha.writable,
      Comparison.exists_sizedType_iff path _ he.writable ha.writable]
    simp [bounds]
  | minMaxIgnoreOrder min max =>
    refine exists_both_iff.trans ?_
    rw [Comparison.exists_sizedEquality_iff path _ he ha,
      Comparison.exists_sizedEquality_iff path _ he ha]
    simp [bounds]
  | regex pattern shown =>
    obtain ⟨p, hp⟩ := hrule
    simpa [bounds, check] using Comparison.exists_regex path hp ha.writable
  | type => simpa [bounds, check] using Comparison.exists_type path he.writable ha.writable
  | «include» part => simpa [bounds, check] using Comparison.exists_inclusion path part ha.writable
  | null => simpa [bounds, check] using Comparison.exists_null path ha.writable
  | equality | unspecified => simpa [bounds, check] using Comparison.exists_equality path he ha
  | ignoreOrder => simpa [bounds, check] using Comparison.exists_ignoreOrder path he ha
  | date format | time format | timestamp format =>
    simpa [bounds, check] using Comparison.exists_moment path _ hrule ha.writable

/-- A list of a number without digits and of bytes that are no text, held against a day. -/
theorem verdict_on_list :
    let day : Rule := .date "%d"
    let items : Value := .list [.decimal (.nan false false 0), .bytes [0xff]]
    day.IsValid ∧ items.IsComparable ∧ ¬day.Trips .null items
      ∧ ∃ found, day.check ["$"] .null items = .ok found := by
  intro day items
  have hday : day.IsValid := by
    have hsource : Calendar.pattern false "%d".toList =
        .ok (Calendar.group 'd' "3[0-1]|[1-2]\\d|0[1-9]|[1-9]| [1-9]") := rfl
    obtain ⟨p, hp⟩ := exists_ok_of_isSome (x := Regex.Pattern.parse ("(?i)".toList
      ++ Calendar.group 'd' "3[0-1]|[1-2]\\d|0[1-9]|[1-9]| [1-9]")) (by decide +kernel)
    exact ⟨_, p, hsource, hp⟩
  have hnull : Value.null.IsComparable := ⟨Value.isWritable_of_shown rfl, rfl⟩
  have hitems : items.IsComparable := ⟨Value.isWritable_of_shown rfl, rfl⟩
  have htrips : ¬(Rule.date "%d").Trips .null items := by
    rintro (⟨_, ⟨⟩, -⟩ | ⟨_, _, ⟨⟩, -⟩ | ⟨_, ⟨⟩, -⟩)
  exact ⟨hday, hitems, htrips, (verdict_iff hday hnull hitems ["$"]).mpr htrips⟩

/-- A number without digits is no decimal number, and a text with a charset that cannot be looked up
is of no media type, but nothing is said of either. -/
theorem no_verdict_without_digits :
    let decimal : Rule := .number .decimal
    let shown : Value := .decimal (.finite false 15 (-1))
    let nan : Value := .decimal (.nan false false 0)
    let plain : Rule := .mediaType "text/plain"
    let cut : Value := .text "text/plain; charset=a\x00b"
    decimal.IsValid ∧ shown.IsComparable ∧ nan.IsComparable
      ∧ decimal.check ["$"] shown nan = .error .unsuitableType
      ∧ plain.IsValid ∧ cut.IsComparable ∧ plain.check ["$"] .null cut = .error .unusableValue := by
  intro decimal shown nan plain cut
  have hshown : shown.IsComparable := ⟨Value.isWritable_of_shown rfl, rfl⟩
  have hnan : nan.IsComparable := ⟨Value.isWritable_of_shown rfl, rfl⟩
  have hcut : cut.IsComparable := ⟨Value.isWritable_of_shown rfl, rfl⟩
  obtain ⟨s, hs⟩ := Value.exists_described_iff.mpr hnan.writable
  obtain ⟨m, hm⟩ : plain.IsValid := exists_ok_of_isSome (by decide +kernel)
  have hread : MediaType.ofText "text/plain; charset=a\x00b" = .error .unusableValue := by
    rw [MediaType.ofText_error_iff]
    decide +kernel
  refine ⟨trivial, hshown, hnan, ?_, ⟨m, hm⟩, hcut, ?_⟩
  · show Comparison.number .decimal ["$"] shown nan = _
    rw [Comparison.number_of_ne_null _ _ Value.noConfusion, hs]
    rfl
  · show Comparison.content "text/plain" ["$"] cut = _
    rw [Comparison.content, hm, Comparison.mediaType?, hread]
    rfl

end Rule

end HttpContract
