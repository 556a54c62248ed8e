import HttpContract.Example
import HttpContract.Proofs.Matching.Keyed
import HttpContract.Proofs.Value.Written

/-!
Generated values are held against the rule that stands beside their generator. A provider state is
turned into a value of the kind that the example has, and values of one kind are of one type, so
that the rule finds nothing; only an integer with too many digits cannot be compared at all, because
a comparison writes down both values.
-/
namespace HttpContract

namespace Value

/-- Of truth values, numbers and texts, only long integers have no text. -/
theorem described_of_short {v : Value} (hraw : Example.kindOf v ≠ .raw) (h : v.isLongInteger = false) :
    ∃ s, v.described = .ok s := by
  refine Value.exists_described_iff.mpr ?_
  have hleaf : v.isCollection = false := by
    cases v with
    | list | tuple | map => exact absurd rfl hraw
    | _ => rfl
  rw [isWritable_leaf hleaf, h, Bool.not_false]

end Value

/-! ## Values of one kind -/

namespace Comparison

variable {expected actual : Value}

theorem sameType_of_kind (h : Example.kindOf expected = Example.kindOf actual)
    (hraw : Example.kindOf actual ≠ .raw) : sameType expected actual = true := by
  cases expected <;> cases actual <;> first | rfl | exact absurd rfl hraw | cases h

theorem type_of_kind (h : Example.kindOf expected = Example.kindOf actual)
    (hraw : Example.kindOf actual ≠ .raw) (hexpected : expected.isLongInteger = false)
    (hactual : actual.isLongInteger = false) (path : List String) :
    type path expected actual = .ok [] := by
  obtain ⟨a, ha⟩ := Value.described_of_short hraw hactual
  obtain ⟨e, he⟩ := Value.described_of_short (h ▸ hraw) hexpected
  rw [type, ha, he, sameType_of_kind h hraw]
  rfl

theorem type_of_long (hraw : Example.kindOf actual ≠ .raw)
    (h : (expected.isLongInteger || actual.isLongInteger) = true) (path : List String) :
    type path expected actual = .error .unusableValue := by
  rw [type]
  cases hactual : actual.isLongInteger with
  | true =>
    rw [Value.described_of_long hactual]
    rfl
  | false =>
    rw [hactual, Bool.or_false] at h
    obtain ⟨a, ha⟩ := Value.described_of_short hraw hactual
    rw [ha, Value.described_of_long h]
    rfl

/-- A number of the right kind satisfies its rule, if it can be written. -/
theorem number_of_kind {kind : NumberKind} (he : expected ≠ .null) (hraw : Example.kindOf actual ≠ .raw)
    (hlong : actual.isLongInteger = false) (hkind : isOfKind actual kind = .ok true) (path : List String) :
    (Rule.number kind).check path expected actual = .ok [] := by
  show number kind path expected actual = .ok []
  obtain ⟨a, ha⟩ := Value.described_of_short hraw hlong
  rw [number, ha]
  cases expected with
  | null => exact absurd rfl he
  | _ =>
    rw [hkind]
    rfl

end Comparison

/-! ## What is generated -/

theorem Example.kindOf_of_map {α : Type} {x : Result α} {f : α → Value} {kind : DataKind} {w : Value}
    (h : f <$> x = .ok w) (hf : ∀ a, kindOf (f a) = kind) : kindOf w = kind := by
  cases x with
  | error e => cases h
  | ok a =>
    cases h
    exact hf a

/-- What a provider state is turned into is of the kind that was asked for. -/
theorem DataKind.kindOf_convert {kind : DataKind} {v w : Value} (h : kind.convert v = .ok w)
    (hnull : w ≠ .null) (hraw : kind ≠ .raw) : Example.kindOf w = kind := by
  unfold convert at h
  split at h
  · cases h
    exact absurd rfl hnull
  · exact absurd rfl hraw
  · exact Example.kindOf_of_map h fun _ => rfl
  · exact Example.kindOf_of_map h fun _ => rfl
  · exact Example.kindOf_of_map h fun _ => rfl
  · exact Example.kindOf_of_map h fun _ => rfl
  · cases h
    rfl

namespace Generator

variable {d : Draws} {context : Context} {v : Value}

theorem kindOf_providerState {expression : String} {kind : DataKind} (hraw : kind ≠ .raw)
    (h : (providerState expression kind).generate d context = .ok v) (hnull : v ≠ .null) :
    Example.kindOf v = kind := by
  rw [generate] at h
  split at h
  · obtain ⟨found, -, h⟩ := exists_of_bind_ok h
    exact DataKind.kindOf_convert h hnull hraw
  · cases h
    exact absurd rfl hnull

/-- An integer left to chance lies between its bounds. -/
theorem exists_of_randomInt {min max : Int} (h : (randomInt min max).generate d context = .ok v) :
    ∃ n, v = .int n ∧ min ≤ n ∧ n ≤ max := by
  rw [generate] at h
  split at h
  · cases h
  · cases h
    have hlt := d.below_lt 0 (n := (max - min + 1).toNat) (by omega)
    exact ⟨_, rfl, by omega, by omega⟩

theorem not_isLongInteger_of_le {n : Int} (hmin : 0 ≤ n) (hmax : n ≤ greatestInt) :
    (Value.int n).isLongInteger = false := by
  have hlimit : 10 ≤ Number.digitLimit := by decide
  rw [Value.isLongInteger_int, Bool.not_eq_false']
  unfold Number.isPrintableInteger
  unfold greatestInt at hmax
  -- the limit stays a name, so that the power of ten is not written out
  generalize Number.digitLimit = limit at hlimit
  have hpower : 10 ^ 10 ≤ 10 ^ limit := Nat.pow_le_pow_right (by decide) hlimit
  have hshort : n.natAbs < 10 ^ limit := by omega
  exact decide_eq_true hshort

/-- A decimal number left to chance is written with a fraction, however many digits are asked for. -/
theorem isDecimal_drawDecimal (d : Draws) (n : Nat) :
    Comparison.isOfKind (.decimal (drawDecimal d n)) .decimal = .ok true := by
  unfold drawDecimal
  extract_lets digits point fraction
  have hsome : fraction ≠ [] := by
    show (if digits.length ≤ point then ['0'] else digits.drop point) ≠ []
    split
    · exact List.cons_ne_nil _ _
    · rw [Ne, List.drop_eq_nil_iff]
      assumption
  have hnegative : -(fraction.length : Int) < 0 := by
    have := List.length_pos_of_ne_nil hsome
    omega
  show Except.ok (decide (_ = 0) || decide (-(fraction.length : Int) < 0)) = _
  rw [decide_eq_true hnegative, Bool.or_true]

end Generator

/-! ## Examples with a generator -/

/-- The rule finds no mismatch in what the generator comes up with. Only where the example or the
value from a provider state is an integer with too many digits to be written, nothing is found
because the comparison fails. -/
def Suits (expected : Value) (rule : Rule) (generator : Generator) : Prop :=
  ∀ d context v, generator.generate d context = .ok v → v ≠ .null → ∀ path,
    if expected.isLongInteger || v.isLongInteger then
      (∃ expression, generator = .providerState expression .integer)
        ∧ rule.check path expected v = .error .unusableValue
    else rule.check path expected v = .ok []

def Regex.SamplesMatch (pattern : String) : Prop :=
  ∀ d s, sample d [] pattern = .ok s → fullMatch pattern s.toList = .ok true

section Suits

theorem suits_of_short {expected : Value} {rule : Rule} {generator : Generator}
    (he : expected.isLongInteger = false)
    (h : ∀ d context v, generator.generate d context = .ok v →
      v.isLongInteger = false ∧ ∀ path, rule.check path expected v = .ok []) :
    Suits expected rule generator := by
  intro d context v hv _ path
  obtain ⟨hshort, hcheck⟩ := h d context v hv
  rw [he, hshort]
  exact hcheck path

theorem suits_randomString (s : String) (size : Int) : Suits (.text s) .type (.randomString size) := by
  refine suits_of_short (Value.isLongInteger_text s) fun d context v hv => ?_
  cases hv
  exact ⟨Value.isLongInteger_text _, fun _ => rfl⟩

theorem suits_randomBoolean (b : Bool) : Suits (.bool b) .type .randomBoolean := by
  refine suits_of_short (Value.isLongInteger_bool b) fun d context v hv => ?_
  cases hv
  exact ⟨Value.isLongInteger_bool _, fun _ => rfl⟩

theorem suits_randomInt {kind : NumberKind} (hkind : ∀ n, Comparison.isOfKind (.int n) kind = .ok true) :
    Suits (.int 100) (.number kind) (.randomInt 0 Generator.greatestInt) := by
  refine suits_of_short (Generator.not_isLongInteger_of_le (by decide) (by decide))
    fun d context v hv => ?_
  obtain ⟨n, rfl, hmin, hmax⟩ := Generator.exists_of_randomInt hv
  have hshort := Generator.not_isLongInteger_of_le hmin hmax
  exact ⟨hshort, fun path => Comparison.number_of_kind (fun h => by cases h) (fun h => by cases h) hshort
    (hkind n) path⟩

theorem check_randomDecimal (d : Draws) (n : Nat) (path : List String) {expected : Value}
    (he : expected ≠ .null) :
    (Rule.number .decimal).check path expected (.decimal (Generator.drawDecimal d n)) = .ok [] :=
  Comparison.number_of_kind he (fun h => by cases h) (Value.isLongInteger_decimal _)
    (Generator.isDecimal_drawDecimal d n) path

theorem suits_randomDecimal (x : Number.Real64) (digits : Int) :
    Suits (.real x) (.number .decimal) (.randomDecimal digits) := by
  refine suits_of_short (Value.isLongInteger_real x) fun d context v hv => ?_
  cases hv
  exact ⟨Value.isLongInteger_decimal _,
    fun path => check_randomDecimal d digits.toNat path fun h => by cases h⟩

theorem suits_regex {pattern : String} (h : Regex.SamplesMatch pattern) (s : String) :
    Suits (.text s) (.regex pattern none) (.regex pattern) := by
  refine suits_of_short (Value.isLongInteger_text s) fun d context v hv => ?_
  rw [Generator.generate] at hv
  cases hs : Regex.sample d [] pattern with
  | error e =>
    rw [hs] at hv
    cases hv
  | ok made =>
    rw [hs] at hv
    cases hv
    exact ⟨Value.isLongInteger_text made, fun path => Comparison.regex_text_iff.mpr (h d made hs)⟩

theorem suits_providerState (expression : String) {expected : Value}
    (hraw : Example.kindOf expected ≠ .raw) :
    Suits expected .type (.providerState expression (Example.kindOf expected)) := by
  intro d context v hv hnull path
  have hkind := Generator.kindOf_providerState hraw hv hnull
  have hown : Example.kindOf v ≠ .raw := hkind ▸ hraw
  split
  · rename_i hlong
    refine ⟨⟨expression, ?_⟩, Comparison.type_of_long hown hlong path⟩
    rcases Bool.or_eq_true_iff.mp hlong with h | h
    · obtain ⟨n, rfl, -⟩ := Value.exists_of_isLongInteger h
      rfl
    · obtain ⟨n, rfl, -⟩ := Value.exists_of_isLongInteger h
      rw [← hkind]
      rfl
  · rename_i hshort
    obtain ⟨he, ha⟩ := Bool.or_eq_false_iff.mp (Bool.eq_false_iff.mpr hshort)
    exact Comparison.type_of_kind hkind.symm hown he ha path

end Suits

namespace Example

/-- The examples that come with a generator: those that nothing is given for, and values of a
provider state whose example is a truth value, a number or a text. -/
inductive Generated : Example → Prop
  | string : Generated (string .null)
  | integer : Generated (integer .null)
  | decimal : Generated (decimal .null)
  | number : Generated (number .null)
  | boolean : Generated (boolean .null)
  | regexp (examples : Regex.Maker) (pattern : String) {ex : Example}
    (h : regexp examples pattern none = .ok ex) : Generated ex
  | providerState (expression : String) (v : Value) (hkind : kindOf v ≠ .raw) :
    Generated (ofProviderState expression v)

/-- Generated values suit the rule that they are paired with. And a decimal number left to chance is
one by the rule for decimal numbers, however many digits are asked for. -/
theorem Generated.suits {ex : Example} (h : ex.Generated)
    (hsamples : ∀ pattern, ex.generator = some (.regex pattern) → Regex.SamplesMatch pattern) :
    (∃ rule generator, ex.rule = some rule ∧ ex.generator = some generator ∧
      Suits ex.value rule generator)
    ∧ ∀ digits d context, ∃ x, (Generator.randomDecimal digits).generate d context = .ok (.decimal x) ∧
      ∀ path expected, expected ≠ .null →
        (Rule.number .decimal).check path expected (.decimal x) = .ok [] := by
  refine ⟨?_, fun digits d _ => ⟨_, rfl, fun path _ he => check_randomDecimal d digits.toNat path he⟩⟩
  cases h with
  | string => exact ⟨_, _, rfl, rfl, suits_randomString "string" 20⟩
  | integer => exact ⟨_, _, rfl, rfl, suits_randomInt fun _ => rfl⟩
  | decimal => exact ⟨_, _, rfl, rfl, suits_randomDecimal (.ofInt 100) 10⟩
  | number => exact ⟨_, _, rfl, rfl, suits_randomInt fun _ => rfl⟩
  | boolean => exact ⟨_, _, rfl, rfl, suits_randomBoolean true⟩
  | regexp examples pattern h =>
    cases hs : examples [] pattern with
    | error e =>
      rw [Example.regexp, hs] at h
      cases h
    | ok shown =>
      rw [Example.regexp, hs] at h
      cases h
      exact ⟨_, _, rfl, rfl, suits_regex (hsamples pattern rfl) shown⟩
  | providerState expression v hkind => exact ⟨_, _, rfl, rfl, suits_providerState expression hkind⟩

end Example

namespace Regex

/-- A set gives the character that the draw counts. -/
theorem Sampler.run_ofTest {d : Draws} {items : List SetItem} {fold : Fold} {state : Sampling} {c : Char}
    (hc : nthNamed items (d.below state.drawn (items.foldl (fun n item => n + item.count) 0)) = some c) :
    (ofTest d ⟨false, items, fold⟩).run state = (.ok [c], { state with drawn := state.drawn + 1 }) := by
  let count := items.foldl (fun n item => n + item.count) 0
  have hdraw : StateT.run (ExceptT.run (draw d count)) state =
      (.ok (d.below state.drawn count), { state with drawn := state.drawn + 1 }) := rfl
  show StateT.run (ExceptT.run (ofTest d ⟨false, items, fold⟩)) state = _
  rw [ofTest, if_neg Bool.false_ne_true, ExceptT.run_bind, StateT.run_bind, hdraw]
  show StateT.run (ExceptT.run _) _ = _
  rw [hc]
  rfl

/-- One of two letters is drawn. -/
theorem sample_letter (d : Draws) : sample d [] "[ab]" = .ok "a" ∨ sample d [] "[ab]" = .ok "b" := by
  have hread : read "[ab]" = .ok ⟨.one ⟨false, [.code 97, .code 98], .exact⟩, 0, [], true⟩ := rfl
  have hsample {c : Char} (hc : nthNamed [.code 97, .code 98] (d.below 0 2) = some c) :
      sample d [] "[ab]" = .ok (String.ofList [c]) := by
    rw [sample, hread]
    show (Pattern.sample d [] _).1.mapError SampleFault.error >>= _ = _
    rw [Pattern.sample, Node.sample, Sampler.run_ofTest hc]
    rfl
  have hdraw : d.below 0 2 = 0 ∨ d.below 0 2 = 1 := by
    have hlt := d.below_lt 0 (n := 2) (by decide)
    omega
  exact hdraw.imp (fun h => hsample (by rw [h]; rfl)) fun h => hsample (by rw [h]; rfl)

end Regex

theorem Number.Decimal.truncate_power (n : Nat) :
    (finite false 1 n).truncate = some (10 ^ n) := by
  rw [truncate, if_neg Nat.one_ne_zero, if_pos (Int.natCast_nonneg n), Nat.one_mul]
  exact congrArg some (Int.natCast_pow 10 n)

namespace Example

/-- A pattern whose samples match, with one of its examples and the other one generated. -/
theorem suits_letter :
    let ex := sampled "[ab]" "a"
    ex.Generated ∧ Regex.SamplesMatch "[ab]"
      ∧ (Generator.regex "[ab]").generate (fun _ => 1) [] = .ok (.text "b")
      ∧ (Rule.regex "[ab]" none).check ["$"] (.text "a") (.text "b") = .ok [] := by
  intro ex
  have h : ex.Generated := .regexp (fun _ _ => .ok "a") "[ab]" rfl
  have hmatch : Regex.SamplesMatch "[ab]" := by
    intro d s hs
    rcases Regex.sample_letter d with ha | hb
    · rw [ha] at hs
      cases hs
      exact eq_ok_of_toOption (by decide +kernel)
    · rw [hb] at hs
      cases hs
      exact eq_ok_of_toOption (by decide +kernel)
  have hsamples : ∀ pattern, ex.generator = some (.regex pattern) → Regex.SamplesMatch pattern := by
    rintro _ ⟨⟩
    exact hmatch
  obtain ⟨⟨_, _, hrule, hgenerator, hsuits⟩, -⟩ := h.suits hsamples
  cases hrule
  cases hgenerator
  have hmade : (Generator.regex "[ab]").generate (fun _ => 1) [] = .ok (.text "b") := rfl
  have hchecked := hsuits (fun _ => 1) [] (.text "b") hmade (fun h => by cases h) ["$"]
  rw [show ex.value = .text "a" from rfl, Value.isLongInteger_text, Value.isLongInteger_text] at hchecked
  exact ⟨h, hmatch, hmade, hchecked⟩

/-- A provider state may have a number of 5001 digits. As an integer it cannot be compared with the
example. -/
theorem long_state_unsuitable :
    let ex := ofProviderState "n" (.int 5)
    let generator := Generator.providerState "n" .integer
    let state : Value := .record [("n", .decimal (.finite false 1 5000))]
    ex.Generated ∧ ex.rule = some .type ∧ ex.generator = some generator
      ∧ generator.generate (fun _ => 0) [(.text "providerState", state)] = .ok (.int (10 ^ 5000))
      ∧ Rule.type.check ["$"] ex.value (.int (10 ^ 5000)) = .error .unusableValue := by
  intro ex generator state
  have hpieces : Expression.pieces "n".toList = [.literal 'n'] := by decide +kernel
  have heval : Expression.eval "n" [(.text "n", .decimal (.finite false 1 5000))] =
      .ok (.decimal (.finite false 1 5000)) := by
    rw [Expression.eval, hpieces]
    rfl
  have hlong : (Value.int (10 ^ 5000)).isLongInteger = true := Value.isLongInteger_pow (by decide)
  refine ⟨.providerState "n" (.int 5) (fun h => by cases h), rfl, rfl, ?_,
    Comparison.type_of_long (fun h => by cases h) (by rw [hlong, Bool.or_true]) ["$"]⟩
  have hinteger : DataKind.toInteger (.decimal (.finite false 1 5000)) = .ok (10 ^ 5000) := by
    have htruncate : (Number.Decimal.finite false 1 5000).truncate = some (10 ^ 5000) :=
      Number.Decimal.truncate_power 5000
    show DataKind.usable (Number.Decimal.finite false 1 5000).truncate = _
    rw [htruncate]
    rfl
  show (Expression.eval "n" [(.text "n", .decimal (.finite false 1 5000))] >>=
    DataKind.integer.convert) = _
  rw [heval]
  show Value.int <$> DataKind.toInteger (.decimal (.finite false 1 5000)) = _
  rw [hinteger]
  rfl

end Example

end HttpContract
