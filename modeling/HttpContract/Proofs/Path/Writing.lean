import HttpContract.Proofs.Path.Reading

/-!
Path expressions written from their tokens, each token in its plainest form. What can be written is
exactly what is read back, and nothing else is ever read: an expression written from the tokens of
another one says the same.
-/
namespace HttpContract

def PathToken.written : PathToken → List Char
  | .root => ['$']
  | .field name =>
    if name.toList.all Path.isFieldChar then '.' :: name.toList
    else '[' :: '\x27' :: (name.toList ++ ['\x27', ']'])
  | .index n => '[' :: (Number.digitsOf n ++ [']'])
  | .star => ['.', '*']
  | .starIndex => ['[', '*', ']']

def PathToken.Writable : PathToken → Prop
  | .root => False
  | .field name => name ≠ "" ∧ '\x27' ∉ name.toList
  | .index n => (Number.digitsOf n).length ≤ Number.digitLimit
  | .star | .starIndex => True

namespace Path

open Text

def write (tokens : List PathToken) : String := String.ofList (tokens.flatMap PathToken.written)

/-! ## What is written is read -/

theorem tokenText_written {token : PathToken} (h : token.Writable) :
    TokenText token.written token := by
  cases token with
  | root => exact absurd h id
  | field name =>
    have hne : name.toList ≠ [] := fun he => h.1 (String.toList_eq_nil_iff.mp he)
    rw [PathToken.written]
    split
    · rename_i hc
      have ht := TokenText.named hne (List.all_eq_true.mp hc)
      rwa [String.ofList_toList] at ht
    · have ht := TokenText.bracket (.quoted hne h.2)
      rwa [String.ofList_toList] at ht
  | index n =>
    have hn : n < 10 ^ Number.digitLimit :=
      (Number.length_digitsOf_le_iff (by decide)).mp h
    exact .bracket (.index (by rw [readIndex_digitsOf, if_pos hn]))
  | star => exact .star
  | starIndex => exact .bracket .star

theorem spells_written {tokens : List PathToken} (h : ∀ token ∈ tokens, token.Writable) :
    Spells (tokens.flatMap PathToken.written) tokens := by
  induction tokens with
  | nil => exact .nil
  | cons token tokens ih =>
    obtain ⟨ht, hrest⟩ := List.forall_mem_cons.mp h
    rw [List.flatMap_cons]
    exact .cons (tokenText_written ht) (ih hrest)

/-! ## What is read can be written -/

/-- An index has no more digits than it was read from. -/
theorem length_digitsOf_of_readIndex {digits : List Char} {n : Nat}
    (h : readIndex digits = .ok n) : (Number.digitsOf n).length ≤ Number.digitLimit := by
  obtain ⟨hne, hd⟩ := digits_of_readIndex h
  have htest : (digits.isEmpty || !digits.all isDigit) = false := by
    simpa [List.isEmpty_iff] using ⟨hne, hd⟩
  rw [readIndex, if_neg (by simp [htest]), Number.readInteger_of_isDigit hne hd] at h
  split at h
  · rename_i i hi
    split at hi
    · rename_i hs
      cases hi
      cases h
      have hplain : ∀ c ∈ digits.map Number.plainDigit, isAsciiDigit c = true := by
        intro c hc
        obtain ⟨d, hm, rfl⟩ := List.mem_map.mp hc
        rw [Number.isAsciiDigit_plainDigit (hd d hm)]
        exact List.all_eq_true.mp hs.1 d hm
      have hlt := Number.ofDigits_lt hplain
      rw [List.length_map] at hlt
      rw [Int.toNat_natCast, Number.length_digitsOf_le_iff (by decide)]
      exact Nat.lt_of_lt_of_le hlt (Nat.pow_le_pow_right (by decide) hs.2)
    · cases hi
  · cases h

theorem BracketText.writable {text : List Char} {token : PathToken} (h : BracketText text token) :
    token.Writable := by
  cases h with
  | star => trivial
  | quoted hne hq =>
    refine ⟨fun he => hne (String.ofList_eq_empty_iff.mp he), ?_⟩
    rwa [String.toList_ofList]
  | index hr => exact length_digitsOf_of_readIndex hr

theorem TokenText.writable {text : List Char} {token : PathToken} (h : TokenText text token) :
    token.Writable := by
  cases h with
  | star => trivial
  | named hne hc =>
    refine ⟨fun he => hne (String.ofList_eq_empty_iff.mp he), fun hq => ?_⟩
    rw [String.toList_ofList] at hq
    cases hc _ hq
  | quoted hb => exact hb.writable
  | bracket hb => exact hb.writable

theorem Spells.writable {s : List Char} {tokens : List PathToken} (h : Spells s tokens) :
    ∀ token ∈ tokens, token.Writable := by
  induction h with
  | nil => exact fun _ ht => absurd ht List.not_mem_nil
  | cons h _ ih => exact List.forall_mem_cons.mpr ⟨h.writable, ih⟩

/-! ## There and back -/

theorem parse_write_iff (tokens : List PathToken) :
    parse (write (.root :: tokens)) = .ok (.root :: tokens) ↔
      ∀ token ∈ tokens, token.Writable := by
  have hw : (write (.root :: tokens)).toList = '$' :: tokens.flatMap PathToken.written :=
    String.toList_ofList
  rw [parse_eq_ok_iff]
  constructor
  · rintro (⟨-, h⟩ | ⟨s, rest, -, hr, hs⟩)
    · cases h
    · cases hr
      exact hs.writable
  · exact fun h => .inr ⟨_, tokens, hw, rfl, spells_written h⟩

/-- Tokens behind the root are read back from the expression that is written from them exactly if
each of them can be written. The tokens of every expression that is read are of that kind, so that
writing them and reading again changes nothing. -/
theorem write_reads_back :
    (∀ tokens : List PathToken, parse (write (.root :: tokens)) = .ok (.root :: tokens) ↔
      ∀ token ∈ tokens, token.Writable)
    ∧ ∀ expression tokens, parse expression = .ok tokens → parse (write tokens) = .ok tokens := by
  refine ⟨parse_write_iff, fun expression tokens h => ?_⟩
  obtain ⟨-, rfl⟩ | ⟨s, rest, -, rfl, hs⟩ := parse_eq_ok_iff.mp h
  · rfl
  · exact (parse_write_iff rest).mpr hs.writable

/-- Needless quotes, leading zeros and digits of another script are not written again. -/
theorem write_reads_back_plain :
    parse "$.['a']['b c'][0٣].*[*]" =
      .ok [.root, .field "a", .field "b c", .index 3, .star, .starIndex]
    ∧ write [.root, .field "a", .field "b c", .index 3, .star, .starIndex] = "$.a['b c'][3].*[*]"
    ∧ parse "$.a['b c'][3].*[*]" =
      .ok [.root, .field "a", .field "b c", .index 3, .star, .starIndex] := by
  have hread : parse "$.['a']['b c'][0٣].*[*]" =
      .ok [.root, .field "a", .field "b c", .index 3, .star, .starIndex] :=
    eq_ok_of_toOption (by decide +kernel)
  have hwrite : write [.root, .field "a", .field "b c", .index 3, .star, .starIndex] =
      "$.a['b c'][3].*[*]" := by decide +kernel
  exact ⟨hread, hwrite, hwrite ▸ write_reads_back.2 _ _ hread⟩

end Path

end HttpContract
