import HttpContract.Encoding.Text

/-!
Encodings that read back what they write. UTF-8 does, character by character: the first byte of one
tells how many follow, and every following byte brings six bits.
-/
namespace HttpContract.Encoding

/-! ## The bytes of one character in UTF-8 -/

theorem toNat_byte {n : Nat} (h : n < 256) : (UInt8.ofNat n).toNat = n := by
  simp [Nat.mod_eq_of_lt h]

/-- A byte that continues a sequence without ending it. -/
theorem utf8Decode_inner {p : Utf8Pending} {x : Nat} (rest : List UInt8) (hx : x < 64)
    (hl : p.left ≠ 1) (hp : p.low ≤ x + 0x80 ∧ x + 0x80 ≤ p.high) :
    utf8Decode (some p) (UInt8.ofNat (x + 0x80) :: rest) =
      utf8Decode (some ⟨p.left - 1, 0x80, 0xbf, p.bits * 0x40 + x⟩) rest := by
  have hb : (UInt8.ofNat (x + 0x80)).toNat = x + 0x80 := toNat_byte (by omega)
  have hm : (x + 0x80) % 0x40 = x := by omega
  rw [utf8Decode, hb, if_pos hp, if_neg hl, hm]

theorem utf8Decode_last {p : Utf8Pending} {x : Nat} (rest : List UInt8) (hx : x < 64)
    (hl : p.left = 1) (hp : p.low ≤ x + 0x80 ∧ x + 0x80 ≤ p.high) :
    utf8Decode (some p) (UInt8.ofNat (x + 0x80) :: rest) =
      some (Char.ofNat (p.bits * 0x40 + x)) :: utf8Decode none rest := by
  have hb : (UInt8.ofNat (x + 0x80)).toNat = x + 0x80 := toNat_byte (by omega)
  have hm : (x + 0x80) % 0x40 = x := by omega
  rw [utf8Decode, hb, if_pos hp, if_pos hl, hm]

/-- What the first byte of a longer sequence tells. -/
theorem utf8Decode_more {b : Nat} {p : Utf8Pending} (rest : List UInt8) (hb : b < 256)
    (hp : utf8Start b = .more p) :
    utf8Decode none (UInt8.ofNat b :: rest) = utf8Decode (some p) rest := by
  rw [utf8Decode, toNat_byte hb, hp]

theorem utf8Decode_two {c : Char} (rest : List UInt8) (h : 0x7f < c.toNat) (h' : c.toNat ≤ 0x7ff) :
    utf8Decode none (UInt8.ofNat (c.toNat / 64 % 32 + 0xc0) :: UInt8.ofNat (c.toNat % 64 + 0x80)
      :: rest) = some c :: utf8Decode none rest := by
  have hs : utf8Start (c.toNat / 64 % 32 + 0xc0) = .more ⟨1, 0x80, 0xbf, c.toNat / 64⟩ := by
    rw [utf8Start, if_neg (by omega), if_pos (by omega)]
    congr 2
    omega
  have hn : c.toNat / 64 * 0x40 + c.toNat % 64 = c.toNat := by omega
  rw [utf8Decode_more _ (by omega) hs, utf8Decode_last rest (by omega) rfl (by simp; omega), hn,
    Char.ofNat_toNat]

/-- The first byte of three: after `0xe0` and `0xed` the next one is in a smaller range. -/
theorem utf8Start_three {n : Nat} (h : 0x7ff < n) (h' : n ≤ 0xffff)
    (hv : n < 0xd800 ∨ 0xdfff < n) :
    ∃ low high, utf8Start (n / 4096 % 16 + 0xe0) = .more ⟨2, low, high, n / 4096⟩
      ∧ low ≤ n / 64 % 64 + 0x80 ∧ n / 64 % 64 + 0x80 ≤ high := by
  unfold utf8Start
  rw [if_neg (by omega), if_neg (by omega)]
  by_cases h0 : n / 4096 % 16 + 0xe0 = 0xe0
  · have : n / 4096 = 0 := by omega
    rw [if_pos h0, this]
    exact ⟨_, _, rfl, by omega, by omega⟩
  by_cases hd : n / 4096 % 16 + 0xe0 = 0xed
  · have : n / 4096 = 0xd := by omega
    rw [if_neg h0, if_pos hd, this]
    exact ⟨_, _, rfl, by omega, by omega⟩
  · have : (n / 4096 % 16 + 0xe0) % 0x10 = n / 4096 := by omega
    rw [if_neg h0, if_neg hd, if_pos (by omega), this]
    exact ⟨_, _, rfl, by omega, by omega⟩

/-- The first byte of four: after `0xf0` and `0xf4` the next one is in a smaller range. -/
theorem utf8Start_four {n : Nat} (h : 0xffff < n) (h' : n < 0x110000) :
    ∃ low high, utf8Start (n / 262144 % 8 + 0xf0) = .more ⟨3, low, high, n / 262144⟩
      ∧ low ≤ n / 4096 % 64 + 0x80 ∧ n / 4096 % 64 + 0x80 ≤ high := by
  unfold utf8Start
  rw [if_neg (by omega), if_neg (by omega), if_neg (by omega), if_neg (by omega),
    if_neg (by omega)]
  by_cases h0 : n / 262144 % 8 + 0xf0 = 0xf0
  · have : n / 262144 = 0 := by omega
    rw [if_pos h0, this]
    exact ⟨_, _, rfl, by omega, by omega⟩
  by_cases h4 : n / 262144 % 8 + 0xf0 = 0xf4
  · have : n / 262144 = 4 := by omega
    rw [if_neg h0, if_neg (by omega), if_pos h4, this]
    exact ⟨_, _, rfl, by omega, by omega⟩
  · have : (n / 262144 % 8 + 0xf0) % 8 = n / 262144 := by omega
    rw [if_neg h0, if_pos (by omega), this]
    exact ⟨_, _, rfl, by omega, by omega⟩

theorem toNat_cases (c : Char) : c.toNat < 0xd800 ∨ 0xdfff < c.toNat ∧ c.toNat < 0x110000 := by
  have h : c.toNat.isValidChar := c.valid
  unfold Nat.isValidChar at h
  omega

theorem utf8Decode_utf8EncodeChar (c : Char) (rest : List UInt8) :
    utf8Decode none (String.utf8EncodeChar c ++ rest) = some c :: utf8Decode none rest := by
  have hv := toNat_cases c
  have hc : c.val.toNat = c.toNat := rfl
  unfold String.utf8EncodeChar
  simp only [hc]
  split
  · have hs : utf8Start c.toNat = .done c := by
      rw [utf8Start, if_pos (by omega), Char.ofNat_toNat]
    rw [List.singleton_append, utf8Decode, toNat_byte (by omega), hs]
  split
  · exact utf8Decode_two rest (by omega) (by omega)
  split
  · obtain ⟨low, high, hs, hl, hh⟩ := utf8Start_three (n := c.toNat) (by omega) (by omega) (by omega)
    have hn : (c.toNat / 4096 * 0x40 + c.toNat / 64 % 64) * 0x40 + c.toNat % 64 = c.toNat := by
      omega
    simp only [List.cons_append, List.nil_append]
    rw [utf8Decode_more _ (by omega) hs, utf8Decode_inner _ (by omega) (by simp) ⟨hl, hh⟩,
      utf8Decode_last rest (by omega) rfl (by simp; omega), hn, Char.ofNat_toNat]
  · obtain ⟨low, high, hs, hl, hh⟩ := utf8Start_four (n := c.toNat) (by omega) (by omega)
    have hn : ((c.toNat / 262144 * 0x40 + c.toNat / 4096 % 64) * 0x40 + c.toNat / 64 % 64) * 0x40
        + c.toNat % 64 = c.toNat := by
      omega
    simp only [List.cons_append, List.nil_append]
    rw [utf8Decode_more _ (by omega) hs, utf8Decode_inner _ (by omega) (by simp) ⟨hl, hh⟩,
      utf8Decode_inner _ (by omega) (by simp) (by simp; omega),
      utf8Decode_last rest (by omega) rfl (by simp; omega), hn, Char.ofNat_toNat]

theorem utf8Decode_utf8Encode (s : List Char) : utf8Decode none (utf8Encode s) = s.map some := by
  induction s with
  | nil => rfl
  | cons c s ih =>
    rw [utf8Encode, List.flatMap_cons, utf8Decode_utf8EncodeChar, List.map_cons]
    exact congrArg _ ih

/-! ## Whole texts -/

namespace Charset

def Inverts (e : Charset) : Prop := ∀ s bytes, e.encode s = .ok bytes → e.decode bytes = .ok s

theorem cut_of_unmarked {e : Charset} (h : ∀ c d, e.markedPiece? c d = none) (s : List Char) :
    e.cut s = s.map fun c => [c] := by
  induction s with
  | nil => rfl
  | cons c rest ih =>
    cases rest with
    | nil => rfl
    | cons d rest =>
      rw [cut, h c d, if_neg (by simp), ih]
      rfl

theorem encode_utf8 (s : List Char) : (utf8 false).encode s = .ok (utf8Encode s) := by
  have hp : (s.map fun c => [c]).mapM (utf8 false).pieceOf? =
      some (s.map fun c => (.ascii, String.utf8EncodeChar c)) := by
    induction s with
    | nil => rfl
    | cons c s ih =>
      rw [List.map_cons, List.mapM_cons, ih]
      rfl
  unfold encode
  rw [cut_of_unmarked fun _ _ => rfl]
  dsimp only
  rw [hp]
  simp only [assemble, mark, List.nil_append, List.flatMap_map, utf8Encode]

theorem decode_utf8 (s : List Char) : (utf8 false).decode (utf8Encode s) = .ok s := by
  have hs : strict (s.map some) = some s := by
    induction s with
    | nil => rfl
    | cons c s ih =>
      rw [strict] at ih ⊢
      rw [List.map_cons, List.mapM_cons, ih]
      rfl
  simp only [decode, decode?, utf8Decode_utf8Encode, hs]

theorem inverts_utf8 : (utf8 false).Inverts := by
  intro s bytes h
  rw [encode_utf8] at h
  cases h
  exact decode_utf8 s

theorem decode_nil {e : Charset} {s : List Char} (h : e.decode [] = .ok s) : s = [] := by
  have nil_of {t : List Char} (ht : e.decode [] = .ok t) : s = t := by
    rw [h] at ht
    exact Except.ok.inj ht
  cases e with
  | undefined => cases h
  | utf8 marked => cases marked <;> exact nil_of rfl
  | utf16 order => rcases order with _ | _ | _ <;> exact nil_of rfl
  | utf32 order => rcases order with _ | _ | _ <;> exact nil_of rfl
  | escaped wide => cases wide <;> exact nil_of rfl
  | utf7 => exact nil_of (by simp [decode, decode?, Utf7.decode])
  | multibyte m => exact nil_of (by simp [decode, decode?, ByteReader.readAll])
  | iso2022 v => exact nil_of (by simp [decode, decode?, Iso2022.read])
  | punycode =>
    have hp : Punycode.decode [] = .ok [] := by simp [Punycode.decode, Punycode.insertAll]
    exact nil_of (by rw [decode, hp]; rfl)
  | _ => exact nil_of rfl

end Charset

def Inverts (charset : String) : Prop := ∀ e, findText charset = .ok e → e.Inverts

theorem inverts_standard : Inverts "utf-8" := by
  intro e he
  have : findText "utf-8" = .ok (.utf8 false) := rfl
  rw [this] at he
  cases he
  exact Charset.inverts_utf8

theorem find_of_encodeText {wrap : EncodingFault → Error} {charset : String} {s : List Char}
    {bytes : List UInt8} (h : encodeText wrap charset s = .ok bytes) :
    ∃ e, findText charset = .ok e ∧ e.encode s = .ok bytes := by
  unfold encodeText at h
  split at h
  · cases h
  · cases h
  · rename_i e he
    refine ⟨e, he, ?_⟩
    split at h
    · rename_i b hb
      cases h
      exact hb
    · cases h
    · cases h

theorem decodeText_encodeText {wrap : EncodingFault → Error} {charset : String}
    (hi : Inverts charset) {s : List Char} {bytes : List UInt8}
    (h : encodeText wrap charset s = .ok bytes) : decodeText charset bytes = .ok s := by
  obtain ⟨e, he, hs⟩ := find_of_encodeText h
  unfold decodeText
  simp only [he, hi e he s bytes hs]

theorem eq_nil_of_encodeText {wrap : EncodingFault → Error} {charset : String}
    (hi : Inverts charset) {s : List Char} (h : encodeText wrap charset s = .ok []) : s = [] := by
  obtain ⟨e, he, hs⟩ := find_of_encodeText h
  exact Charset.decode_nil (hi e he s [] hs)

end HttpContract.Encoding
