import HttpContract.Proofs.Encoding.Plain

/-!
Encodings in which a character has the same bytes wherever it stands, and these bytes are read as
the character wherever they stand: UTF-16, UTF-32, and the code pages.
-/
namespace HttpContract.Encoding

/-! ## Units of 16 bits -/

theorem units16_unit16 {order : ByteOrder} {n : Nat} (h : n < 0x10000) (rest : List UInt8) :
    units16 order (unit16 order n ++ rest) = some n :: units16 order rest := by
  have hlow : (UInt8.ofNat n).toNat = n % 0x100 := UInt8.toNat_ofNat'
  have hhigh : (UInt8.ofNat (n / 0x100)).toNat = n / 0x100 := toNat_byte (by omega)
  cases order with
  | little =>
    show some ((UInt8.ofNat n).toNat + 0x100 * (UInt8.ofNat (n / 0x100)).toNat) :: _ = _
    rw [hlow, hhigh, Nat.mod_add_div]
    rfl
  | big =>
    show some (0x100 * (UInt8.ofNat (n / 0x100)).toNat + (UInt8.ofNat n).toNat) :: _ = _
    rw [hlow, hhigh, Nat.div_add_mod]
    rfl

/-- A unit that is no half of a character is read by itself. -/
theorem utf16DecodeUnits_single {n : Nat} (h : n < 0xd800 ∨ 0xdfff < n)
    (rest : List (Option Nat)) :
    utf16DecodeUnits (some n :: rest) = some (Char.ofNat n) :: utf16DecodeUnits rest := by
  have hh : isHighSurrogate n = false := by
    simp only [isHighSurrogate, Bool.and_eq_false_iff, decide_eq_false_iff_not]
    omega
  have hl : isLowSurrogate n = false := by
    simp only [isLowSurrogate, Bool.and_eq_false_iff, decide_eq_false_iff_not]
    omega
  rcases rest with _ | ⟨_ | l, rest⟩ <;> simp [utf16DecodeUnits, hh, hl]

theorem utf16DecodeUnits_pair {h l : Nat} (hh : isHighSurrogate h = true)
    (hl : isLowSurrogate l = true) (rest : List (Option Nat)) :
    utf16DecodeUnits (some h :: some l :: rest) =
      some (Char.ofNat (0x10000 + (h - 0xd800) * 0x400 + (l - 0xdc00)))
        :: utf16DecodeUnits rest := by
  rw [utf16DecodeUnits, hh, hl]
  rfl

theorem utf16Decode_encodeChar (order : ByteOrder) (c : Char) (rest : List UInt8) :
    utf16Decode order (utf16EncodeChar order c ++ rest) = some c :: utf16Decode order rest := by
  have hv := toNat_cases c
  unfold utf16EncodeChar utf16Decode
  dsimp only
  split
  · rw [units16_unit16 (by omega), utf16DecodeUnits_single (by omega), Char.ofNat_toNat]
  · have hh : isHighSurrogate (0xd800 + (c.toNat - 0x10000) / 0x400) = true := by
      simp only [isHighSurrogate, Bool.and_eq_true, decide_eq_true_eq]
      omega
    have hl : isLowSurrogate (0xdc00 + (c.toNat - 0x10000) % 0x400) = true := by
      simp only [isLowSurrogate, Bool.and_eq_true, decide_eq_true_eq]
      omega
    have hn : 0x10000 + (0xd800 + (c.toNat - 0x10000) / 0x400 - 0xd800) * 0x400
        + (0xdc00 + (c.toNat - 0x10000) % 0x400 - 0xdc00) = c.toNat := by
      omega
    rw [List.append_assoc, units16_unit16 (by omega), units16_unit16 (by omega),
      utf16DecodeUnits_pair hh hl, hn, Char.ofNat_toNat]

theorem utf32Decode_encodeChar (order : ByteOrder) (c : Char) (rest : List UInt8) :
    utf32Decode order (utf32EncodeChar order c ++ rest) = some c :: utf32Decode order rest := by
  have hv := toNat_cases c
  have hn : c.toNat % 0x10000 + 0x10000 * (c.toNat / 0x10000) = c.toNat := Nat.mod_add_div ..
  have hvalid : c.toNat.isValidChar := c.valid
  unfold utf32EncodeChar utf32Decode
  cases order with
  | little =>
    dsimp only
    rw [List.append_assoc, units16_unit16 (by omega), units16_unit16 (by omega), utf32DecodeUnits,
      hn, if_pos hvalid, Char.ofNat_toNat]
  | big =>
    dsimp only
    rw [List.append_assoc, units16_unit16 (by omega), units16_unit16 (by omega), swapPairs,
      utf32DecodeUnits, hn, if_pos hvalid, Char.ofNat_toNat]

namespace Charset

variable {e : Charset}

/-- A character has bytes of its own, which are read as it wherever they stand. -/
structure Uniform (e : Charset) : Prop where
  unmarked : ∀ c d, e.markedPiece? c d = none
  assembled : ∀ pieces, e.assemble pieces = e.mark ++ pieces.flatMap Prod.snd
  reads : ∀ c piece, e.piece? c = some piece → e.Reads piece.2 [c]
  empty : e.decode e.mark = .ok []
  utf7 : e ≠ utf7
  punycode : e ≠ punycode

theorem uniform_utf16 (order : Option ByteOrder) : (utf16 order).Uniform where
  unmarked _ _ := rfl
  assembled _ := rfl
  reads c piece h := by
    cases h
    refine reads_of_decode? (fun _ => rfl) fun rest => ?_
    have hdecode (bytes : List UInt8) : (utf16 order).decode? ((utf16 order).mark ++ bytes) =
        strict (utf16Decode (order.getD .little) bytes) := by
      cases order <;> rfl
    rw [hdecode, hdecode, utf16Decode_encodeChar, strict_cons]
    rfl
  empty := by rcases order with _ | _ | _ <;> rfl
  utf7 := nofun
  punycode := nofun

theorem uniform_utf32 (order : Option ByteOrder) : (utf32 order).Uniform where
  unmarked _ _ := rfl
  assembled _ := rfl
  reads c piece h := by
    cases h
    refine reads_of_decode? (fun _ => rfl) fun rest => ?_
    have hdecode (bytes : List UInt8) : (utf32 order).decode? ((utf32 order).mark ++ bytes) =
        strict (utf32Decode (order.getD .little) bytes) := by
      cases order <;> rfl
    rw [hdecode, hdecode, utf32Decode_encodeChar, strict_cons]
    rfl
  empty := by rcases order with _ | _ | _ <;> rfl
  utf7 := nofun
  punycode := nofun

theorem of_byteOf_codePage {page : List Char} (hpage : page.length ≤ 0x100) {c : Char} {b : UInt8}
    (h : (codePage page).byteOf c = some b) : page[b.toNat]? = some c ∧ c ≠ '\ufffe' := by
  rw [byteOf] at h
  split at h
  · cases h
  · rename_i hc
    obtain ⟨i, hi, rfl⟩ := Option.map_eq_some_iff.mp h
    refine ⟨?_, hc⟩
    obtain ⟨hlt, heq, -⟩ := List.findIdx?_eq_some_iff_getElem.mp hi
    rw [List.length_reverse] at hlt
    rw [toNat_byte (by omega), List.getElem?_eq_getElem (by omega), ← eq_of_beq heq,
      List.getElem_reverse]

theorem uniform_codePage {page : List Char} (hpage : page.length ≤ 0x100) :
    (codePage page).Uniform where
  unmarked _ _ := rfl
  assembled _ := rfl
  reads c piece h := by
    obtain ⟨b, hb, rfl⟩ := Option.map_eq_some_iff.mp h
    obtain ⟨hc, hne⟩ := of_byteOf_codePage hpage hb
    refine reads_of_decode? (fun _ => rfl) fun rest => ?_
    exact mapM_cons_of_some (by rw [hc]; simp [hne]) rest
  empty := rfl
  utf7 := nofun
  punycode := nofun

def bytesOf (e : Charset) (s : List Char) : List UInt8 :=
  s.flatMap fun c => ((e.piece? c).map Prod.snd).getD []

namespace Uniform

theorem reads_bytesOf (h : e.Uniform) {s : List Char} (hs : ∀ c ∈ s, (e.piece? c).isSome = true) :
    e.Reads (e.bytesOf s) s := by
  refine .flatMap fun c hc => ?_
  obtain ⟨piece, hp⟩ := Option.isSome_iff_exists.mp (hs c hc)
  rw [hp]
  exact h.reads c piece hp

theorem exists_reads_pieces (h : e.Uniform) {pieces : List SetPiece}
    (hp : ∀ piece ∈ pieces, ∃ c, e.piece? c = some piece) :
    ∃ text, e.Reads (pieces.flatMap Prod.snd) text := by
  induction pieces with
  | nil => exact ⟨[], .nil e⟩
  | cons piece pieces ih =>
    obtain ⟨⟨c, hc⟩, hrest⟩ := List.forall_mem_cons.mp hp
    obtain ⟨text, htext⟩ := ih hrest
    exact ⟨c :: text, (h.reads c piece hc).append htext⟩

theorem exists_piece_of_mem_cutPieces {substitute : Char → List Char} {c : Char} {piece : SetPiece}
    (h : piece ∈ e.cutPieces substitute [c]) : ∃ d, e.piece? d = some piece := by
  unfold cutPieces at h
  split at h
  · rename_i own hown
    exact ⟨c, List.mem_singleton.mp h ▸ hown⟩
  · obtain ⟨d, -, hd⟩ := List.mem_filterMap.mp h
    exact ⟨d, hd⟩

/-- A document begins with the bytes of its first characters, and can be read to its end: what is
written in the place of a character is read as a text, too. -/
theorem exists_encodeParts (h : e.Uniform) {s : List Char}
    (hs : ∀ c ∈ s, (e.piece? c).isSome = true) (substitute : Char → List Char) (t : List Char)
    (parts : List (List Char)) :
    ∃ rest, e.encodeParts substitute ((s ++ t) :: parts) = e.mark ++ (e.bytesOf s ++ rest)
      ∧ ∃ text, e.Reads rest text := by
  have hcut (u : List Char) : e.cut u = u.map fun c => [c] := cut_of_unmarked h.unmarked u
  have hown : ((s.map fun c => [c]).flatMap (e.cutPieces substitute)).flatMap Prod.snd =
      e.bytesOf s := by
    rw [List.flatMap_map, List.flatMap_assoc, bytesOf, List.flatMap_def, List.flatMap_def]
    refine congrArg _ (List.map_congr_left fun c hc => ?_)
    obtain ⟨piece, hp⟩ := Option.isSome_iff_exists.mp (hs c hc)
    have hcutpieces : e.cutPieces substitute [c] = [piece] := by
      rw [cutPieces, show e.pieceOf? [c] = some piece from hp]
    rw [hcutpieces, hp]
    exact List.append_nil _
  have hbehind : ∀ piece ∈ ((t ++ parts.flatten).map fun c => [c]).flatMap (e.cutPieces substitute),
      ∃ d, e.piece? d = some piece := by
    intro piece hp
    obtain ⟨cut, hcut, hp⟩ := List.mem_flatMap.mp hp
    obtain ⟨c, -, rfl⟩ := List.mem_map.mp hcut
    exact exists_piece_of_mem_cutPieces hp
  refine ⟨_, ?_, h.exists_reads_pieces hbehind⟩
  rw [encodeParts_eq h.utf7 h.punycode, h.assembled, List.flatten_cons, List.append_assoc, hcut,
    List.map_append, List.flatMap_append, List.flatMap_append, hown]

end Uniform

end Charset

end HttpContract.Encoding
