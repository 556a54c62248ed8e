import HttpContract.Proofs.Encoding.Inverse

/-!
Reading and writing one character after the other. In most encodings the characters of ASCII stand
for themselves at the beginning of a text, but for the ones that introduce something else.
-/
namespace HttpContract.Encoding

def asciiBytes (s : List Char) : List UInt8 := s.map fun c => UInt8.ofNat c.toNat

theorem toNat_asciiByte {c : Char} (h : c.toNat < 0x80) : (UInt8.ofNat c.toNat).toNat = c.toNat :=
  toNat_byte (by omega)

namespace Charset

/-- At the beginning of a text these bytes are read as `s`, whatever follows them. -/
def Reads (e : Charset) (bytes : List UInt8) (s : List Char) : Prop :=
  ∀ rest, e.decode (e.mark ++ (bytes ++ rest)) = (e.decode (e.mark ++ rest)).map (s ++ ·)

theorem map_map_append {ε : Type} (r : Except ε (List Char)) (s t : List Char) :
    (r.map (t ++ ·)).map (s ++ ·) = r.map ((s ++ t) ++ ·) := by
  cases r with
  | error fault => rfl
  | ok text => exact congrArg Except.ok (List.append_assoc s t text).symm

variable {e : Charset}

theorem Reads.nil (e : Charset) : e.Reads [] [] := fun rest => by
  rw [List.nil_append]
  cases e.decode (e.mark ++ rest) <;> rfl

theorem Reads.append {x y : List UInt8} {s t : List Char} (hx : e.Reads x s) (hy : e.Reads y t) :
    e.Reads (x ++ y) (s ++ t) := fun rest => by
  rw [List.append_assoc, hx, hy, map_map_append]

theorem Reads.flatMap {bytesOf : Char → List UInt8} {s : List Char}
    (h : ∀ c ∈ s, e.Reads (bytesOf c) [c]) : e.Reads (s.flatMap bytesOf) s := by
  induction s with
  | nil => exact .nil e
  | cons c s ih =>
    obtain ⟨hc, hs⟩ := List.forall_mem_cons.mp h
    exact hc.append (ih hs)

theorem Reads.asciiBytes {s : List Char} (h : ∀ c ∈ s, e.Reads [UInt8.ofNat c.toNat] [c]) :
    e.Reads (asciiBytes s) s := by
  have hbytes : Encoding.asciiBytes s = s.flatMap fun c => [UInt8.ofNat c.toNat] :=
    List.map_eq_flatMap
  rw [hbytes]
  exact .flatMap h

/-- For all encodings but three it is enough to look at what is understood. -/
theorem reads_of_decode? {bytes : List UInt8} {s : List Char}
    (hd : ∀ bytes, e.decode bytes = match e.decode? bytes with
      | some t => .ok t
      | none => .error .undecodable)
    (h : ∀ rest, e.decode? (e.mark ++ (bytes ++ rest)) =
      (e.decode? (e.mark ++ rest)).map (s ++ ·)) : e.Reads bytes s := fun rest => by
  rw [hd, hd, h]
  cases e.decode? (e.mark ++ rest) <;> rfl

/-! ## Characters that stand for themselves -/

def keeps : Charset → Char → Bool
  | ascii, _ | latin1, _ | utf8 _, _ => true
  | utf7, c => c ≠ '+'
  | codePage page, c => page[c.toNat]? = some c
  | multibyte (.shiftJisX0213 _), c => c ≠ '\\' && c ≠ '~'
  | multibyte _, _ => true
  | iso2022 v, c => c ≠ '\x1b' && !(v.hasShifts && (c = '\x0e' || c = '\x0f'))
  | hz, c => c ≠ '~'
  | escaped _, c => c ≠ '\\'
  | utf16 _, _ | utf32 _, _ | punycode, _ | hostName, _ | undefined, _ => false

variable {c : Char}

theorem mapM_cons_of_some {α β : Type} {f : α → Option β} {a : α} {b : β} (h : f a = some b)
    (l : List α) : (a :: l).mapM f = (l.mapM f).map (b :: ·) := by
  rw [List.mapM_cons, h]
  cases l.mapM f <;> rfl

theorem strict_cons (c : Char) (pieces : List (Option Char)) :
    strict (some c :: pieces) = (strict pieces).map (c :: ·) :=
  mapM_cons_of_some (f := id) rfl pieces

theorem utf8EncodeChar_ascii (h : c.toNat < 0x80) :
    String.utf8EncodeChar c = [UInt8.ofNat c.toNat] := by
  unfold String.utf8EncodeChar
  have hv : c.val.toNat = c.toNat := rfl
  rw [hv, if_pos (by omega)]

theorem utf8Decode_ascii (h : c.toNat < 0x80) (rest : List UInt8) :
    utf8Decode none (UInt8.ofNat c.toNat :: rest) = some c :: utf8Decode none rest := by
  have hread := utf8Decode_utf8EncodeChar c rest
  rw [utf8EncodeChar_ascii h] at hread
  exact hread

theorem readAll_ascii {read : ByteReader} {b : UInt8} {rest : List UInt8}
    (h : read b rest = some ([c], 0)) :
    read.readAll (b :: rest) = (read.readAll rest).map (c :: ·) := by
  rw [ByteReader.readAll, h]
  rfl

theorem ascii_read (h : c.toNat < 0x80) (rest : List UInt8) :
    ByteReader.ascii (UInt8.ofNat c.toNat) rest = some ([c], 0) := by
  rw [ByteReader.ascii, toNat_asciiByte h, if_pos h, Char.ofNat_toNat]

theorem firstOf_ascii (readers : List ByteReader) (h : c.toNat < 0x80) (rest : List UInt8) :
    ByteReader.firstOf (.ascii :: readers) (UInt8.ofNat c.toNat) rest = some ([c], 0) := by
  rw [ByteReader.firstOf, List.findSome?_cons, ascii_read h]

theorem byte_ne (hc : c.toNat < 0x80) {d : Char} (h : c ≠ d) {b : UInt8} (hb : d.toNat = b.toNat) :
    UInt8.ofNat c.toNat ≠ b := by
  intro he
  have : c.toNat = d.toNat := by rw [hb, ← he, toNat_asciiByte hc]
  exact h (by rw [← Char.ofNat_toNat c, this, Char.ofNat_toNat])

/-- All of the encodings in question try ASCII first, or after two characters of their own. -/
theorem multibyte_read {m : Multibyte} (h : c.toNat < 0x80) (hk : (multibyte m).keeps c = true)
    (rest : List UInt8) : m.reader (UInt8.ofNat c.toNat) rest = some ([c], 0) := by
  cases m with
  | shiftJisX0213 edition =>
    simp only [keeps, Bool.and_eq_true, decide_eq_true_eq] at hk
    have hroman : ShiftJisX0213.readRoman (UInt8.ofNat c.toNat) rest = none := by
      rw [ShiftJisX0213.readRoman, if_neg (byte_ne h hk.1 rfl), if_neg (byte_ne h hk.2 rfl)]
    show ByteReader.firstOf (ShiftJisX0213.readRoman :: _) (UInt8.ofNat c.toNat) rest = _
    rw [ByteReader.firstOf, List.findSome?_cons, hroman]
    exact firstOf_ascii _ h rest
  | _ => exact firstOf_ascii _ h rest

theorem iso2022_read {v : Iso2022} (h : c.toNat < 0x80) (hk : (iso2022 v).keeps c = true)
    (rest : List UInt8) : v.read Iso2022.start (UInt8.ofNat c.toNat :: rest) =
      (v.read Iso2022.start rest).map (c :: ·) := by
  simp only [keeps, Bool.and_eq_true, decide_eq_true_eq, Bool.not_eq_true', Bool.and_eq_false_iff,
    Bool.or_eq_false_iff, decide_eq_false_iff_not] at hk
  obtain ⟨hescape, hshifts⟩ := hk
  have hin : ¬(v.hasShifts ∧ UInt8.ofNat c.toNat = Iso2022.shiftIn) := fun ⟨hv, hb⟩ =>
    hshifts.elim (fun hn => by simp [hn] at hv) fun hc => byte_ne h hc.2 rfl hb
  have hout : ¬(v.hasShifts ∧ UInt8.ofNat c.toNat = Iso2022.shiftOut) := fun ⟨hv, hb⟩ =>
    hshifts.elim (fun hn => by simp [hn] at hv) fun hc => byte_ne h hc.1 rfl hb
  have hstep : v.step Iso2022.start (UInt8.ofNat c.toNat) rest = some ([c], 0, Iso2022.start) := by
    unfold Iso2022.step
    rw [if_neg (by decide), if_neg (byte_ne h hescape rfl), if_neg hin, if_neg hout]
    dsimp only
    rw [toNat_asciiByte h, Char.ofNat_toNat]
    split
    · rfl
    · split
      · rfl
      · show (ByteReader.ascii (UInt8.ofNat c.toNat) rest).map _ = _
        rw [ascii_read h]
        rfl
  rw [Iso2022.read, hstep]
  rfl

theorem hz_read (h : c.toNat < 0x80) (hk : c ≠ '~') (rest : List UInt8) :
    Hz.read false (UInt8.ofNat c.toNat :: rest) = (Hz.read false rest).map (c :: ·) := by
  have hb : UInt8.ofNat c.toNat ≠ Hz.tilde := byte_ne h hk rfl
  have hn := toNat_asciiByte h
  cases rest with
  | nil =>
    show (if false || UInt8.ofNat c.toNat = Hz.tilde || 0x80 ≤ (UInt8.ofNat c.toNat).toNat then none
      else some [Char.ofNat (UInt8.ofNat c.toNat).toNat]) = some [c]
    rw [if_neg (by simp [hb, hn]; omega), hn, Char.ofNat_toNat]
  | cons d rest =>
    rw [Hz.read, if_neg hb, if_neg (by omega), if_neg (by decide), hn, Char.ofNat_toNat]

theorem readWith_plain {unescape? : Char → List Char → Option (List Char × List Char)}
    {last : Option (List Char)} (hk : c ≠ '\\') (fuel : Nat) (rest : List Char) :
    Escaped.readWith unescape? last (fuel + 1) (c :: rest) =
      (Escaped.readWith unescape? last fuel rest).map (c :: ·) := by
  rw [Escaped.readWith.eq_def]
  split <;> simp_all

theorem reads_of_keeps (h : c.toNat < 0x80) (hk : e.keeps c = true) :
    e.Reads [UInt8.ofNat c.toNat] [c] := by
  have hn := toNat_asciiByte h
  cases e with
  | ascii =>
    refine reads_of_decode? (fun _ => rfl) fun rest => ?_
    exact mapM_cons_of_some (by rw [hn, if_pos h, Char.ofNat_toNat]) rest
  | latin1 =>
    refine reads_of_decode? (fun _ => rfl) fun rest => ?_
    show some (Char.ofNat (UInt8.ofNat c.toNat).toNat :: _) = _
    rw [hn, Char.ofNat_toNat]
    rfl
  | utf7 =>
    refine reads_of_decode? (fun _ => rfl) fun rest => ?_
    have hb : UInt8.ofNat c.toNat ≠ 0x2b := byte_ne h (by simpa [keeps] using hk) rfl
    show Utf7.decode none (UInt8.ofNat c.toNat :: rest) = (Utf7.decode none rest).map _
    rw [Utf7.decode, if_neg hb, hn, if_pos h, Char.ofNat_toNat]
    rfl
  | utf8 marked =>
    refine reads_of_decode? (fun _ => rfl) fun rest => ?_
    have hplain : strict (utf8Decode none (UInt8.ofNat c.toNat :: rest)) =
        (strict (utf8Decode none rest)).map (c :: ·) := by
      rw [utf8Decode_ascii h, strict_cons]
    cases marked with
    | false => exact hplain
    | true => exact hplain
  | codePage page =>
    refine reads_of_decode? (fun _ => rfl) fun rest => ?_
    have hpage : page[c.toNat]? = some c := by simpa [keeps] using hk
    have hne : c ≠ '\ufffe' := fun he => by
      rw [he] at h
      revert h
      decide
    exact mapM_cons_of_some (by rw [hn, hpage]; simp [hne]) rest
  | multibyte m =>
    refine reads_of_decode? (fun _ => rfl) fun rest => ?_
    exact readAll_ascii (multibyte_read h hk rest)
  | iso2022 v =>
    refine reads_of_decode? (fun _ => rfl) fun rest => ?_
    exact iso2022_read h hk rest
  | hz =>
    refine reads_of_decode? (fun _ => rfl) fun rest => ?_
    exact hz_read h (by simpa [keeps] using hk) rest
  | escaped wide =>
    refine reads_of_decode? (fun _ => rfl) fun rest => ?_
    have hslash : c ≠ '\\' := by simpa [keeps] using hk
    have hchars : Escaped.chars (UInt8.ofNat c.toNat :: rest) = c :: Escaped.chars rest := by
      rw [Escaped.chars, List.map_cons, hn, Char.ofNat_toNat]
      rfl
    cases wide with
    | false =>
      show Escaped.readWith _ _ (rest.length + 1) (Escaped.chars (UInt8.ofNat c.toNat :: rest)) = _
      rw [hchars, readWith_plain hslash]
      rfl
    | true =>
      show Escaped.readWith _ _ (rest.length + 1) (Escaped.chars (UInt8.ofNat c.toNat :: rest)) = _
      rw [hchars, readWith_plain hslash]
      rfl
  | utf16 | utf32 | punycode | hostName | undefined => cases hk

/-! ## Characters that are written as themselves -/

def writes : Charset → Char → Bool
  | utf7, c => Utf7.isDirect c
  | codePage page, c => (codePage page).byteOf c = some (UInt8.ofNat c.toNat)
  | multibyte (.shiftJisX0213 _), c => c ≠ '\\' && c ≠ '~'
  | hz, c => c ≠ '~'
  | escaped false, c => 0x20 ≤ c.toNat && c.toNat < 0x7f && c ≠ '\\'
  | utf16 _, _ | utf32 _, _ | hostName, _ | undefined, _ => false
  | _, _ => true

def plainPieces (s : List Char) : List SetPiece := s.map fun c => (.ascii, [UInt8.ofNat c.toNat])

def beginsWide (table : List (Nat × String)) : Bool :=
  table.all fun p => p.2.toList.head?.all fun d => 0x80 ≤ d.toNat

theorem head?_ne_of_beginsWide {table : List (Nat × String)} (hw : beginsWide table = true)
    (h : c.toNat < 0x80) : ∀ p ∈ table, p.2.toList.head? ≠ some c := fun p hp hc => by
  have hwide := List.all_eq_true.mp hw p hp
  rw [hc, Option.all_some, decide_eq_true_eq] at hwide
  omega

theorem find?_marked_ascii {table : List (Nat × String)} (hw : beginsWide table = true)
    (h : c.toNat < 0x80) (mark : Char) :
    table.find? (fun p => p.2.toList == [c, mark]) = none := by
  refine List.find?_eq_none.mpr fun p hp heq => head?_ne_of_beginsWide hw h p hp ?_
  rw [eq_of_beq heq]
  rfl

theorem markedPosition?_ascii (edition : JisEdition) (h : c.toNat < 0x80) (mark : Char) :
    edition.markedPosition? c mark = none := by
  have hwide : beginsWide JapaneseTable.marked = true := by decide +kernel
  have hfind := find?_marked_ascii hwide h mark
  have hany : JapaneseTable.marked.any (fun p => p.2.toList.head? == some c) = false :=
    List.any_eq_false.mpr fun p hp heq => head?_ne_of_beginsWide hwide h p hp (eq_of_beq heq)
  rw [JisEdition.markedPosition?, hfind, hany, if_neg (by simp)]
  rfl

/-- No character of ASCII takes a mark. -/
theorem markedPiece?_ascii (h : c.toNat < 0x80) (mark : Char) : e.markedPiece? c mark = none := by
  cases e with
  | multibyte m =>
    cases m with
    | big5Hkscs =>
      have hwide : beginsWide Big5Hkscs.marked = true := by decide +kernel
      have hfind := find?_marked_ascii hwide h mark
      show (((Big5Hkscs.marked.find? fun p => p.2.toList == [c, mark]).map Prod.fst).bind
        Big5.rows.bytes?).map _ = none
      rw [hfind]
      rfl
    | eucJisX0213 edition =>
      show ((edition.markedPosition? c mark).bind highRows.bytes?).map _ = none
      rw [markedPosition?_ascii edition h mark]
      rfl
    | shiftJisX0213 edition =>
      show ((edition.markedPosition? c mark).bind shiftedRows.bytes?).map _ = none
      rw [markedPosition?_ascii edition h mark]
      rfl
    | _ => rfl
  | iso2022 v =>
    show v.markedPiece? c mark = none
    unfold Iso2022.markedPiece?
    cases v.edition? with
    | none => rfl
    | some edition =>
      show (((edition.markedPosition? c mark).bind lowRows.bytes?).bind _) = none
      rw [markedPosition?_ascii edition h mark]
      rfl
  | _ => rfl

theorem asciiByte?_eq (h : c.toNat < 0x80) : asciiByte? c = some [UInt8.ofNat c.toNat] :=
  if_pos h

theorem orElse_of_some {α : Type} {x : Option α} {a : α} (h : x = some a) (y : Option α) :
    (x <|> y) = some a := by
  rw [h]
  rfl

theorem piece?_of_writes (h : c.toNat < 0x80) (hw : e.writes c = true) (h7 : e ≠ utf7)
    (hp : e ≠ punycode) : e.piece? c = some (.ascii, [UInt8.ofNat c.toNat]) := by
  have hascii := asciiByte?_eq h
  cases e with
  | ascii =>
    show (byteOf ascii c).map _ = _
    rw [byteOf, if_pos h]
    rfl
  | latin1 =>
    show (byteOf latin1 c).map _ = _
    rw [byteOf, if_pos (by omega)]
    rfl
  | utf8 marked =>
    show some (CodeSet.ascii, String.utf8EncodeChar c) = _
    rw [utf8EncodeChar_ascii h]
  | codePage page =>
    have hb : (codePage page).byteOf c = some (UInt8.ofNat c.toNat) := by simpa [writes] using hw
    show ((codePage page).byteOf c).map _ = _
    rw [hb]
    rfl
  | multibyte m =>
    have hm : m.encode? c = some [UInt8.ofNat c.toNat] := by
      cases m with
      | shiftJisX0213 edition =>
        have hk : c ≠ '\\' ∧ c ≠ '~' := by simpa [writes] using hw
        simp [Multibyte.encode?, ShiftJisX0213.encode?, hascii, hk]
      | gb18030 => simp [Multibyte.encode?, Gb18030.encode, Gbk.encode?, hascii]
      | _ => exact orElse_of_some hascii _
    show (m.encode? c).map _ = _
    rw [hm]
    rfl
  | iso2022 v =>
    show v.piece? c = _
    have hset : CodeSet.ascii.bytes? c = some [UInt8.ofNat c.toNat] := hascii
    rw [Iso2022.piece?, List.findSome?_cons, hset]
    rfl
  | hz =>
    have hk : c ≠ '~' := by simpa [writes] using hw
    show Hz.piece? c = _
    rw [Hz.piece?, if_neg hk]
    exact orElse_of_some (congrArg (Option.map (Prod.mk CodeSet.ascii)) hascii) _
  | escaped wide =>
    cases wide with
    | false =>
      simp only [writes, Bool.and_eq_true, decide_eq_true_eq] at hw
      obtain ⟨⟨hlow, hhigh⟩, hslash⟩ := hw
      have control : ∀ d : Char, d.toNat < 0x20 → c ≠ d := fun d hd he => by
        rw [he] at hlow
        omega
      show some (CodeSet.ascii, Escaped.escape c) = _
      rw [Escaped.escape, if_neg (control '\t' (by decide)), if_neg (control '\n' (by decide)),
        if_neg (control '\r' (by decide)), if_neg hslash, if_pos ⟨hlow, hhigh⟩]
      rfl
    | true =>
      show some (CodeSet.ascii, Escaped.escapeWide c) = _
      rw [Escaped.escapeWide, if_pos (by omega)]
  | utf7 => exact absurd rfl h7
  | punycode => exact absurd rfl hp
  | utf16 | utf32 | hostName | undefined => cases hw

theorem cut_cons_of_unmarked (h : ∀ d, e.markedPiece? c d = none) (s : List Char) :
    e.cut (c :: s) = [c] :: e.cut s := by
  cases s with
  | nil => rfl
  | cons d s => rw [cut, h d, if_neg (by simp)]

theorem cut_ascii {s : List Char} (h : ∀ c ∈ s, c.toNat < 0x80) (t : List Char) :
    e.cut (s ++ t) = s.map (fun c => [c]) ++ e.cut t := by
  induction s with
  | nil => rfl
  | cons c s ih =>
    obtain ⟨hc, hs⟩ := List.forall_mem_cons.mp h
    rw [List.cons_append, cut_cons_of_unmarked (markedPiece?_ascii hc), ih hs]
    rfl

theorem flatMap_plainPieces (s : List Char) : (plainPieces s).flatMap Prod.snd = asciiBytes s := by
  induction s with
  | nil => rfl
  | cons c s ih => exact congrArg (UInt8.ofNat c.toNat :: ·) ih

theorem callSets_plainPieces (call : CodeSet → List UInt8) (s : List Char)
    (pieces : List SetPiece) : callSets call .ascii (plainPieces s ++ pieces) =
      asciiBytes s ++ callSets call .ascii pieces := by
  induction s with
  | nil => rfl
  | cons c s ih =>
    show (if CodeSet.ascii = .ascii then [] else call .ascii) ++ [UInt8.ofNat c.toNat]
      ++ callSets call .ascii (plainPieces s ++ pieces) = _
    rw [if_pos rfl, ih]
    rfl

/-- Characters at the beginning need no set to be called up. -/
theorem exists_assemble (e : Charset) (s : List Char) (pieces : List SetPiece) :
    ∃ rest, e.assemble (plainPieces s ++ pieces) = e.mark ++ (asciiBytes s ++ rest) := by
  have direct : ∃ rest, e.mark ++ (plainPieces s ++ pieces).flatMap Prod.snd =
      e.mark ++ (asciiBytes s ++ rest) :=
    ⟨pieces.flatMap Prod.snd, by rw [List.flatMap_append, flatMap_plainPieces]⟩
  cases e with
  | iso2022 v =>
    by_cases hv : v.hasShifts = true
    · have hplain : ∀ p ∈ plainPieces s, decide (p.1 = CodeSet.ascii) = true := fun p hp => by
        obtain ⟨c, -, rfl⟩ := List.mem_map.mp hp
        rfl
      rw [assemble, Iso2022.write, if_pos hv]
      dsimp only
      rw [List.takeWhile_append_of_pos hplain, List.flatMap_append, flatMap_plainPieces,
        List.append_assoc, List.append_assoc]
      exact ⟨_, rfl⟩
    · exact ⟨_, by rw [assemble, Iso2022.write, if_neg hv, callSets_plainPieces]; rfl⟩
  | hz => exact ⟨_, callSets_plainPieces Hz.call s pieces⟩
  | _ => exact direct

theorem encode_utf7 {s : List Char} (h : ∀ c ∈ s, Utf7.isDirect c = true) (t : List Char) :
    Utf7.encode (s ++ t) = asciiBytes s ++ Utf7.encode t := by
  induction s with
  | nil => rfl
  | cons c s ih =>
    obtain ⟨hc, hs⟩ := List.forall_mem_cons.mp h
    rw [List.cons_append, Utf7.encode, if_pos hc, ih hs]
    rfl

theorem exists_encode_punycode {s : List Char} (h : ∀ c ∈ s, c.toNat < 0x80) (t : List Char) :
    ∃ rest, Punycode.encode (s ++ t) = asciiBytes s ++ rest := by
  have hs : s.filter Punycode.isBasic = s :=
    List.filter_eq_self.mpr fun c hc => decide_eq_true (h c hc)
  unfold Punycode.encode
  dsimp only
  rw [List.filter_append, hs, List.map_append, List.append_assoc, List.append_assoc]
  exact ⟨_, rfl⟩

def cutPieces (e : Charset) (substitute : Char → List Char) (cut : List Char) : List SetPiece :=
  match e.pieceOf? cut with
  | some piece => [piece]
  | none => (cut.flatMap substitute).filterMap e.piece?

theorem encodeParts_eq (h7 : e ≠ utf7) (hp : e ≠ punycode) (substitute : Char → List Char)
    (parts : List (List Char)) : e.encodeParts substitute parts =
      e.assemble ((e.cut parts.flatten).flatMap (e.cutPieces substitute)) := by
  unfold encodeParts
  split
  · exact absurd rfl h7
  · exact absurd rfl hp
  · rfl

/-- A document that begins with characters of ASCII begins with their bytes, behind the mark. -/
theorem exists_encodeParts {s : List Char} (hs : ∀ c ∈ s, c.toNat < 0x80)
    (hw : ∀ c ∈ s, e.writes c = true) (substitute : Char → List Char) (t : List Char)
    (parts : List (List Char)) :
    ∃ rest, e.encodeParts substitute ((s ++ t) :: parts) = e.mark ++ (asciiBytes s ++ rest) := by
  by_cases h7 : e = utf7
  · subst h7
    exact ⟨_, by rw [encodeParts, List.flatMap_cons, encode_utf7 hw, List.append_assoc]; rfl⟩
  by_cases hp : e = punycode
  · subst hp
    obtain ⟨rest, hrest⟩ := exists_encode_punycode hs t
    exact ⟨_, by rw [encodeParts, List.flatMap_cons, hrest, List.append_assoc]; rfl⟩
  have hpieces : (s.map fun c => [c]).flatMap (e.cutPieces substitute) = plainPieces s := by
    rw [List.flatMap_map, plainPieces, List.map_eq_flatMap, List.flatMap_def, List.flatMap_def]
    refine congrArg _ (List.map_congr_left fun c hc => ?_)
    have hpiece : e.pieceOf? [c] = some (.ascii, [UInt8.ofNat c.toNat]) :=
      piece?_of_writes (hs c hc) (hw c hc) h7 hp
    rw [cutPieces, hpiece]
  rw [encodeParts_eq h7 hp, List.flatten_cons, List.append_assoc, cut_ascii hs,
    List.flatMap_append, hpieces]
  exact exists_assemble e s _

end Charset

end HttpContract.Encoding
