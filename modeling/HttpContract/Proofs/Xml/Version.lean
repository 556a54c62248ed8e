import HttpContract.Proofs.Encoding.Uniform
import HttpContract.Proofs.Success
import HttpContract.Xml.Builder

/-!
The version that a built document tells. It is put into the bytes of a document of version 1.0.
Where these have the declaration in ASCII, nothing but the version changes, and the text is the same
behind it. In UTF-16, UTF-32 and code pages without ASCII the declaration is not found.
-/
namespace HttpContract

open Encoding (asciiBytes Charset DecodeFault)

/-! ## Replacing what stands behind a beginning -/

namespace Text

/-- Does no occurrence of `part` begin in these bytes, whatever follows them? -/
def skips (part : List UInt8) : List UInt8 → Bool
  | [] => true
  | b :: rest =>
    !part.isPrefixOf (b :: rest) && !(b :: rest).isPrefixOf part && skips part rest

variable {part start : List UInt8}

theorem replaceFirst_of_skips (h : skips part start = true) (new rest : List UInt8) :
    replaceFirst part new (start ++ rest) = start ++ replaceFirst part new rest := by
  induction start with
  | nil => rfl
  | cons b start ih =>
    rw [skips, Bool.and_eq_true, Bool.and_eq_true, Bool.not_eq_true', Bool.not_eq_true'] at h
    obtain ⟨⟨hpart, hstart⟩, hrest⟩ := h
    -- An occurrence here would begin with all of the beginning, or lie within it.
    have hno : ¬part <+: b :: (start ++ rest) := fun hp => by
      rcases List.prefix_or_prefix_of_prefix hp (List.prefix_append (b :: start) rest) with h | h
      · rw [List.isPrefixOf_iff_prefix.mpr h] at hpart
        cases hpart
      · rw [List.isPrefixOf_iff_prefix.mpr h] at hstart
        cases hstart
    rw [List.cons_append, replaceFirst, if_neg (mt List.isPrefixOf_iff_prefix.mp hno), ih hrest,
      List.cons_append]

theorem skips_of_not_mem {b : UInt8} (h : b ∉ start) : skips (b :: part) start = true := by
  induction start with
  | nil => rfl
  | cons c start ih =>
    obtain ⟨hne, hrest⟩ := List.ne_and_not_mem_of_not_mem_cons h
    simp [skips, List.isPrefixOf, hne, Ne.symm hne, ih hrest]

theorem replaceFirst_here (new rest : List UInt8) (h : part ≠ []) :
    replaceFirst part new (part ++ rest) = new ++ rest := by
  obtain ⟨b, part, rfl⟩ := List.exists_cons_of_ne_nil h
  have hp : (b :: part).isPrefixOf (b :: (part ++ rest)) = true :=
    List.isPrefixOf_iff_prefix.mpr (List.prefix_append (b :: part) rest)
  rw [List.cons_append, replaceFirst, if_pos hp, ← List.cons_append, List.drop_left]

end Text

namespace Xml

/-! ## The beginning of a document -/

def opening (version : List Char) : List Char := "<?xml version='".toList ++ version ++ ['\x27']

def firstVersion : List Char := "1.0".toList

def versionBytes (version : List Char) : List UInt8 :=
  asciiBytes ("version='".toList ++ version ++ ['\x27'])

theorem asciiBytes_opening (version : List Char) :
    asciiBytes (opening version) = asciiBytes "<?xml ".toList ++ versionBytes version := rfl

/-- The texts of both are the same but for the versions that they tell where they begin; neither is
a text if the other is none. -/
def SameBehindVersion (e : Charset) (version : List Char) (plain bytes : List UInt8) : Prop :=
  ∃ following : Except DecodeFault (List Char),
    e.decode plain = following.map (opening firstVersion ++ ·)
      ∧ e.decode bytes = following.map (opening version ++ ·)

/-- Does this encoding have the beginning of a document in ASCII, when it is written and when it is
read? -/
def showsVersion (e : Charset) : Bool :=
  (opening firstVersion).all fun c => e.writes c && e.keeps c

/-- Does each character have the same bytes everywhere, and those of the beginning of a document not
hold its version in ASCII? -/
def hidesVersion (e : Charset) : Bool :=
  (match e with
    | .utf16 _ | .utf32 _ => true
    | .codePage page => page.length ≤ 0x100
    | _ => false)
  && (opening firstVersion).all (fun c => (e.piece? c).isSome)
  && Text.skips (versionBytes firstVersion) (e.mark ++ e.bytesOf (opening firstVersion))

/-- Of the encodings of documents, Punycode is of neither kind, and code pages may be of either. -/
theorem showsVersion_eq_not_hidesVersion {e : Charset} (h : e.checkReplacing = .ok ())
    (hp : e ≠ .punycode) (hc : ∀ page, e ≠ .codePage page) :
    showsVersion e = !hidesVersion e := by
  cases e with
  | codePage page => exact absurd rfl (hc page)
  | punycode => exact absurd rfl hp
  | utf8 marked => rfl
  | utf16 order => rcases order with _ | _ | _ <;> decide
  | utf32 order => rcases order with _ | _ | _ <;> decide
  | multibyte m => cases m <;> rfl
  | iso2022 v => cases v <;> rfl
  | escaped wide => cases wide <;> rfl
  | hostName | undefined => cases h
  | _ => rfl

theorem not_mem_mark (e : Charset) : 0x76 ∉ e.mark := by
  cases e with
  | utf8 marked => cases marked <;> decide
  | utf16 order => rcases order with _ | _ | _ <;> decide
  | utf32 order => rcases order with _ | _ | _ <;> decide
  | _ => exact List.not_mem_nil

/-- Behind a mark and in ASCII, the first version that is found is that of the declaration. -/
theorem replaceFirst_opening (e : Charset) (new rest : List UInt8) :
    Text.replaceFirst (versionBytes firstVersion) new
        (e.mark ++ (asciiBytes (opening firstVersion) ++ rest)) =
      e.mark ++ (asciiBytes "<?xml ".toList ++ new ++ rest) := by
  have hstart : Text.skips (versionBytes firstVersion) (e.mark ++ asciiBytes "<?xml ".toList) =
      true := by
    refine Text.skips_of_not_mem fun h => ?_
    rcases List.mem_append.mp h with h | h
    · exact not_mem_mark e h
    · exact absurd h (by decide)
  have happ : e.mark ++ (asciiBytes (opening firstVersion) ++ rest) =
      (e.mark ++ asciiBytes "<?xml ".toList) ++ (versionBytes firstVersion ++ rest) := by
    rw [asciiBytes_opening, List.append_assoc, List.append_assoc]
  rw [happ, Text.replaceFirst_of_skips hstart, Text.replaceFirst_here _ _ (by decide)]
  simp only [List.append_assoc]

/-- A version without an apostrophe is told apart from others by the text that begins with it. -/
theorem opening_injective {v w s t : List Char} (hv : '\x27' ∉ v) (hw : '\x27' ∉ w)
    (h : opening v ++ s = opening w ++ t) : v = w := by
  unfold opening at h
  rw [List.append_assoc, List.append_assoc, List.append_assoc, List.append_assoc] at h
  have hcut := congrArg (Text.cutAt '\x27') (List.append_cancel_left h)
  rw [List.singleton_append, List.singleton_append, Text.cutAt_append hv,
    Text.cutAt_append hw] at hcut
  exact congrArg Prod.fst hcut

/-! ## Documents in an encoding -/

theorem of_encodeDocument_ok {charset : String} (hne : charset ≠ "") {root : Element}
    {plain : List UInt8} (h : encodeDocument charset root = .ok plain) :
    ∃ e following parts, Encoding.findText charset = .ok e ∧ e.checkReplacing = .ok ()
      ∧ plain = e.encodeParts reference ((opening firstVersion ++ following) :: parts) := by
  unfold encodeDocument at h
  rw [if_neg hne] at h
  dsimp only at h
  split at h
  · cases h
  · obtain ⟨e, he, h⟩ := exists_of_bind_ok h
    obtain ⟨_, hr, h⟩ := exists_of_bind_ok h
    obtain ⟨parts, hparts, h⟩ := exists_of_bind_ok h
    obtain ⟨known, -, hparts⟩ := exists_of_bind_ok hparts
    obtain ⟨body, -, hparts⟩ := exists_of_bind_ok hparts
    cases hparts
    cases h
    exact ⟨e, _, body, eq_ok_of_mapError he, eq_ok_of_mapError hr, rfl⟩

theorem of_serialize_ok {charset : String} {root : Element} {plain : List UInt8}
    (h : serialize charset root = .ok plain) : encodeDocument charset root = .ok plain := by
  unfold serialize at h
  split at h
  · cases h
  · split at h
    · cases h
    · exact eq_ok_of_mapError h

namespace Builder

variable {b : Builder}

def telling (b : Builder) (version : String) : Builder :=
  { b with outline := { b.outline with version := some version } }

/-- Nothing that is built depends on the version. -/
theorem build_telling (b : Builder) (version : String) (steps : List BuildStep) :
    (b.telling version).build steps = (b.build steps).map (·.telling version) := by
  have hroot : emptyRoot (b.telling version).outline = emptyRoot b.outline := rfl
  unfold build
  rw [hroot]
  dsimp only [telling]
  split <;> rfl

theorem charset_ne_empty (b : Builder) (wanted : Option String) : b.charset wanted ≠ "" := by
  unfold charset
  split
  case h_7 c hnone hsome =>
    intro hc
    cases ho : b.outline.charset with
    | none => exact hnone ho hc
    | some d => exact hsome d ho hc
  all_goals simp_all

theorem encodeText_ascii {wrap : EncodingFault → Error} {s : List Char}
    (h : ∀ c ∈ s, c.toNat < 0x80) : Encoding.encodeText wrap "ascii" s = .ok (asciiBytes s) := by
  have hpieces : (s.map fun c => [c]).mapM Charset.ascii.pieceOf? =
      some (Charset.plainPieces s) := by
    induction s with
    | nil => rfl
    | cons c s ih =>
      obtain ⟨hc, hs⟩ := List.forall_mem_cons.mp h
      have hpiece : Charset.ascii.pieceOf? [c] = some (.ascii, [UInt8.ofNat c.toNat]) :=
        Charset.piece?_of_writes (e := .ascii) hc rfl nofun nofun
      rw [List.map_cons, Charset.mapM_cons_of_some hpiece, ih hs]
      rfl
  have hfind : Encoding.findText "ascii" = .ok .ascii := rfl
  have hencode : Charset.ascii.encode s = .ok (asciiBytes s) := by
    unfold Charset.encode
    dsimp only
    rw [Charset.cut_of_unmarked fun _ _ => rfl, hpieces]
    exact congrArg Except.ok (Charset.flatMap_plainPieces s)
  unfold Encoding.encodeText
  rw [hfind]
  dsimp only
  rw [hencode]

theorem withVersion_eq {version : String} (h : ∀ c ∈ version.toList, c.toNat < 0x80)
    (plain : List UInt8) : withVersion version plain = .ok (if version = "1.0" then plain else
      Text.replaceFirst (versionBytes firstVersion) (versionBytes version.toList) plain) := by
  have hbytes : versionBytes version.toList =
      asciiBytes "version='".toList ++ asciiBytes version.toList ++ asciiBytes ['\x27'] := by
    rw [versionBytes, asciiBytes, List.map_append, List.map_append]
    rfl
  unfold withVersion
  split
  · rfl
  · dsimp only
    rw [encodeText_ascii h, hbytes]
    rfl

theorem bytes_telling {version : String} (h : ∀ c ∈ version.toList, c.toNat < 0x80)
    {wanted : Option String} {plain : List UInt8} (hb : b.outline.version = none)
    (hp : b.bytes wanted = .ok plain) : (b.telling version).bytes wanted =
      .ok (if version = "1.0" then plain else
        Text.replaceFirst (versionBytes firstVersion) (versionBytes version.toList) plain) := by
  unfold bytes at hp
  obtain ⟨serialized, hs, hp⟩ := exists_of_bind_ok hp
  rw [hb] at hp
  cases hp
  have hserialize : serialize ((b.telling version).charset wanted)
      ((b.telling version).root.getD (emptyRoot (b.telling version).outline)) = .ok plain := hs
  unfold bytes
  dsimp only
  rw [hserialize]
  exact withVersion_eq h plain

end Builder

theorem of_bytes_ok {b : Builder} (hb : b.outline.version = none) {wanted : Option String}
    {plain : List UInt8} (hp : b.bytes wanted = .ok plain) :
    ∃ e following parts, Encoding.findText (b.charset wanted) = .ok e
      ∧ e.checkReplacing = .ok ()
      ∧ plain = e.encodeParts reference ((opening firstVersion ++ following) :: parts) := by
  unfold Builder.bytes at hp
  obtain ⟨serialized, hs, hp⟩ := exists_of_bind_ok hp
  rw [hb] at hp
  cases hp
  exact of_encodeDocument_ok (b.charset_ne_empty wanted) (of_serialize_ok hs)

/-! ## Finding the version or missing it -/

variable {e : Charset} {version : List Char}

/-- What holds of a text can be checked character by character. -/
theorem forall_mem_of_all {P : Char → Prop} [DecidablePred P] {s : List Char}
    (h : s.all (fun c => P c) = true) : ∀ c ∈ s, P c :=
  fun c hc => of_decide_eq_true (List.all_eq_true.mp h c hc)

theorem ascii_opening : ∀ c ∈ opening firstVersion, c.toNat < 0x80 :=
  forall_mem_of_all (by decide)

theorem forall_mem_opening {P : Char → Prop} (hfirst : ∀ c ∈ opening firstVersion, P c)
    (h : ∀ c ∈ version, P c) : ∀ c ∈ opening version, P c := by
  have hfront : ∀ c ∈ "<?xml version='".toList, c ∈ opening firstVersion :=
    fun c hc => List.mem_append_left _ (List.mem_append_left _ hc)
  intro c hc
  rcases List.mem_append.mp hc with hc | hc
  · exact (List.mem_append.mp hc).elim (fun hc => hfirst c (hfront c hc)) (h c)
  · exact hfirst c (List.mem_append_right _ hc)

/-- A declaration in ASCII tells the version, whatever follows it. -/
theorem sameBehindVersion_of_keeps (hfirst : ∀ c ∈ opening firstVersion, e.keeps c = true)
    (hascii : ∀ c ∈ version, c.toNat < 0x80) (hkeeps : ∀ c ∈ version, e.keeps c = true)
    (rest : List UInt8) :
    SameBehindVersion e version (e.mark ++ (asciiBytes (opening firstVersion) ++ rest))
      (e.mark ++ (asciiBytes (opening version) ++ rest)) := by
  have hplain : e.Reads (asciiBytes (opening firstVersion)) (opening firstVersion) :=
    .asciiBytes fun c hc => Charset.reads_of_keeps (ascii_opening c hc) (hfirst c hc)
  have htold : e.Reads (asciiBytes (opening version)) (opening version) :=
    .asciiBytes fun c hc => Charset.reads_of_keeps (forall_mem_opening ascii_opening hascii c hc)
      (forall_mem_opening hfirst hkeeps c hc)
  exact ⟨e.decode (e.mark ++ rest), hplain rest, htold rest⟩

theorem of_hidesVersion (h : hidesVersion e = true) : e.Uniform
    ∧ (∀ c ∈ opening firstVersion, (e.piece? c).isSome = true)
    ∧ Text.skips (versionBytes firstVersion) (e.mark ++ e.bytesOf (opening firstVersion)) =
      true := by
  unfold hidesVersion at h
  rw [Bool.and_eq_true, Bool.and_eq_true] at h
  obtain ⟨⟨huniform, hpieces⟩, hskips⟩ := h
  refine ⟨?_, List.all_eq_true.mp hpieces, hskips⟩
  cases e with
  | utf16 order => exact Charset.uniform_utf16 order
  | utf32 order => exact Charset.uniform_utf32 order
  | codePage page => exact Charset.uniform_codePage (of_decide_eq_true huniform)
  | _ => cases huniform

/-- Where the declaration is not found, another version is not told at the beginning. -/
theorem not_sameBehindVersion (h : hidesVersion e = true) (hv : '\x27' ∉ version)
    (hne : version ≠ firstVersion) {rest : List UInt8} {text : List Char}
    (hrest : e.Reads rest text) :
    ¬SameBehindVersion e version (e.mark ++ (e.bytesOf (opening firstVersion) ++ rest))
      (Text.replaceFirst (versionBytes firstVersion) (versionBytes version)
        (e.mark ++ (e.bytesOf (opening firstVersion) ++ rest))) := by
  obtain ⟨huniform, hpieces, hskips⟩ := of_hidesVersion h
  have hopening := huniform.reads_bytesOf hpieces
  rintro ⟨following, hplain, hbytes⟩
  rw [← List.append_assoc, Text.replaceFirst_of_skips hskips, List.append_assoc, hopening]
    at hbytes
  have hend : e.decode (e.mark ++ rest) = .ok text := by
    have := hrest []
    rw [List.append_nil, List.append_nil, huniform.empty] at this
    rw [this]
    exact congrArg Except.ok (List.append_nil text)
  rw [hopening, hend] at hplain
  -- Both texts are there, and the second one begins in two ways.
  cases following with
  | error fault => cases hplain
  | ok behind =>
    obtain ⟨found, -, hfound⟩ := exists_of_map_ok hbytes
    have hfirst : '\x27' ∉ firstVersion := by decide
    exact hne (opening_injective hfirst hv hfound).symm

/-- For every builder, every encoding that its document can be written in and every version of ASCII
characters. Where the encoding has the declaration in ASCII, the version in it changes and no other
byte does; if the characters of the version stand for themselves when they are read, the text of the
document says this version where it begins and is the same behind that. Where the declaration has
other bytes, no version but the first is told. -/
theorem version_told_in_declaration {b : Builder} (hb : b.outline.version = none)
    {v : String} (hv : ∀ c ∈ v.toList, c.toNat < 0x80) {wanted : Option String}
    {plain : List UInt8} (hp : b.bytes wanted = .ok plain) :
    (∀ steps, (b.telling v).build steps = (b.build steps).map (·.telling v))
    ∧ ∃ e bytes, Encoding.findText (b.charset wanted) = .ok e
      ∧ (b.telling v).bytes wanted = .ok bytes
      ∧ (showsVersion e = true →
          (∃ rest, plain = e.mark ++ (asciiBytes (opening firstVersion) ++ rest)
            ∧ bytes = e.mark ++ (asciiBytes (opening v.toList) ++ rest))
          ∧ ((∀ c ∈ v.toList, e.keeps c = true) →
            SameBehindVersion e v.toList plain bytes))
      ∧ (hidesVersion e = true → '\x27' ∉ v.toList →
          (SameBehindVersion e v.toList plain bytes ↔ v = "1.0"))
      ∧ (e ≠ .punycode → (∀ page, e ≠ .codePage page) →
          showsVersion e = !hidesVersion e) := by
  obtain ⟨e, following, parts, he, hr, rfl⟩ := of_bytes_ok hb hp
  refine ⟨fun steps => b.build_telling v steps, e, _, he, b.bytes_telling hv hb hp, ?shows,
    ?hides, showsVersion_eq_not_hidesVersion hr⟩
  case shows =>
    intro hshows
    have hopening : ∀ c ∈ opening firstVersion, e.writes c = true ∧ e.keeps c = true :=
      fun c hc => Bool.and_eq_true_iff.mp (List.all_eq_true.mp hshows c hc)
    obtain ⟨rest, hrest⟩ := Charset.exists_encodeParts ascii_opening
      (fun c hc => (hopening c hc).1) reference following parts
    have hbytes : (if v = "1.0" then e.mark ++ (asciiBytes (opening firstVersion) ++ rest)
        else Text.replaceFirst (versionBytes firstVersion) (versionBytes v.toList)
          (e.mark ++ (asciiBytes (opening firstVersion) ++ rest))) =
        e.mark ++ (asciiBytes (opening v.toList) ++ rest) := by
      split
      · rename_i h1
        rw [h1]
        rfl
      · rw [replaceFirst_opening, asciiBytes_opening]
    rw [hrest, hbytes]
    exact ⟨⟨rest, rfl, rfl⟩, fun hkeeps =>
      sameBehindVersion_of_keeps (fun c hc => (hopening c hc).2) hv hkeeps rest⟩
  case hides =>
    intro hhides hquote
    obtain ⟨huniform, hpieces, -⟩ := of_hidesVersion hhides
    obtain ⟨rest, hrest, text, htext⟩ :=
      huniform.exists_encodeParts hpieces reference following parts
    rw [hrest]
    split
    · rename_i h1
      have hopening := huniform.reads_bytesOf hpieces rest
      rw [h1]
      exact iff_of_true ⟨_, hopening, hopening⟩ rfl
    · rename_i h1
      have hne : v.toList ≠ firstVersion := fun h => h1 (String.toList_inj.mp h)
      exact iff_of_false (not_sameBehindVersion hhides hquote hne htext) h1

/-- In UTF-8 the version is told, though what is looked for stands in the document again. -/
theorem version_told_in_utf8 :
    let plain := "<?xml version='1.0' encoding='utf-8'?>\n<a xmlns:b=\"version='1.0'\" />"
    let told := "<?xml version='1.1' encoding='utf-8'?>\n<a xmlns:b=\"version='1.0'\" />"
    let b := Builder.ofOutline ⟨"a", none, [("b", "version='1.0'")], none, none⟩
    (b.telling "1.1").bytes (some "utf-8") = .ok (asciiBytes told.toList)
      ∧ SameBehindVersion (.utf8 false) "1.1".toList (asciiBytes plain.toList)
        (asciiBytes told.toList) := by
  intro plain told b
  have hp : b.bytes (some "utf-8") = .ok (asciiBytes plain.toList) :=
    eq_ok_of_toOption (by decide +kernel)
  have htold : (b.telling "1.1").bytes (some "utf-8") = .ok (asciiBytes told.toList) :=
    eq_ok_of_toOption (by decide +kernel)
  have hfind : Encoding.findText (b.charset (some "utf-8")) = .ok (.utf8 false) :=
    eq_ok_of_toOption (by decide +kernel)
  obtain ⟨-, e, bytes, he, hb, hshows, -, -⟩ :=
    version_told_in_declaration (b := b) rfl (v := "1.1") (forall_mem_of_all (by decide)) hp
  obtain rfl : Charset.utf8 false = e := Except.ok.inj (hfind.symm.trans he)
  obtain rfl : asciiBytes told.toList = bytes := Except.ok.inj (htold.symm.trans hb)
  exact ⟨htold, (hshows (by decide)).2 (forall_mem_of_all (by decide))⟩

/-- In UTF-16 the version that was asked for is not told. -/
theorem version_lost_in_utf16 :
    let b := (Builder.ofOutline ⟨"a", none, [], none, none⟩).telling "1.1"
    (b.bytes (some "utf-16") >>= Encoding.decodeText "utf-16") =
      .ok "<?xml version='1.0' encoding='utf-16'?>\n<a />".toList :=
  eq_ok_of_toOption (by decide +kernel)

end Xml

end HttpContract
