import HttpContract.Proofs.Body.Declaration
import HttpContract.Proofs.MediaType.Charset
import HttpContract.Proofs.Number.Digits
import HttpContract.Document

/-!
Media types that are written out: type and subtype, then every parameter with its value in double
quotes. They say the same again when they are read, unless a value has a semicolon in it: texts are
cut at semicolons before any quote is looked at. A text that has been read once says the same
without the white space around it, and so does the header it is written into.
-/
namespace HttpContract

/-! ## Texts and maps that are put together -/

namespace Text

/-- Pieces with a separator before each are found again behind the text they follow. -/
theorem splitAt_flatMap {sep : Char} {s : List Char} {pieces : List (List Char)} (hs : sep ∉ s)
    (hp : ∀ piece ∈ pieces, sep ∉ piece) :
    splitAt sep (s ++ pieces.flatMap (sep :: ·)) = s :: pieces := by
  induction pieces generalizing s with
  | nil => rw [List.flatMap_nil, List.append_nil, splitAt_of_not_mem hs]
  | cons piece pieces ih =>
    obtain ⟨hpiece, hrest⟩ := List.forall_mem_cons.mp hp
    rw [List.flatMap_cons, List.cons_append, splitAt_append hs, ih hpiece hrest]

theorem lower_of_ascii {s : List Char} (h : ∀ c ∈ s, c.toNat < 0x80) :
    lower s = s.map lowerChar := by
  have each (before : List Char) : lowerAfter before s = s.map lowerChar := by
    induction s generalizing before with
    | nil => rfl
    | cons c s ih =>
      obtain ⟨hc, hs⟩ := List.forall_mem_cons.mp h
      rw [lowerAfter, ih hs, if_neg (by omega), if_neg (by omega)]
      rfl
  exact each []

end Text

theorem Keyed.get?_putAll_reverse {α β : Type} [DecidableEq α] (m entries : Keyed α β) (key : α) :
    get? (putAll m entries) key = (get? entries.reverse key).or (get? m key) := by
  induction entries generalizing m with
  | nil => rfl
  | cons e rest ih =>
    rw [putAll, List.foldl_cons, ← putAll, ih, get?_put, List.reverse_cons, get?_append,
      Option.or_assoc]
    congr 1
    by_cases he : e.1 = key <;> simp [get?, he]

namespace MediaType

theorem isTokenChar_ascii {c : Char} (h : isTokenChar c = true) : c.toNat < 0x80 := by
  simp only [isTokenChar, Text.isAsciiLetter, Text.isAsciiDigit, Bool.or_eq_true,
    Bool.and_eq_true, decide_eq_true_eq, List.contains_iff_mem] at h
  have marks : ['!', '#', '$', '&', '^', '_', '.', '+', '-'].all (fun d => d.toNat < 0x80) =
      true := by decide
  rcases h with ((h | h) | h) | h
  · omega
  · omega
  · omega
  · exact of_decide_eq_true (List.all_eq_true.mp marks c h)

/-- What holds of the token characters among the first 128 characters holds of all of them. -/
theorem of_isTokenChar {P : Char → Prop} [DecidablePred P]
    (hP : ∀ n < 0x80, isTokenChar (Char.ofNat n) = true → P (Char.ofNat n)) {c : Char}
    (h : isTokenChar c = true) : P c := by
  have := hP c.toNat (isTokenChar_ascii h)
  rw [Char.ofNat_toNat] at this
  exact this h

theorem isTokenChar_lowerChar {c : Char} (h : isTokenChar c = true) :
    isTokenChar (Text.lowerChar c) = true :=
  of_isTokenChar (P := fun c => isTokenChar (Text.lowerChar c) = true) (by decide) h

theorem isBlank_of_isTokenChar {c : Char} (h : isTokenChar c = true) : Text.isBlank c = false :=
  of_isTokenChar (P := fun c => Text.isBlank c = false) (by decide) h

variable {s t : List Char}

theorem isToken_iff : isToken s = true ↔ s ≠ [] ∧ ∀ c ∈ s, isTokenChar c = true := by
  unfold isToken
  rw [Bool.and_eq_true, Bool.not_eq_true', List.isEmpty_eq_false_iff, List.all_eq_true]

theorem not_mem_of_isToken (h : isToken s = true) {c : Char} (hc : isTokenChar c = false) :
    c ∉ s := fun hmem => by
  have := (isToken_iff.mp h).2 c hmem
  rw [hc] at this
  cases this

/-- A token is one in small letters too. -/
theorem isToken_lower (h : isToken s = true) : isToken (Text.lower s) = true := by
  obtain ⟨hne, hs⟩ := isToken_iff.mp h
  rw [Text.lower_of_ascii fun c hc => isTokenChar_ascii (hs c hc), isToken_iff]
  refine ⟨mt List.map_eq_nil_iff.mp hne, fun d hd => ?_⟩
  obtain ⟨c, hc, rfl⟩ := List.mem_map.mp hd
  exact isTokenChar_lowerChar (hs c hc)

theorem trim_of_isToken (h : isToken s = true) : Text.trim s = s :=
  Text.trimWhile_eq_self fun c hc => isBlank_of_isTokenChar ((isToken_iff.mp h).2 c hc)

theorem isEssence_of_isToken (hs : isToken s = true) (ht : isToken t = true) :
    isEssence (s ++ '/' :: t) = true := by
  unfold isEssence
  rw [Text.cutAt_append (not_mem_of_isToken hs rfl)]
  show (isToken s && (isToken t || t == ['*'])) = true
  rw [hs, ht]
  rfl

/-! ## What is written -/

def writtenParameter (e : String × String) : List Char :=
  e.1.toList ++ '=' :: '\x22' :: (e.2.toList ++ ['\x22'])

def written (main sub : String) (parameters : List (String × String)) : String :=
  String.ofList (main.toList ++ '/' :: sub.toList
    ++ (parameters.map fun e => ' ' :: writtenParameter e).flatMap (';' :: ·))

def lowered (parameters : List (String × String)) : Keyed String String :=
  parameters.map fun e => (Text.lowerText e.1, e.2)

def lastValue? (parameters : List (String × String)) (name : String) : Option String :=
  Keyed.get? (lowered parameters).reverse name

def ReadsBack (main sub : String) (parameters : List (String × String)) : Prop :=
  ∃ m, ofText (written main sub parameters) = .ok m
    ∧ m.essence = Text.lowerText (main ++ "/" ++ sub)
    ∧ ∀ name, Keyed.get? m.parameters name = lastValue? parameters name

theorem unquoted_quoted (s : List Char) : unquoted ('\x22' :: (s ++ ['\x22'])) = s := by
  unfold unquoted
  rw [if_pos ⟨by simp, rfl, by rw [← List.cons_append, List.getLast?_concat]⟩]
  exact List.dropLast_concat

theorem readParameter_written {e : String × String} (h : isToken e.1.toList = true) :
    readParameter (writtenParameter e) = some (Text.lowerText e.1, e.2) := by
  have hvalue : Text.trim ('\x22' :: (e.2.toList ++ ['\x22'])) =
      '\x22' :: (e.2.toList ++ ['\x22']) := Text.trim_cons_concat rfl rfl _
  unfold readParameter writtenParameter
  rw [Text.cutAt_append (not_mem_of_isToken h rfl)]
  dsimp only
  rw [trim_of_isToken h, isToken_lower h, if_pos rfl, hvalue, unquoted_quoted, String.ofList_toList]
  rfl

theorem trim_writtenParameter {e : String × String} (h : isToken e.1.toList = true) :
    Text.trim (' ' :: writtenParameter e) = writtenParameter e := by
  obtain ⟨hne, hchars⟩ := isToken_iff.mp h
  obtain ⟨c, name, hname⟩ := List.exists_cons_of_ne_nil hne
  have hc : Text.isBlank c = false := isBlank_of_isTokenChar (hchars c (hname ▸ List.mem_cons_self))
  have hends : writtenParameter e = c :: ((name ++ '=' :: '\x22' :: e.2.toList) ++ ['\x22']) := by
    unfold writtenParameter
    rw [hname]
    simp
  rw [Text.trim_cons rfl, hends]
  exact Text.trim_cons_concat hc rfl _

theorem readParameters_written (value : String) {parameters : List (String × String)}
    (h : ∀ e ∈ parameters, isToken e.1.toList = true) (known : Keyed String String) :
    readParameters value (parameters.map writtenParameter) known =
      .ok (Keyed.putAll known (lowered parameters)) := by
  induction parameters generalizing known with
  | nil => rfl
  | cons e parameters ih =>
    obtain ⟨he, hrest⟩ := List.forall_mem_cons.mp h
    obtain ⟨c, text, hc⟩ : ∃ c text, writtenParameter e = c :: text :=
      List.exists_cons_of_ne_nil (List.append_ne_nil_of_right_ne_nil _ (List.cons_ne_nil _ _))
    have hread := readParameter_written he
    rw [hc] at hread
    rw [List.map_cons, hc, readParameters, hread]
    · exact ih hrest _
    · exact List.cons_ne_nil c text

variable {main sub : String} {parameters : List (String × String)}

theorem trimmedPieces_written (hmain : isToken main.toList = true)
    (hsub : isToken sub.toList = true)
    (hnames : ∀ e ∈ parameters, isToken e.1.toList = true)
    (hvalues : ∀ e ∈ parameters, ';' ∉ e.2.toList) :
    Text.trimmedPieces ';' (written main sub parameters).toList =
      (main.toList ++ '/' :: sub.toList) :: parameters.map writtenParameter := by
  have hmark : isTokenChar ';' = false := rfl
  have hfirst : ';' ∉ main.toList ++ '/' :: sub.toList := by
    simp [not_mem_of_isToken hmain hmark, not_mem_of_isToken hsub hmark]
  have hpieces : ∀ piece ∈ parameters.map fun e => ' ' :: writtenParameter e, ';' ∉ piece := by
    intro piece hp
    obtain ⟨e, he, rfl⟩ := List.mem_map.mp hp
    simp [writtenParameter, not_mem_of_isToken (hnames e he) hmark, hvalues e he]
  have hblank : ∀ c ∈ main.toList ++ '/' :: sub.toList, Text.isBlank c = false := by
    intro c hc
    rcases List.mem_append.mp hc with hc | hc
    · exact isBlank_of_isTokenChar ((isToken_iff.mp hmain).2 c hc)
    · rcases List.mem_cons.mp hc with rfl | hc
      · rfl
      · exact isBlank_of_isTokenChar ((isToken_iff.mp hsub).2 c hc)
  unfold Text.trimmedPieces written
  rw [String.toList_ofList, Text.splitAt_flatMap hfirst hpieces, List.map_cons, List.map_map]
  refine congrArg₂ _ (Text.trimWhile_eq_self hblank) (List.map_congr_left fun e he => ?_)
  exact trim_writtenParameter (hnames e he)

theorem lastValue?_charset (h : ∀ e ∈ parameters, Text.lowerText e.1 ≠ "charset") :
    lastValue? parameters "charset" = none := by
  refine Keyed.get?_eq_none fun hmem => ?_
  obtain ⟨e, he, hcharset⟩ := List.mem_map.mp hmem
  obtain ⟨d, hd, rfl⟩ := List.mem_map.mp (List.mem_reverse.mp he)
  exact h d hd hcharset

/-! ## What is read of it -/

theorem read_ok_iff {value : String} {r : String × Keyed String String} :
    read value = .ok r ↔ readPieces value (Text.trimmedPieces ';' value.toList) = .ok r := by
  unfold read
  split
  · rename_i h
    -- A blank text has one blank piece, which is no type and subtype.
    have hpieces : Text.trimmedPieces ';' value.toList = [[]] := by
      rw [← Text.trimmedPieces_trim rfl, List.isEmpty_iff.mp h]
      rfl
    rw [hpieces]
    exact iff_of_false (fun hr => by cases hr) fun hr => by cases hr
  · exact Iff.rfl

theorem exists_ofText {value : String} {r : String × Keyed String String}
    (h : read value = .ok r) :
    ∃ m, ofText value = .ok m ∧ m.essence = r.1 ∧ m.parameters = r.2 := by
  cases hm : ofText value with
  | ok m =>
    have hr := h.symm.trans (ofText_ok_iff.mp hm).2
    exact ⟨m, rfl, congrArg Prod.fst (Except.ok.inj hr).symm,
      congrArg Prod.snd (Except.ok.inj hr).symm⟩
  | error fault => cases h.symm.trans (ofText_error_iff.mp hm)

theorem readsBack_of_no_semicolon (hmain : isToken main.toList = true)
    (hsub : isToken sub.toList = true) (hnames : ∀ e ∈ parameters, isToken e.1.toList = true)
    (hcharset : ∀ e ∈ parameters, Text.lowerText e.1 ≠ "charset")
    (hvalues : ∀ e ∈ parameters, ';' ∉ e.2.toList) : ReadsBack main sub parameters := by
  have hget (name : String) : Keyed.get? (Keyed.putAll [] (lowered parameters)) name =
      lastValue? parameters name := by
    rw [Keyed.get?_putAll_reverse, Keyed.get?, Option.or_none]
    rfl
  have hread : read (written main sub parameters) =
      .ok (String.ofList (Text.lower (main.toList ++ '/' :: sub.toList)),
        Keyed.putAll [] (lowered parameters)) := by
    rw [read_ok_iff, trimmedPieces_written hmain hsub hnames hvalues, readPieces_eq,
      List.headD_cons, if_pos (isEssence_of_isToken hmain hsub), List.tail_cons,
      readParameters_written _ hnames]
    show (do checkParameters _ _; Except.ok _ : Result (String × Keyed String String)) = _
    rw [checkParameters, hget, lastValue?_charset hcharset]
    rfl
  obtain ⟨m, hm, he, hp⟩ := exists_ofText hread
  refine ⟨m, hm, ?_, fun name => hp ▸ hget name⟩
  rw [he, Text.lowerText]
  simp

theorem mem_of_mem_unquoted {c : Char} (h : c ∈ unquoted s) : c ∈ s := by
  unfold unquoted at h
  split at h
  · exact List.mem_of_mem_drop ((List.dropLast_sublist _).subset h)
  · exact h

theorem mem_of_readParameter {piece : List Char} {name v : String} {c : Char}
    (h : readParameter piece = some (name, v)) (hc : c ∈ v.toList) : c ∈ piece := by
  unfold readParameter at h
  split at h
  · rename_i front back hcut
    dsimp only at h
    split at h
    · cases h
      rw [String.toList_ofList] at hc
      rw [Text.cutAt_eq_some hcut]
      exact List.mem_append_right _
        (List.mem_cons_of_mem _ (Text.mem_of_mem_trim (mem_of_mem_unquoted hc)))
    · cases h
  · cases h

/-- A character that stands in no piece stands in no value. -/
theorem not_mem_of_readParameters {value : String} {pieces : List (List Char)} {c : Char}
    (hp : ∀ piece ∈ pieces, c ∉ piece) {known read : Keyed String String}
    (hk : ∀ e ∈ known, c ∉ e.2.toList) (h : readParameters value pieces known = .ok read) :
    ∀ e ∈ read, c ∉ e.2.toList := by
  induction pieces generalizing known with
  | nil =>
    cases h
    exact hk
  | cons piece pieces ih =>
    obtain ⟨hpiece, hrest⟩ := List.forall_mem_cons.mp hp
    cases piece with
    | nil => exact ih hrest hk h
    | cons d rest =>
      rw [readParameters] at h
      · split at h
        · rename_i name v hread
          refine ih hrest (fun e he => ?_) h
          rcases Keyed.mem_put he with rfl | he
          · exact mt (mem_of_readParameter hread) hpiece
          · exact hk e he
        · cases h
      · exact List.cons_ne_nil d rest

/-- No parameter that is read has a semicolon in its value. -/
theorem no_semicolon_of_ofText {value : String} {m : MediaType} (h : ofText value = .ok m) :
    ∀ e ∈ m.parameters, ';' ∉ e.2.toList := by
  have hpieces : ∀ piece ∈ Text.trimmedPieces ';' value.toList, ';' ∉ piece := by
    intro piece hp
    obtain ⟨raw, hraw, rfl⟩ := List.mem_map.mp hp
    exact mt Text.mem_of_mem_trim (Text.not_mem_of_mem_splitAt hraw)
  have hread := read_ok_iff.mp (ofText_ok_iff.mp h).2
  rw [readPieces_eq] at hread
  split at hread
  · obtain ⟨read, hr, hread⟩ := exists_of_bind_ok hread
    obtain ⟨-, -, hread⟩ := exists_of_bind_ok hread
    have hm : read = m.parameters := congrArg Prod.snd (Except.ok.inj hread)
    exact hm ▸ not_mem_of_readParameters
      (fun piece hp => hpieces piece (List.mem_of_mem_tail hp))
      (fun _ he => absurd he List.not_mem_nil) hr
  · cases hread

theorem ReadsBack.no_semicolon (h : ReadsBack main sub parameters) {name v : String}
    (hv : lastValue? parameters name = some v) : ';' ∉ v.toList := by
  obtain ⟨m, hm, -, hget⟩ := h
  exact no_semicolon_of_ofText hm _ (Keyed.mem_of_get? ((hget name).trans hv))

/-- Of names that differ in more than capitals no value is hidden by another. -/
theorem lastValue?_of_mem (hn : (Keyed.keys (lowered parameters)).Nodup) {e : String × String}
    (he : e ∈ parameters) : lastValue? parameters (Text.lowerText e.1) = some e.2 := by
  refine Keyed.get?_of_mem ?_ (List.mem_reverse.mpr (List.mem_map_of_mem he))
  rw [Keyed.keys, List.map_reverse]
  exact List.pairwise_reverse.mpr (hn.imp Ne.symm)

/-- Type, subtype and parameters are read back as they were written if no value has a semicolon in
it, and only if none has that is the last one of its name. -/
theorem written_readsBack (hmain : isToken main.toList = true) (hsub : isToken sub.toList = true)
    (hnames : ∀ e ∈ parameters, isToken e.1.toList = true)
    (hcharset : ∀ e ∈ parameters, Text.lowerText e.1 ≠ "charset") :
    ((∀ e ∈ parameters, ';' ∉ e.2.toList) → ReadsBack main sub parameters)
      ∧ (ReadsBack main sub parameters →
          ∀ name v, lastValue? parameters name = some v → ';' ∉ v.toList)
      ∧ ((Keyed.keys (lowered parameters)).Nodup →
          (ReadsBack main sub parameters ↔ ∀ e ∈ parameters, ';' ∉ e.2.toList)) := by
  have hback := readsBack_of_no_semicolon hmain hsub hnames hcharset
  refine ⟨hback, fun h _ _ hv => h.no_semicolon hv, fun hn => ⟨fun h e he => ?_, hback⟩⟩
  exact h.no_semicolon (lastValue?_of_mem hn he)

/-- A parameter may have any value but for semicolons, such as one with blanks at its ends, and a
name may come again in capitals. -/
theorem readsBack_repeated :
    ReadsBack "Text" "plain" [("title", " a=b, c "), ("Title", "d")]
      ∧ lastValue? [("title", " a=b, c "), ("Title", "d")] "title" = some "d" :=
  ⟨(written_readsBack (by decide) (by decide) (by decide) (by decide)).1 (by decide), by decide⟩

/-- The quotes do not keep a value with a semicolon in one piece. -/
theorem quoted_semicolon_misread :
    written "text" "plain" [("x", "a;b")] = "text/plain; x=\"a;b\""
      ∧ ofText "text/plain; x=\"a;b\"" =
        .error (.mediaTypeParameter "b\"" "text/plain; x=\"a;b\"")
      ∧ ¬ReadsBack "text" "plain" [("x", "a;b")] := by
  have hwritten : written "text" "plain" [("x", "a;b")] = "text/plain; x=\"a;b\"" := by decide
  have hfault : ofText "text/plain; x=\"a;b\"" =
      .error (.mediaTypeParameter "b\"" "text/plain; x=\"a;b\"") :=
    ofText_error_iff.mpr (by decide)
  refine ⟨hwritten, hfault, fun ⟨m, hm, _⟩ => ?_⟩
  rw [hwritten] at hm
  cases hfault.symm.trans hm

/-! ## Written into a header -/

open Editing PartDraft in
/-- The text of a media type that was read is read as the same media type, and so is the header of
any part it is written into: later bodies are encoded by it, and bodies without a media type of
their own are shown as it says. -/
theorem header_reads_same {value : String} {m : MediaType} (h : ofText value = .ok m)
    (p : PartDraft) (suited : String) :
    ofText m.text = .ok m
      ∧ (p.declare m.text).headers.contentType? = some m.text
      ∧ (perform (negotiate suited none) (p.declare m.text)).1 =
        .ok (m, m.charset p.config.defaultCharset)
      ∧ ∀ b : Body, b.mediaType = none →
        Document.declaredType b (p.declare m.text).headers = .ok (some m) := by
  have hagain : ofText m.text = .ok m := isRead_of_ofText h
  have hheader : (p.declare m.text).headers.contentType? = some m.text :=
    contentType?_declare p m.text
  refine ⟨hagain, hheader, ?_, fun b hb => ?_⟩
  · unfold negotiate
    rw [perform_bind, perform_get]
    dsimp only
    rw [hheader]
    dsimp only
    rw [hagain]
    rfl
  · unfold Document.declaredType
    rw [hb, hheader]
    dsimp only
    rw [hagain]

/-- Blank parameters and white space of any kind may stand around what is said. -/
theorem header_reads_same_padded : ∃ m,
    ofText "\u2003Text/XML ;; Charset = \"utf-8\" ;\u00a0" = .ok m
      ∧ m.text = "Text/XML ;; Charset = \"utf-8\" ;" ∧ ofText m.text = .ok m
      ∧ m.essence = "text/xml" ∧ m.charset "latin-1" = "utf-8" := by
  have hread : read "\u2003Text/XML ;; Charset = \"utf-8\" ;\u00a0" =
      .ok ("text/xml", [("charset", "utf-8")]) := by decide
  obtain ⟨m, hm, he, hp⟩ := exists_ofText hread
  have htext := (ofText_ok_iff.mp hm).1
  refine ⟨m, hm, htext.trans (by decide), (header_reads_same hm (.ofConfig .standard) "").1, he,
    ?_⟩
  rw [MediaType.charset, charset?, hp]
  rfl

end MediaType

end HttpContract
