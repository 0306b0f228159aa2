/-
Header lines between the caller and the wire.

A buffered call gets its headers as `Name: Value` lines and returns those of the
response in the same form.  Reading a list of lines is a fold that skips some and
appends the others; `buildForwardHeaders_eq` turns it into a filter, and what a
name gets and how two lists combine are read off that.

The writer and the reader use different conventions: one decodes bytes and puts a
colon and a space between name and value, the other splits at the first colon,
trims and encodes again.  `parseHeaderLine_line` is where the two meet.
-/
import TlsPlus.Proxy.Forward
import TlsPlus.Proofs.Proxy.Headers

namespace TlsPlus

open Text

/-! ### Reading one line -/

/-- The value a line has for the header `n`: the trimmed text after its first colon, if the
trimmed text before is that name in any letter case and a value can be made of it. -/
def fieldValue (n : HeaderName) (line : Str) : Option HeaderValue :=
  if ':' ∈ line ∧ eqIgnoreAsciiCase (trim (line.takeWhile (· ≠ ':'))) n.text = true then
    HeaderValue.parse (trim ((line.dropWhile (· ≠ ':')).drop 1))
  else none

theorem HeaderName.parse_eq_some_iff {s : Str} {n : HeaderName} :
    HeaderName.parse s = some n ↔ eqIgnoreAsciiCase s n.text = true := by
  rw [eqIgnoreAsciiCase_iff, n.toAsciiLowercase_text]
  unfold HeaderName.parse
  constructor
  · intro h
    simp only at h
    split at h
    · exact congrArg HeaderName.text (Option.some.inj h)
    · exact absurd h (by simp)
  · intro h
    have hvalid : toAsciiLowercase s ≠ [] ∧ (toAsciiLowercase s).length < UInt16.size ∧
        (toAsciiLowercase s).all isHeaderNameChar = true := by
      rw [h]
      exact n.valid
    simp only [dif_pos hvalid, Option.some.injEq]
    exact HeaderName.ext h

/-- A line without a colon is no header. -/
theorem parseHeaderLine_of_not_mem {line : Str} (h : ':' ∉ line) : parseHeaderLine line = none := by
  have hsplit : splitOnce (":" : Str) line = none := by
    by_contra hsome
    obtain ⟨⟨before, after⟩, hfound⟩ := Option.ne_none_iff_exists'.mp hsome
    obtain ⟨rfl, -⟩ := (splitOnce_singleton (c := ':')).mp hfound
    exact h (by simp)
  unfold parseHeaderLine
  rw [hsplit]

/-- A line is split at its first colon. -/
theorem parseHeaderLine_append {before : Str} (h : ':' ∉ before) (after : Str) :
    parseHeaderLine (before ++ ':' :: after)
      = (HeaderName.parse (trim before)).bind fun name =>
          (HeaderValue.parse (trim after)).map fun value => (name, value) := by
  have hsplit : splitOnce (":" : Str) (before ++ ':' :: after) = some (before, after) :=
    splitOnce_singleton.mpr ⟨rfl, h⟩
  unfold parseHeaderLine
  rw [hsplit]
  simp only
  cases HeaderName.parse (trim before) with
  | none => rfl
  | some name => cases HeaderValue.parse (trim after) with
    | none => rfl
    | some value => rfl

theorem fieldValue_append {before : Str} (h : ':' ∉ before) (after : Str) (n : HeaderName) :
    fieldValue n (before ++ ':' :: after)
      = if HeaderName.parse (trim before) = some n then HeaderValue.parse (trim after)
        else none := by
  have hall : ∀ c ∈ before, decide (c ≠ ':') = true := by
    intro c hc
    rw [decide_eq_true_eq]
    exact fun heq => h (heq ▸ hc)
  have htake : (before ++ ':' :: after).takeWhile (· ≠ ':') = before := by
    rw [List.takeWhile_append_of_pos hall, List.takeWhile_cons_of_neg (by simp), List.append_nil]
  have hdrop : (before ++ ':' :: after).dropWhile (· ≠ ':') = ':' :: after := by
    rw [List.dropWhile_append_of_pos hall, List.dropWhile_cons_of_neg (by simp)]
  unfold fieldValue
  rw [htake, hdrop]
  by_cases hname : HeaderName.parse (trim before) = some n
  · rw [if_pos hname, if_pos ⟨by simp, HeaderName.parse_eq_some_iff.mp hname⟩]
    rfl
  · rw [if_neg hname, if_neg fun hline => hname (HeaderName.parse_eq_some_iff.mpr hline.2)]

/-- **A line is read as one field**, that of the name it has a value for. -/
theorem parseHeaderLine_eq_some_iff {line : Str} {n : HeaderName} {v : HeaderValue} :
    parseHeaderLine line = some (n, v) ↔ fieldValue n line = some v := by
  by_cases hcolon : ':' ∈ line
  · obtain ⟨before, after, rfl, hbefore⟩ := List.eq_append_cons_of_mem hcolon
    rw [parseHeaderLine_append hbefore, fieldValue_append hbefore]
    cases hname : HeaderName.parse (trim before) with
    | none => simp
    | some name =>
        by_cases heq : name = n
        · subst heq
          simp
        · simp [heq]
  · rw [parseHeaderLine_of_not_mem hcolon]
    unfold fieldValue
    rw [if_neg fun h => hcolon h.1]
    simp

/-! ### Reading a list of lines -/

/-- **The loop is a filter**: each line that is a field is appended, the others are skipped. -/
theorem buildForwardHeaders_eq (lines : List Str) :
    buildForwardHeaders lines = ⟨lines.filterMap parseHeaderLine⟩ := by
  induction lines using List.reverseRecOn with
  | nil => rfl
  | append_singleton rest line ih =>
      unfold buildForwardHeaders at ih ⊢
      rw [List.foldl_append, ih, List.filterMap_append]
      cases hline : parseHeaderLine line with
      | none => simp [hline]
      | some field => simp [hline, Multimap.append]

/-- What a name gets from a list of lines. -/
theorem getAll_buildForwardHeaders (lines : List Str) (n : HeaderName) :
    (buildForwardHeaders lines).getAll n = lines.filterMap (fieldValue n) := by
  rw [buildForwardHeaders_eq]
  show ((lines.filterMap parseHeaderLine).filter fun e => e.1 = n).map Prod.snd = _
  rw [List.filter_filterMap, List.map_filterMap]
  refine List.filterMap_congr fun line _ => ?_
  ext v
  rw [← parseHeaderLine_eq_some_iff]
  cases parseHeaderLine line with
  | none => simp
  | some field =>
      obtain ⟨name, value⟩ := field
      by_cases hname : name = n
      · simp [hname]
      · simp [hname]

/-- Two lists of lines in a row. -/
theorem buildForwardHeaders_append (lines more : List Str) :
    buildForwardHeaders (lines ++ more)
      = (buildForwardHeaders lines).extend (buildForwardHeaders more) := by
  rw [Multimap.extend_eq, buildForwardHeaders_eq, buildForwardHeaders_eq, buildForwardHeaders_eq,
    List.filterMap_append]

/-- A line that has a value for no name is skipped. -/
theorem parseHeaderLine_eq_none {line : Str} (h : ∀ n, fieldValue n line = none) :
    parseHeaderLine line = none := by
  by_contra hsome
  obtain ⟨⟨n, v⟩, hfield⟩ := Option.ne_none_iff_exists'.mp hsome
  rw [parseHeaderLine_eq_some_iff, h n] at hfield
  exact absurd hfield (by simp)

/-- **Header lines, decoded.** Every name gets, in the order of the lines, the values of the lines
that have one for it.  A line makes one field at most, a line that makes none can be left out, and
lists in a row are decoded one after the other. -/
theorem header_lines_decoded (lines : List Str) :
    (∀ n, (buildForwardHeaders lines).getAll n = lines.filterMap (fieldValue n)) ∧
    (∀ line, (buildForwardHeaders [line]).entries.length ≤ 1) ∧
    (∀ line more, (∀ n, fieldValue n line = none) →
      buildForwardHeaders (lines ++ line :: more) = buildForwardHeaders (lines ++ more)) ∧
    ∀ more, buildForwardHeaders (lines ++ more)
        = (buildForwardHeaders lines).extend (buildForwardHeaders more) ∧
      ∀ n, (buildForwardHeaders (lines ++ more)).getAll n
        = (buildForwardHeaders lines).getAll n ++ (buildForwardHeaders more).getAll n := by
  refine ⟨getAll_buildForwardHeaders lines, ?_, ?_, ?_⟩
  · intro line
    rw [buildForwardHeaders_eq]
    exact List.length_filterMap_le _ _
  · intro line more hnone
    rw [buildForwardHeaders_eq, buildForwardHeaders_eq, List.filterMap_append,
      List.filterMap_cons_none (parseHeaderLine_eq_none hnone), List.filterMap_append]
  · intro more
    refine ⟨buildForwardHeaders_append lines more, fun n => ?_⟩
    rw [buildForwardHeaders_append, Multimap.getAll_extend]

/-! ### Writing and reading -/

/-- A value that is text without white space around it. -/
def TextValue (value : HeaderValue) : Prop :=
  ∃ s, value.bytes = utf8Encode s ∧ trim s = s

theorem trim_name (name : HeaderName) : trim name.text = name.text := by
  refine trim_eq_self_of_forall fun c hc => ?_
  exact isWhitespace_of_visible (isHeaderNameChar_range (List.all_eq_true.mp name.valid.2.2 c hc)).1

theorem colon_not_mem_name (name : HeaderName) : ':' ∉ name.text := by
  intro hmem
  exact (isHeaderNameChar_range (List.all_eq_true.mp name.valid.2.2 ':' hmem)).2.2 rfl

/-- **A field's line reads as the field.** No name has a colon, so the line is split where it was
put together, also if the value has one. -/
theorem parseHeaderLine_line (name : HeaderName) {value : HeaderValue} (h : TextValue value) :
    parseHeaderLine (name.text ++ ": " ++ fromUtf8Lossy value.bytes) = some (name, value) := by
  obtain ⟨s, hbytes, htrim⟩ := h
  have hline : name.text ++ ": " ++ fromUtf8Lossy value.bytes = name.text ++ ':' :: ' ' :: s := by
    rw [hbytes, fromUtf8Lossy_utf8Encode, List.append_assoc]
    rfl
  have hname : HeaderName.parse name.text = some name := by
    rw [HeaderName.parse_eq_some_iff]
    exact eqIgnoreAsciiCase_refl name.text
  have hvalue : HeaderValue.parse s = some value := by
    have hvalid : (utf8Encode s).all isHeaderValueByte = true := hbytes ▸ value.valid
    obtain ⟨bytes, valid⟩ := value
    subst hbytes
    exact dif_pos hvalid
  rw [hline, parseHeaderLine_append (colon_not_mem_name name), trim_name, hname,
    trim_cons (by decide), htrim, hvalue]
  rfl

/-- **The line format round-trips.** Reading the lines of a header map whose values are all text
without white space around it gives the map back, less its transfer-encoding. -/
theorem header_lines_roundtrip {headers : HeaderMap}
    (hvalues : ∀ field ∈ headers.entries, TextValue field.2) :
    buildForwardHeaders (responseHeaderLines headers) = headers.remove .transferEncoding ∧
    ∀ n, (buildForwardHeaders (responseHeaderLines headers)).getAll n
      = if n = .transferEncoding then [] else headers.getAll n := by
  have hkept : ∀ field : HeaderName × HeaderValue,
      decide (field.1.text ≠ ("transfer-encoding" : Str))
        = decide (field.1 ≠ .transferEncoding) := by
    intro field
    refine decide_eq_decide.mpr (not_congr ⟨fun h => HeaderName.ext h, fun h => ?_⟩)
    rw [h]
    rfl
  have hmap : buildForwardHeaders (responseHeaderLines headers)
      = headers.remove .transferEncoding := by
    rw [buildForwardHeaders_eq]
    unfold responseHeaderLines Multimap.remove Multimap.iter
    simp only [hkept]
    rw [List.filterMap_map]
    congr 1
    refine (List.filterMap_congr fun field hfield => ?_).trans (List.filterMap_some)
    exact parseHeaderLine_line field.1 (hvalues field (List.mem_filter.mp hfield).1)
  refine ⟨hmap, fun n => ?_⟩
  rw [hmap, Multimap.getAll_remove]
  simp only [eq_comm]

/-- A repeated name around another, an empty value, a colon in a value, a letter beyond ASCII. -/
def sampleHeaderMap : HeaderMap := ⟨[(.host, .fromStatic "::1"), (.upgrade, .fromStatic ""),
  (.transferEncoding, .fromStatic "gzip"), (.host, ⟨utf8Encode "é", by decide⟩)]⟩

theorem header_lines_roundtrip_sample :
    (buildForwardHeaders (responseHeaderLines sampleHeaderMap)).getAll .host
        = [.fromStatic "::1", ⟨utf8Encode "é", by decide⟩] ∧
      (buildForwardHeaders (responseHeaderLines sampleHeaderMap)).getAll .transferEncoding = [] := by
  have hvalues : ∀ field ∈ sampleHeaderMap.entries, TextValue field.2 := by
    simp only [sampleHeaderMap, List.mem_cons, List.not_mem_nil, or_false, forall_eq_or_imp,
      forall_eq]
    exact ⟨⟨"::1", by decide, by decide⟩, ⟨"", by decide, by decide⟩,
      ⟨"gzip", by decide, by decide⟩, ⟨"é", rfl, by decide⟩⟩
  obtain ⟨-, hgetAll⟩ := header_lines_roundtrip hvalues
  refine ⟨(hgetAll .host).trans ?_, hgetAll .transferEncoding⟩
  decide

end TlsPlus
