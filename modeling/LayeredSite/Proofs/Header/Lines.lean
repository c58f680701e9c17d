import LayeredSite.Proofs.Reader.Header
import LayeredSite.Proofs.Text.Cutting

namespace LayeredSite

namespace Text

variable {line rest front behind : List Char}

/-- Along the lines of a text; only the last one can lack its newline. -/
theorem lines_induction {P : List Char → Prop} (nil : P [])
    (last : ∀ line, line ≠ [] → '\n' ∉ line → P line)
    (cons : ∀ line rest, '\n' ∉ line → P rest → P (line ++ '\n' :: rest)) (cs : List Char) :
    P cs := by
  by_cases hmem : '\n' ∈ cs
  · obtain ⟨line, rest, rfl, hline⟩ := List.eq_append_cons_of_mem hmem
    exact cons line rest hline (lines_induction nil last cons rest)
  · by_cases hnil : cs = []
    · exact hnil ▸ nil
    · exact last cs hnil hmem
termination_by cs.length
decreasing_by simp_all; omega

theorem lines_of_not_mem (hne : line ≠ []) (h : '\n' ∉ line) : lines line = [line] := by
  induction line with
  | nil => exact absurd rfl hne
  | cons c cs ih =>
    obtain ⟨hc, hcs⟩ := not_or.mp (mt List.mem_cons.mpr h)
    rw [lines, if_neg (Ne.symm hc)]
    by_cases hnil : cs = []
    · rw [hnil]
      rfl
    · rw [ih hnil hcs]

theorem lines_append_newline (h : '\n' ∉ line) (rest : List Char) :
    lines (line ++ '\n' :: rest) = (line ++ ['\n']) :: lines rest := by
  induction line with
  | nil => rw [List.nil_append, lines, if_pos rfl, List.nil_append]
  | cons c cs ih =>
    obtain ⟨hc, hcs⟩ := not_or.mp (mt List.mem_cons.mpr h)
    rw [List.cons_append, lines, if_neg (Ne.symm hc), ih hcs, List.cons_append]

/-- Empty, or with a newline at the end. -/
def IsWhole (cs : List Char) : Prop := ∀ c ∈ cs.getLast?, c = '\n'

theorem isWhole_append_newline : IsWhole (line ++ '\n' :: rest) ↔ IsWhole rest := by
  rw [IsWhole, List.getLast?_append, List.getLast?_cons, IsWhole]
  cases rest.getLast? <;> simp

theorem lines_append (h : IsWhole front) (behind : List Char) :
    lines (front ++ behind) = lines front ++ lines behind := by
  induction front using lines_induction with
  | nil => rfl
  | last line hne hline =>
    have hlast := List.getLast?_eq_some_getLast hne
    exact absurd (h _ hlast ▸ List.getLast_mem hne) hline
  | cons line rest hline ih =>
    rw [List.append_assoc, List.cons_append, lines_append_newline hline,
      ih (isWhole_append_newline.mp h), lines_append_newline hline, List.cons_append]

end Text

namespace Header

variable {line rest raw front behind : List Char}

def IsLine (line : List Char) : Prop := (∀ c ∈ line, Text.isBlank c = true) ∨
  ∃ blanks rest, line = blanks ++ ';' :: rest ∧ ∀ c ∈ blanks, Text.isBlank c = true

theorem isHeaderLine_eq_true_iff : isHeaderLine line = true ↔ IsLine line := by
  rw [isHeaderLine_iff]
  constructor
  · intro h
    have hsplit := List.takeWhile_append_dropWhile (p := Text.isBlank) (l := line)
    have hblanks : ∀ c ∈ line.takeWhile Text.isBlank, Text.isBlank c = true :=
      List.all_eq_true.mp List.all_takeWhile
    cases hd : line.dropWhile Text.isBlank with
    | nil => exact .inl (List.dropWhile_eq_nil_iff.mp hd)
    | cons c rest =>
      rw [hd] at hsplit h
      obtain rfl := h c rfl
      exact .inr ⟨_, rest, hsplit.symm, hblanks⟩
  · rintro (hblank | ⟨blanks, rest, rfl, hblanks⟩) c hc
    · rw [List.dropWhile_eq_nil_iff.mpr hblank] at hc
      cases hc
    · rw [List.dropWhile_append_of_pos hblanks] at hc
      exact (Option.some.inj hc).symm

def IsHeader (cs : List Char) : Prop := ∀ line ∈ Text.lines cs, IsLine line

theorem trim_newline (line : List Char) : Text.trim (line ++ ['\n']) = Text.trim line :=
  Text.trim_append_blank (List.forall_mem_singleton.mpr rfl) line

theorem isHeaderLine_newline (line : List Char) :
    isHeaderLine (line ++ ['\n']) = isHeaderLine line := by
  rw [isHeaderLine, trim_newline, isHeaderLine]

theorem setting?_newline (line : List Char) : setting? (line ++ ['\n']) = setting? line := by
  rw [setting?, trim_newline, setting?]

theorem headerLines_newline (hline : '\n' ∉ line) (h : isHeaderLine line = true)
    (rest : List Char) :
    headerLines (line ++ '\n' :: rest) = (line ++ ['\n']) :: headerLines rest := by
  rw [headerLines, Text.lines_append_newline hline,
    List.takeWhile_cons_of_pos ((isHeaderLine_newline line).trans h), headerLines]

theorem headerLines_newline_of_not (hline : '\n' ∉ line) (h : ¬ isHeaderLine line = true)
    (rest : List Char) : headerLines (line ++ '\n' :: rest) = [] := by
  rw [headerLines, Text.lines_append_newline hline, List.takeWhile_cons_of_neg]
  rwa [isHeaderLine_newline]

theorem bodyChars_newline (hline : '\n' ∉ line) (h : isHeaderLine line = true)
    (rest : List Char) : bodyChars (line ++ '\n' :: rest) = bodyChars rest := by
  rw [bodyChars, Text.lines_append_newline hline,
    List.dropWhile_cons_of_pos ((isHeaderLine_newline line).trans h), bodyChars]

/-- A text has no header exactly if its first line is not one of a header. -/
theorem headerLines_eq_nil_iff :
    headerLines raw = [] ↔ ∀ line ∈ (Text.lines raw).head?, ¬ IsLine line := by
  rw [headerLines]
  cases Text.lines raw with
  | nil => simp
  | cons line more =>
    simp only [List.takeWhile_eq_nil_iff, List.head?_cons, Option.mem_some_iff, forall_eq',
      ← isHeaderLine_eq_true_iff]
    simp

theorem bodyChars_of_headerLines (h : headerLines raw = []) : bodyChars raw = raw := by
  have hsplit := header_append_body raw
  rwa [headerChars, h, List.flatten_nil, List.nil_append] at hsplit

/-- The header of a text has its lines, they are whole or the text ends with them, and what follows
has no header. -/
structure Ends (raw : List Char) : Prop where
  lines : Text.lines (headerChars raw) = headerLines raw
  whole : Text.IsWhole (headerChars raw) ∨ bodyChars raw = []
  body : headerLines (bodyChars raw) = []

theorem Ends.of_none (h : headerLines raw = []) : Ends raw := by
  have hchars : headerChars raw = [] := by rw [headerChars, h, List.flatten_nil]
  refine ⟨?_, .inl ?_, ?_⟩
  · rw [hchars, h, Text.lines]
  · simp [hchars, Text.IsWhole]
  · rw [bodyChars_of_headerLines h, h]

theorem ends (raw : List Char) : Ends raw := by
  induction raw using Text.lines_induction with
  | nil => exact .of_none rfl
  | last line hne hline =>
    have hlines := Text.lines_of_not_mem hne hline
    by_cases h : isHeaderLine line = true
    · have hheader : headerLines line = [line] := by simp [headerLines, hlines, h]
      have hbody : bodyChars line = [] := by simp [bodyChars, hlines, h]
      refine ⟨?_, .inr hbody, hbody ▸ rfl⟩
      rw [headerChars, hheader, List.flatten_singleton, hlines]
    · exact .of_none (by simp [headerLines, hlines, h])
  | cons line rest hline ih =>
    by_cases h : isHeaderLine line = true
    · have hchars : headerChars (line ++ '\n' :: rest) = line ++ '\n' :: headerChars rest := by
        rw [headerChars, headerLines_newline hline h, List.flatten_cons, List.append_assoc,
          List.singleton_append, headerChars]
      refine ⟨?_, ?_, ?_⟩
      · rw [hchars, Text.lines_append_newline hline, headerLines_newline hline h, ih.lines]
      · rw [hchars, bodyChars_newline hline h, Text.isWhole_append_newline]
        exact ih.whole
      · rw [bodyChars_newline hline h]
        exact ih.body
    · exact .of_none (headerLines_newline_of_not hline h rest)

/-- Whole header lines in front of a text are in front of its header. -/
theorem headerLines_append (h : IsHeader front) (hwhole : Text.IsWhole front)
    (behind : List Char) :
    headerLines (front ++ behind) = Text.lines front ++ headerLines behind := by
  rw [headerLines, Text.lines_append hwhole, List.takeWhile_append_of_pos, headerLines]
  exact fun line hline => isHeaderLine_eq_true_iff.mpr (h line hline)

theorem bodyChars_append (h : IsHeader front) (hwhole : Text.IsWhole front)
    (behind : List Char) : bodyChars (front ++ behind) = bodyChars behind := by
  rw [bodyChars, Text.lines_append hwhole, List.dropWhile_append_of_pos, bodyChars]
  exact fun line hline => isHeaderLine_eq_true_iff.mpr (h line hline)

theorem headerLines_of_isHeader (h : IsHeader raw) : headerLines raw = Text.lines raw := by
  rw [headerLines, List.takeWhile_eq_self_iff]
  exact fun line hline => isHeaderLine_eq_true_iff.mpr (h line hline)

theorem isHeader_headerChars (raw : List Char) : IsHeader (headerChars raw) := by
  intro line hline
  rw [(ends raw).lines] at hline
  exact isHeaderLine_eq_true_iff.mp (List.mem_takeWhile_imp hline)

/-- The header is the longest run of whole header lines in front of a text. -/
theorem isPrefix_headerChars (h : IsHeader front) (hends : Text.IsWhole front ∨ behind = []) :
    front <+: headerChars (front ++ behind) := by
  rcases hends with hwhole | rfl
  · rw [headerChars, headerLines_append h hwhole, List.flatten_append, Text.lines_flatten]
    exact List.prefix_append _ _
  · have hchars : headerChars front = front := by
      rw [headerChars, headerLines_of_isHeader h, Text.lines_flatten]
    simp [hchars]

end Header
end LayeredSite
