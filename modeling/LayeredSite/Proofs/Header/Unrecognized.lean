import LayeredSite.Proofs.Header.Settings

namespace LayeredSite.Header

open Text

variable {raw row : List Char} {rs before behind : List (List Char)} {o : DocumentOptions}

/-- The lines of a text without their newlines; behind a last newline there is an empty one. -/
def rows (raw : List Char) : List (List Char) := raw.splitOn '\n'

def ofRows (rs : List (List Char)) : List Char := ['\n'].intercalate rs

theorem rows_of_not_mem (h : '\n' ∉ row) : rows row = [row] := List.splitOn_eq_singleton h

theorem rows_append_newline (h : '\n' ∉ row) (rest : List Char) :
    rows (row ++ '\n' :: rest) = row :: rows rest :=
  List.splitOn_append_cons_self_of_not_mem h rest

theorem not_mem_of_mem_rows (h : row ∈ rows raw) : '\n' ∉ row := by
  induction raw using lines_induction with
  | nil => simp_all [rows]
  | last line hne hline =>
    rw [rows_of_not_mem hline, List.mem_singleton] at h
    exact h ▸ hline
  | cons line rest hline ih =>
    rw [rows_append_newline hline, List.mem_cons] at h
    exact h.elim (fun h => h ▸ hline) ih

theorem rows_ofRows (hne : rs ≠ []) (h : ∀ row ∈ rs, '\n' ∉ row) : rows (ofRows rs) = rs :=
  List.splitOn_intercalate '\n' h hne

theorem ofRows_rows (raw : List Char) : ofRows (rows raw) = raw := List.intercalate_splitOn '\n'

def headerRows (raw : List Char) : List (List Char) := (rows raw).takeWhile isHeaderLine

theorem applyLine_newline (o : DocumentOptions) (row : List Char) :
    applyLine o (row ++ ['\n']) = applyLine o row := by
  rw [applyLine, setting?_newline, applyLine]

/-- What the header lines of a text do is what its header rows do. -/
theorem foldl_headerRows (raw : List Char) (o : DocumentOptions) :
    (headerRows raw).foldl applyLine o = (headerLines raw).foldl applyLine o := by
  induction raw using lines_induction generalizing o with
  | nil => rfl
  | last line hne hline =>
    rw [headerRows, rows_of_not_mem hline, headerLines, lines_of_not_mem hne hline]
  | cons line rest hline ih =>
    by_cases h : isHeaderLine line = true
    · rw [headerLines_newline hline h, headerRows, rows_append_newline hline,
        List.takeWhile_cons_of_pos h, List.foldl_cons, List.foldl_cons, applyLine_newline]
      exact ih _
    · rw [headerLines_newline_of_not hline h, headerRows, rows_append_newline hline,
        List.takeWhile_cons_of_neg h]

/-- The body has the rows behind the header rows. -/
theorem bodyChars_eq_ofRows (raw : List Char) :
    bodyChars raw = ofRows ((rows raw).dropWhile isHeaderLine) := by
  induction raw using lines_induction with
  | nil => rfl
  | last line hne hline =>
    rw [rows_of_not_mem hline, bodyChars, lines_of_not_mem hne hline]
    by_cases h : isHeaderLine line = true <;> simp [h, ofRows]
  | cons line rest hline ih =>
    by_cases h : isHeaderLine line = true
    · rw [bodyChars_newline hline h, ih, rows_append_newline hline, List.dropWhile_cons_of_pos h]
    · rw [bodyChars_of_headerLines (headerLines_newline_of_not hline h rest),
        rows_append_newline hline, List.dropWhile_cons_of_neg h, ← rows_append_newline hline,
        ofRows_rows]

/-- A text with a line more, behind a number of its lines. -/
def insertRow (raw : String) (k : ℕ) (row : List Char) : String :=
  String.ofList (ofRows ((rows raw.toList).take k ++ row :: (rows raw.toList).drop k))

theorem rows_insertRow (hrow : '\n' ∉ row) (raw : String) (k : ℕ) :
    rows (insertRow raw k row).toList =
      (rows raw.toList).take k ++ row :: (rows raw.toList).drop k := by
  rw [insertRow, String.toList_ofList, rows_ofRows (by simp)]
  intro r hr
  rcases List.mem_append.mp hr with hr | hr
  · exact not_mem_of_mem_rows ((List.take_subset _ _) hr)
  · rcases List.mem_cons.mp hr with rfl | hr
    · exact hrow
    · exact not_mem_of_mem_rows ((List.drop_subset _ _) hr)

/-- A header line among those of the header is one of them, and the body has the same rows. -/
theorem headerRows_insertRow {raw : String} {k : ℕ} (hrow : '\n' ∉ row)
    (hline : isHeaderLine row = true) (hk : k ≤ (headerRows raw.toList).length) :
    headerRows (insertRow raw k row).toList =
        (headerRows raw.toList).take k ++ row :: (headerRows raw.toList).drop k ∧
      bodyChars (insertRow raw k row).toList = bodyChars raw.toList := by
  have hsplit : headerRows raw.toList ++ (rows raw.toList).dropWhile isHeaderLine =
      rows raw.toList := List.takeWhile_append_dropWhile
  have hheader : ∀ r ∈ headerRows raw.toList, isHeaderLine r = true := fun r =>
    List.mem_takeWhile_imp
  have hrows := rows_insertRow hrow raw k
  rw [bodyChars_eq_ofRows, bodyChars_eq_ofRows, headerRows, hrows]
  rw [← hsplit, List.take_append_of_le_length hk, List.drop_append_of_le_length hk,
    ← List.cons_append, ← List.append_assoc]
  generalize headerRows raw.toList = header at hheader hk
  generalize rows raw.toList = rs
  have hall : ∀ r ∈ header.take k ++ row :: header.drop k, isHeaderLine r = true := by
    simp only [List.mem_append, List.mem_cons]
    rintro r (hr | rfl | hr)
    · exact hheader r (List.take_subset _ _ hr)
    · exact hline
    · exact hheader r (List.drop_subset _ _ hr)
  have hnone : (rs.dropWhile isHeaderLine).takeWhile isHeaderLine = [] := by
    rw [List.takeWhile_eq_nil_iff]
    intro hpos
    exact List.dropWhile_get_zero_not _ _ hpos
  rw [List.takeWhile_append_of_pos hall, List.dropWhile_append_of_pos hall, hnone,
    List.append_nil, List.dropWhile_append_of_pos hheader, List.dropWhile_idempotent]
  exact ⟨rfl, rfl⟩

def optionKeys : List String := ["layout", "title", "tag", "tags", "format", "date"]

def OtherFormat (row : List Char) : Prop := ∃ k v, Keyed row k v ∧
  String.ofList (trim k) = "format" ∧
    ∀ f : Dialect, String.ofList ((trim v).map Char.toLower) ≠ f.name

/-- A header line without a known key and a usable value. -/
inductive Unrecognized : List Char → Prop
  | blank {row : List Char} : (∀ c ∈ row, isBlank c = true) → Unrecognized row
  | remark {row : List Char} : IsLine row → ':' ∉ row → Unrecognized row
  | noKey {row k v : List Char} : Keyed row k v → (∀ c ∈ k, isBlank c = true) → Unrecognized row
  | phrase {row k v : List Char} {c : Char} : Keyed row k v → c ∈ trim k → isBlank c = true →
      Unrecognized row
  | otherKey {row k v : List Char} : Keyed row k v → String.ofList (trim k) ∉ optionKeys →
      Unrecognized row
  | noLayout {row k v : List Char} : Keyed row k v → String.ofList (trim k) = "layout" →
      (∀ c ∈ v, isBlank c = true) → Unrecognized row
  | otherFormat {row : List Char} : OtherFormat row → Unrecognized row

theorem Keyed.isLine {k v : List Char} (h : Keyed row k v) : IsLine row := by
  cases h with
  | @of blanks semicolons _ _ hblanks hne hsemicolons hk hcolon =>
    obtain ⟨c, more, rfl⟩ := List.exists_cons_of_ne_nil hne
    obtain ⟨rfl, -⟩ := List.forall_mem_cons.mp hsemicolons
    exact .inr ⟨blanks, more ++ k ++ ':' :: v, by simp, hblanks⟩

theorem Unrecognized.isLine (h : Unrecognized row) : IsLine row := by
  cases h with
  | blank h => exact .inl h
  | remark h _ => exact h
  | noKey h _ => exact h.isLine
  | phrase h _ _ => exact h.isLine
  | otherKey h _ => exact h.isLine
  | noLayout h _ _ => exact h.isLine
  | otherFormat h =>
    obtain ⟨k, v, h, -⟩ := h
    exact h.isLine

theorem set_of_not_mem {key : String} (h : key ∉ optionKeys) (o : DocumentOptions)
    (value : List Char) : o.set key value = o := by
  simp only [optionKeys, List.mem_cons, not_or] at h
  unfold DocumentOptions.set
  split <;> simp_all

theorem applyLine_of_none (h : setting? row = none) (o : DocumentOptions) :
    applyLine o row = o := by
  rw [applyLine, h]

/-- A line with a key that is no option or no key at all, or with a value that sets nothing. -/
theorem Keyed.applyLine {k v : List Char} (h : Keyed row k v)
    (hset : ∀ o : DocumentOptions, o.set (String.ofList (trim k)) (trim v) = o)
    (o : DocumentOptions) : applyLine o row = o := by
  rw [Header.applyLine, h.setting?]
  split
  · rename_i heq
    split_ifs at heq
    obtain ⟨rfl, rfl⟩ := Prod.mk.inj (Option.some.inj heq)
    exact hset o
  · rfl

/-- A line that is not recognized changes no options, if it is not one with a format. -/
theorem Unrecognized.applyLine (h : Unrecognized row) (hformat : ¬ OtherFormat row)
    (o : DocumentOptions) : applyLine o row = o := by
  cases h with
  | blank h => exact applyLine_of_none (setting?_of_not_mem fun hc => absurd (h _ hc) (by decide)) o
  | remark _ h => exact applyLine_of_none (setting?_of_not_mem h) o
  | noKey h hk => exact applyLine_of_none (by rw [h.setting?, trim_of_blank hk]; rfl) o
  | phrase h hc hblank =>
    refine applyLine_of_none ?_ o
    rw [h.setting?, if_pos]
    simp only [Bool.or_eq_true, List.any_eq_true]
    exact .inr ⟨_, hc, hblank⟩
  | otherKey h hk => exact h.applyLine (fun o => set_of_not_mem hk o _) o
  | noLayout h hk hv => exact h.applyLine (fun o => by rw [hk, trim_of_blank hv]; rfl) o
  | otherFormat h => exact absurd h hformat

/-- A format that is not the name of a dialect takes away the one there is. -/
theorem OtherFormat.applyLine (h : OtherFormat row) (o : DocumentOptions) :
    applyLine o row = { o with format := none } := by
  obtain ⟨k, v, h, hk, hv⟩ := h
  have hkey : ((trim k).isEmpty || (trim k).any isBlank) = false := by
    rw [← String.toList_ofList (l := trim k), hk]
    decide
  rw [Header.applyLine, h.setting?, hkey, hk]
  exact congrArg (fun f => { o with format := f }) (Dialect.ofName?_of_ne hv)

/-- The loss of a format goes through lines exactly if none of them has a format. -/
theorem after_format_none (o : DocumentOptions) (lines : List (List Char)) :
    ({ o with format := none } : DocumentOptions).after lines = o.after lines ↔
      o.format = none ∨ values ["format"] lines ≠ [] := by
  simp only [DocumentOptions.after, DocumentOptions.mk.injEq, true_and, and_true]
  cases h : (values ["format"] lines).getLast? with
  | none => simp [List.getLast?_eq_none_iff.mp h, eq_comm]
  | some v =>
    have hne : values ["format"] lines ≠ [] := by
      rintro hnil
      simp [hnil] at h
    simp [hne]

/-- A line that is not recognized can stand at any place of a header and leaves the body as it is.
It leaves the options as they are unless it has a format that is not the name of a dialect, lines in
front of it have set the format, and no line of the header behind it does so again. -/
theorem insertRow_unrecognized (raw : String) (k : ℕ) (hk : k ≤ (headerRows raw.toList).length)
    (hrow : '\n' ∉ row) (h : Unrecognized row) :
    (parse (insertRow raw k row)).2 = (parse raw).2 ∧
      ((parse (insertRow raw k row)).1 = (parse raw).1 ↔
        ¬ (OtherFormat row ∧
          (({} : DocumentOptions).after ((headerRows raw.toList).take k)).format ≠ none ∧
          values ["format"] ((headerRows raw.toList).drop k) = [])) := by
  obtain ⟨hheader, hbody⟩ :=
    headerRows_insertRow hrow (isHeaderLine_eq_true_iff.mpr h.isLine) hk
  refine ⟨by rw [parse, parse, hbody], ?_⟩
  -- Both headers are the same lines in front of the place and behind it, so only the line between
  -- them matters.
  have hraw : (parse raw).1 = (({} : DocumentOptions).after ((headerRows raw.toList).take k)).after
      ((headerRows raw.toList).drop k) := by
    rw [parse, optionsOf, ← foldl_headerRows, ← foldl_applyLine, ← foldl_applyLine,
      ← List.foldl_append, List.take_append_drop]
  have hinserted : (parse (insertRow raw k row)).1 =
      (Header.applyLine (({} : DocumentOptions).after ((headerRows raw.toList).take k)) row).after
        ((headerRows raw.toList).drop k) := by
    rw [parse, optionsOf, ← foldl_headerRows, hheader, ← foldl_applyLine, ← foldl_applyLine,
      List.foldl_append, List.foldl_cons]
  rw [hraw, hinserted]
  by_cases hformat : OtherFormat row
  · rw [hformat.applyLine, after_format_none]
    simp only [hformat, true_and, not_and_or, ne_eq, not_not]
  · simp [h.applyLine hformat, hformat]

theorem otherFormat_sgml : OtherFormat ";format:sgml".toList := by
  have hkeyed := @Keyed.of [] [';'] "format".toList "sgml".toList (by simp) (by simp) (by simp)
    (by decide) (by decide)
  refine ⟨_, _, hkeyed, by decide, fun f => ?_⟩
  cases f <;> decide

/-- Between two formats it changes nothing. -/
theorem sgml_between_formats :
    1 ≤ (headerRows ";format:html5\n;Format: x\n;format:xhtml\n[:p]".toList).length ∧
      '\n' ∉ ";format:sgml".toList ∧ Unrecognized ";format:sgml".toList ∧
      parse (insertRow ";format:html5\n;Format: x\n;format:xhtml\n[:p]" 1 ";format:sgml".toList) =
        parse ";format:html5\n;Format: x\n;format:xhtml\n[:p]" := by
  have hk : 1 ≤ (headerRows ";format:html5\n;Format: x\n;format:xhtml\n[:p]".toList).length := by
    decide +kernel
  have hrow : '\n' ∉ ";format:sgml".toList := by decide
  have hline := Unrecognized.otherFormat otherFormat_sgml
  obtain ⟨hbody, hoptions⟩ := insertRow_unrecognized _ 1 hk hrow hline
  refine ⟨hk, hrow, hline, Prod.ext (hoptions.mpr ?_) hbody⟩
  rintro ⟨-, -, hnone⟩
  exact absurd hnone (by decide +kernel)

/-- Behind the one format it takes the format away. -/
theorem sgml_behind_format :
    1 ≤ (headerRows ";format:xhtml\n[:p]".toList).length ∧
      '\n' ∉ ";format:sgml".toList ∧ Unrecognized ";format:sgml".toList ∧
      insertRow ";format:xhtml\n[:p]" 1 ";format:sgml".toList =
        ";format:xhtml\n;format:sgml\n[:p]" ∧
      parse ";format:xhtml\n[:p]" = ({ format := some .xhtml }, "[:p]") ∧
      parse ";format:xhtml\n;format:sgml\n[:p]" = ({}, "[:p]") := by
  refine ⟨?_, ?_, .otherFormat otherFormat_sgml, ?_, ?_, ?_⟩ <;> decide +kernel

end LayeredSite.Header
