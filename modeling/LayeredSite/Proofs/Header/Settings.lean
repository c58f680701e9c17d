import LayeredSite.Proofs.Header.Lines

namespace LayeredSite

namespace Header

open Text

variable {line k v : List Char}

/-- A header line with a colon: what stands between the semicolons and the first colon, and what
stands behind it. -/
inductive Keyed : List Char → List Char → List Char → Prop
  | of {blanks semicolons k v : List Char} : (∀ c ∈ blanks, isBlank c = true) → semicolons ≠ [] →
      (∀ c ∈ semicolons, c = ';') → k.head? ≠ some ';' → ':' ∉ k →
      Keyed (blanks ++ semicolons ++ k ++ ':' :: v) k v

theorem Keyed.setting? (h : Keyed line k v) :
    setting? line = if (trim k).isEmpty || (trim k).any isBlank then none
      else some (String.ofList (trim k), trim v) := by
  cases h with
  | @of blanks semicolons _ _ hblanks hne hsemicolons hk hcolon =>
    have htrim : trim (blanks ++ semicolons ++ k ++ ':' :: v) =
        semicolons ++ (k ++ ':' :: trimEnd v) := by
      obtain ⟨c, more, rfl⟩ := List.exists_cons_of_ne_nil hne
      obtain ⟨rfl, -⟩ := List.forall_mem_cons.mp hsemicolons
      rw [trim, List.append_assoc, List.append_assoc, trimStart_append_blank hblanks,
        List.cons_append, trimStart, List.dropWhile_cons_of_neg (by decide), ← List.cons_append,
        ← List.append_assoc, trimEnd_append_cons (by decide), List.append_assoc]
    have hdrop : (semicolons ++ (k ++ ':' :: trimEnd v)).dropWhile (· == ';') =
        k ++ ':' :: trimEnd v := by
      rw [List.dropWhile_append_of_pos fun c hc => beq_iff_eq.mpr (hsemicolons c hc)]
      cases k with
      | nil => rfl
      | cons c k => exact List.dropWhile_cons_of_neg (by simpa using hk)
    have hnotin : ':' ∉ trimStart k := fun h => hcolon ((List.dropWhile_sublist _).subset h)
    rw [Header.setting?, htrim, hdrop, trim_append_cons (by decide),
      splitAtFirst_append_cons hnotin]
    simp only [trim_trimStart, trim_trimEnd]

theorem setting?_of_not_mem (h : ':' ∉ line) : setting? line = none := by
  have hcontent : ':' ∉ trim ((trim line).dropWhile (· == ';')) := fun hmem =>
    h (trim_subset line ((List.dropWhile_sublist _).subset (trim_subset _ hmem)))
  have hnone : splitAtFirst ':' (trim ((trim line).dropWhile (· == ';'))) = none := by
    rw [splitAtFirst, List.dropWhile_eq_nil_iff.mpr]
    exact fun c hc => bne_iff_ne.mpr fun he => hcontent (he ▸ hc)
  rw [setting?, hnone]

/-- A header line with a colon gives a value to a key. -/
theorem exists_keyed (h : IsLine line) (hcolon : ':' ∈ line) : ∃ k v, Keyed line k v := by
  rcases h with hblank | ⟨blanks, rest, rfl, hblanks⟩
  · exact absurd (hblank _ hcolon) (by decide)
  have hsplit := List.takeWhile_append_dropWhile (p := (· == ';')) (l := rest)
  have hhead := List.head?_dropWhile_not (· == ';') rest
  have hsemicolons : ∀ c ∈ rest.takeWhile (· == ';'), c = ';' := fun c hc =>
    beq_iff_eq.mp (List.all_eq_true.mp List.all_takeWhile c hc)
  generalize rest.takeWhile (· == ';') = more at hsplit hsemicolons
  generalize rest.dropWhile (· == ';') = content at hsplit hhead
  have hcontent : ':' ∈ content := by
    rw [← hsplit] at hcolon
    simp only [List.mem_append, List.mem_cons] at hcolon
    rcases hcolon with hc | hc | hc | hc
    · exact absurd (hblanks _ hc) (by decide)
    · exact absurd hc (by decide)
    · exact absurd (hsemicolons _ hc) (by decide)
    · exact hc
  obtain ⟨k, v, rfl, hk⟩ := List.eq_append_cons_of_mem hcontent
  have hline : blanks ++ ';' :: rest = blanks ++ (';' :: more) ++ k ++ ':' :: v := by
    simp [← hsplit]
  refine ⟨k, v, hline ▸ .of hblanks (List.cons_ne_nil _ _) ?_ ?_ hk⟩
  · exact List.forall_mem_cons.mpr ⟨rfl, hsemicolons⟩
  · cases k with
    | nil => simp
    | cons c k => simpa using hhead

def values (keys : List String) (lines : List (List Char)) : List (List Char) :=
  lines.filterMap fun line => (setting? line).bind fun (key, value) =>
    if key ∈ keys then some value else none

end Header

def DocumentOptions.after (o : DocumentOptions) (lines : List (List Char)) : DocumentOptions where
  layout := (((Header.values ["layout"] lines).filter (!·.isEmpty)).getLast?.map String.ofList).or
    o.layout
  title := ((Header.values ["title"] lines).getLast?.map String.ofList).or o.title
  tags := o.tags ++ (Header.values ["tag", "tags"] lines).flatMap tagNames
  format := ((Header.values ["format"] lines).getLast?.map fun value =>
    Dialect.ofName? (String.ofList (value.map Char.toLower))).getD o.format
  date := ((Header.values ["date"] lines).getLast?.map Date.parseChars).getD o.date

namespace Header

theorem values_concat (keys : List String) (lines : List (List Char)) (line : List Char) :
    values keys (lines ++ [line]) = values keys lines ++ values keys [line] :=
  List.filterMap_append

theorem foldl_applyLine (lines : List (List Char)) (o : DocumentOptions) :
    lines.foldl applyLine o = o.after lines := by
  induction lines using List.reverseRecOn with
  | nil => simp [DocumentOptions.after, values]
  | append_singleton lines line ih =>
    rw [List.foldl_append, ih, List.foldl_cons, List.foldl_nil, applyLine]
    cases hline : setting? line with
    | none => simp [DocumentOptions.after, values, hline]
    | some setting =>
      obtain ⟨key, value⟩ := setting
      have hlast : ∀ keys, values keys [line] = if key ∈ keys then [value] else [] := by
        intro keys
        by_cases h : key ∈ keys <;> simp [values, hline, h]
      simp only [DocumentOptions.after, values_concat, hlast, DocumentOptions.set]
      split
      · by_cases hvalue : value.isEmpty <;> simp [hvalue, List.filter_append]
      · simp
      · simp
      · simp
      · simp
      · simp
      · simp_all

end Header
end LayeredSite

namespace LayeredSite.Header

open Text

theorem toList_parse (raw : String) : (parse raw).2.toList = bodyChars raw.toList := by
  rw [parse, String.toList_ofList]

theorem optionsOf_eq_after (raw : List Char) :
    optionsOf raw = ({} : DocumentOptions).after (headerLines raw) := by
  rw [optionsOf, foldl_applyLine]

structure Splits (raw header body : String) : Prop where
  append : header ++ body = raw
  lines : IsHeader header.toList
  whole : IsWhole header.toList ∨ body = ""

theorem splits_parse (raw : String) :
    Splits raw (String.ofList (headerChars raw.toList)) (parse raw).2 := by
  refine ⟨?_, ?_, ?_⟩
  · rw [parse, ← String.ofList_append, header_append_body, String.ofList_toList]
  · rw [String.toList_ofList]
    exact isHeader_headerChars _
  · rw [String.toList_ofList, ← String.toList_eq_nil_iff, toList_parse]
    exact (ends _).whole

theorem Splits.isPrefix {raw header body : String} (h : Splits raw header body) :
    header.toList <+: headerChars raw.toList := by
  rw [← h.append, String.toList_append]
  exact isPrefix_headerChars h.lines (h.whole.imp_right String.toList_eq_nil_iff.mpr)

theorem parse_body (raw : String) : parse (parse raw).2 = ({}, (parse raw).2) := by
  have hnone : headerLines (parse raw).2.toList = [] := by
    rw [toList_parse]
    exact (ends _).body
  rw [parse, optionsOf, hnone, bodyChars_of_headerLines hnone, String.ofList_toList, List.foldl_nil]

structure Precedes (before own both : DocumentOptions) (lines : List (List Char)) : Prop where
  layout : both.layout = own.layout.or before.layout
  title : both.title = own.title.or before.title
  tags : both.tags = before.tags ++ own.tags
  format : both.format = if values ["format"] lines = [] then before.format else own.format
  date : both.date = if values ["date"] lines = [] then before.date else own.date

theorem precedes_after (o : DocumentOptions) (lines : List (List Char)) :
    Precedes o (({} : DocumentOptions).after lines) (o.after lines) lines := by
  have hlast : ∀ {α : Type} (vs : List (List Char)) (f : List Char → Option α) (x : Option α),
      (vs.getLast?.map f).getD x = if vs = [] then x else (vs.getLast?.map f).getD none := by
    intro α vs f x
    cases h : vs.getLast? with
    | none => simp [List.getLast?_eq_none_iff.mp h]
    | some v => rw [if_neg (by rintro rfl; cases h)]; rfl
  refine ⟨?_, ?_, ?_, hlast _ _ _, hlast _ _ _⟩
  · simp [DocumentOptions.after]
  · simp [DocumentOptions.after]
  · simp [DocumentOptions.after]

/-- The header of a text is the longest run of whole lines that are blank or begin with a semicolon
behind blanks; it ends at the offset of the body, which has no header again. Header lines in front
of a text leave its body. Their settings come before those of its header: a later layout or title
takes the place of an earlier one, and tags add up. A line has a setting if it has a colon behind a
key. -/
theorem parse_splits :
    (∀ raw : String, ∃ header, Splits raw header (parse raw).2 ∧
      (∀ front behind, Splits raw front behind → front.toList <+: header.toList) ∧
      splitAtByte? header.utf8ByteSize raw.toList = some (header.toList, (parse raw).2.toList) ∧
      (parse raw).1 = ({} : DocumentOptions).after (lines header.toList) ∧
      parse (parse raw).2 = ({}, (parse raw).2)) ∧
    (∀ front behind : String, IsHeader front.toList → front.toList.getLast? = some '\n' →
      (parse (front ++ behind)).2 = (parse behind).2 ∧
      (parse (front ++ behind)).1 =
        (lines front.toList ++ headerLines behind.toList).foldl applyLine {} ∧
      Precedes (parse front).1 (parse behind).1 (parse (front ++ behind)).1
        (headerLines behind.toList)) ∧
    ∀ line, IsLine line → (':' ∉ line ∧ setting? line = none) ∨
      ∃ k v, Keyed line k v ∧ setting? line =
        if (trim k).isEmpty || (trim k).any isBlank then none
        else some (String.ofList (trim k), trim v) := by
  refine ⟨fun raw => ?_, fun front behind hfront hlast => ?_, fun line hline => ?_⟩
  · refine ⟨_, splits_parse raw, fun front behind h => ?_, ?_, ?_, parse_body raw⟩
    · rw [String.toList_ofList]
      exact h.isPrefix
    · have hsplit := splitAtByte?_append (headerChars raw.toList) (bodyChars raw.toList)
      rwa [header_append_body, ← String.toList_ofList (l := headerChars raw.toList),
        byteCount_toList, ← toList_parse] at hsplit
    · rw [String.toList_ofList, (ends _).lines, parse, optionsOf_eq_after]
  -- Ending in a newline, the lines in front do not run into those behind.
  · have hwhole : IsWhole front.toList := by simp [IsWhole, hlast]
    have hheader := headerLines_append hfront hwhole behind.toList
    refine ⟨?_, ?_, ?_⟩
    · rw [parse, parse, String.toList_append, bodyChars_append hfront hwhole]
    · rw [parse, String.toList_append, optionsOf, hheader]
    · have hboth := precedes_after (optionsOf front.toList) (headerLines behind.toList)
      rw [← optionsOf_eq_after, ← foldl_applyLine] at hboth
      rw [parse, parse, parse, String.toList_append]
      have hfold : optionsOf (front.toList ++ behind.toList) =
          (headerLines behind.toList).foldl applyLine (optionsOf front.toList) := by
        rw [optionsOf, hheader, List.foldl_append, optionsOf, headerLines_of_isHeader hfront]
      rwa [hfold]
  · by_cases hcolon : ':' ∈ line
    · obtain ⟨k, v, h⟩ := exists_keyed hline hcolon
      exact .inr ⟨k, v, h, h.setting?⟩
    · exact .inl ⟨hcolon, setting?_of_not_mem hcolon⟩

/-- Header lines in front of a text that has others. -/
theorem doubled_header_splits :
    IsHeader ";layout: a\n\n ; tags: x\n".toList ∧
      ";layout: a\n\n ; tags: x\n".toList.getLast? = some '\n' ∧
      (parse (";layout: a\n\n ; tags: x\n" ++ ";; layout: b\n;tag: y, z\n[:p]")).2 = "[:p]" ∧
      (parse (";layout: a\n\n ; tags: x\n" ++ ";; layout: b\n;tag: y, z\n[:p]")).1.layout =
        some "b" ∧
      (parse (";layout: a\n\n ; tags: x\n" ++ ";; layout: b\n;tag: y, z\n[:p]")).1.tags =
        ["x", "y", "z"] := by
  have hall : ∀ line ∈ lines ";layout: a\n\n ; tags: x\n".toList, isHeaderLine line = true := by
    decide +kernel
  have hheader : IsHeader ";layout: a\n\n ; tags: x\n".toList := fun line hline =>
    isHeaderLine_eq_true_iff.mp (hall line hline)
  obtain ⟨hbody, -, hboth⟩ := parse_splits.2.1 _ ";; layout: b\n;tag: y, z\n[:p]" hheader
    (by decide +kernel)
  refine ⟨hheader, by decide +kernel, hbody.trans ?_, hboth.layout.trans ?_, hboth.tags.trans ?_⟩
  · decide +kernel
  · decide +kernel
  · decide +kernel

end LayeredSite.Header
