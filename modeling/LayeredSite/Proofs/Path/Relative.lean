import LayeredSite.Proofs.Site.OutputPath

namespace LayeredSite.Path

variable {a cs r s : List Char} {dir path rest : String}

/-- Behind a directory that is not empty a path stands behind a slash. -/
theorem join_eq (hdir : dir ≠ "") (hpath : isAbsolute path = false) :
    ∃ a blanks, (join dir path).toList = a ++ '/' :: path.toList ∧
      segments dir.toList = segments a ++ blanks ∧ ∀ b ∈ blanks, b = [] := by
  unfold join
  rw [if_neg (by simp [hpath])]
  split
  · rename_i hslash
    have hlast : dir.toList.getLast? = some '/' := by
      simpa [hdir] using hslash
    obtain ⟨a, ha⟩ := List.getLast?_eq_some_iff.mp hlast
    exact ⟨a, [[]], by simp [ha], by rw [ha, segments_append]; rfl, fun b => List.mem_singleton.mp⟩
  · exact ⟨dir.toList, [], by simp [String.append_assoc], (List.append_nil _).symm,
      fun b hb => absurd hb List.not_mem_nil⟩

theorem subset_join (hpath : isAbsolute path = false) (dir : String) :
    dir.toList ⊆ (join dir path).toList := by
  intro c hc
  unfold join
  rw [if_neg (by simp [hpath])]
  split <;> simp [hc]

theorem start_join (hdir : dir ≠ "") (hpath : isAbsolute path = false) :
    start (join dir path) = start dir := by
  obtain ⟨a, blanks, hjoin, hsegs, -⟩ := join_eq hdir hpath
  have hhead : (segments (join dir path).toList).head? = (segments dir.toList).head? := by
    rw [hjoin, segments_append, hsegs, List.head?_append_of_ne_nil _ (segments_ne_nil a),
      List.head?_append_of_ne_nil _ (segments_ne_nil a)]
  rw [start, start, isAbsolute_join hpath, hhead]

/-- A directory is in front of the components of what is joined to it. -/
theorem components_join (hdir : dir ≠ "") (hpath : isAbsolute path = false) :
    components (join dir path) = components dir ++ moves path := by
  rw [components_eq, components_eq, start_join hdir hpath, moves_join hpath, List.append_assoc]

theorem join_assoc (hpath : isAbsolute path = false) (hne : path ≠ "")
    (hrest : isAbsolute rest = false) (dir : String) :
    join (join dir path) rest = join dir (join path rest) := by
  obtain ⟨front, hfront⟩ : ∃ front, ∀ p, isAbsolute p = false → join dir p = front ++ p := by
    by_cases hdir : (dir.isEmpty || dir.toList.getLast? == some '/') = true
    · exact ⟨dir, fun p hp => by rw [join, if_neg (by simp [hp]), if_pos hdir]⟩
    · exact ⟨dir ++ "/", fun p hp => by rw [join, if_neg (by simp [hp]), if_neg hdir]⟩
  have hbehind (front : String) : join (front ++ path) rest = front ++ join path rest := by
    have hlast : ((front ++ path).isEmpty || (front ++ path).toList.getLast? == some '/') =
        (path.isEmpty || path.toList.getLast? == some '/') := by
      have hchars : path.toList ≠ [] := fun he => hne (String.toList_injective he)
      have hempty : (front ++ path).isEmpty = path.isEmpty := by
        rw [Bool.eq_iff_iff, String.isEmpty_iff, String.isEmpty_iff]
        simp [hne]
      rw [hempty, String.toList_append, List.getLast?_append_of_ne_nil _ hchars]
    simp only [join, hrest, Bool.false_eq_true, if_false, hlast]
    split <;> simp [String.append_assoc]
  rw [hfront path hpath, hbehind, hfront _ ((isAbsolute_join hrest path).trans hpath)]

theorem not_isBlank {name : String} (h : IsName name) : ¬ IsBlank name.toList := by
  rw [← component?_eq_none_iff, component?_of_isName h]
  exact Option.some_ne_none _

theorem segments_names {names : List String} (hne : names ≠ []) (h : ∀ name ∈ names, IsName name) :
    segments ("/".intercalate names).toList = names.map String.toList :=
  Url.segments_intercalate hne fun name hname => (h name hname).2.2.2

theorem isAbsolute_names {names : List String} (hne : names ≠ [])
    (h : ∀ name ∈ names, IsName name) :
    isAbsolute ("/".intercalate names) = false := by
  rw [Bool.eq_false_iff, ne_eq, isAbsolute_iff_segments, segments_names hne h]
  rintro ⟨s, more, hsegs⟩
  cases names with
  | nil => exact hne rfl
  | cons name rest =>
    exact (h name List.mem_cons_self).1 (String.toList_injective (List.cons.inj hsegs).1)

/-- The last of the names that are put behind a directory is the last segment. -/
theorem segments_join_names {dir : String} {names : List String} (hdir : dir ≠ "")
    (hne : names ≠ [])
    (h : ∀ name ∈ names, IsName name) :
    ∃ front last, segments (join dir ("/".intercalate names)).toList = front ++ [last] ∧
      ¬ IsBlank last := by
  obtain ⟨a, -, htext, -, -⟩ := join_eq hdir (isAbsolute_names hne h)
  obtain ⟨init, last, rfl⟩ := (List.eq_nil_or_concat' names).resolve_left hne
  refine ⟨segments a ++ init.map String.toList, last.toList, ?_, not_isBlank (h last (by simp))⟩
  rw [htext, segments_append, segments_names hne h, List.map_append, List.map_singleton,
    List.append_assoc]

/-- Names that are put behind a directory one after another are a path behind it. -/
theorem foldl_join_eq {names : List String} (hne : names ≠ []) (h : ∀ name ∈ names, IsName name)
    (dir : String) : names.foldl join dir = join dir ("/".intercalate names) := by
  induction names generalizing dir with
  | nil => exact absurd rfl hne
  | cons name rest ih =>
    obtain ⟨⟨hempty, -, -, hslash⟩, hrest⟩ := List.forall_mem_cons.mp h
    have hrelative := Url.isAbsolute_of_not_mem hslash
    cases rest with
    | nil => simp
    | cons next rest =>
      have hbehind := isAbsolute_names (List.cons_ne_nil next rest) hrest
      have hlast : (name.isEmpty || name.toList.getLast? == some '/') = false := by
        have hend : name.toList.getLast? ≠ some '/' := fun he => hslash (List.mem_of_getLast? he)
        simp [hempty, hend]
      have hjoin : join name ("/".intercalate (next :: rest)) =
          "/".intercalate (name :: next :: rest) := by
        rw [join, if_neg (by simp [hbehind]), hlast, if_neg (by simp), String.intercalate_cons_cons]
      rw [List.foldl_cons, ih (List.cons_ne_nil _ _) hrest, join_assoc hrelative hempty hbehind,
        hjoin]

theorem skipBlank_eq_self {more : List (List Char)} (h : segments cs = s :: more)
    (hs : ¬ IsBlank s) : skipBlank cs = cs := by
  induction cs using skipBlank.induct with
  | case1 rest _ =>
    rw [segments, if_pos rfl] at h
    exact absurd (.inl (List.cons.inj h).1.symm) hs
  | case2 => exact absurd (.inr (List.cons.inj h).1.symm) hs
  | case3 rest _ =>
    have hdot : segments ('.' :: '/' :: rest) = ['.'] :: segments rest :=
      segments_append ['.'] rest
    rw [hdot] at h
    exact absurd (.inr (List.cons.inj h).1.symm) hs
  | case4 cs hslash hdot hdots =>
    rw [skipBlank]
    · exact hslash
    · exact hdot
    · exact hdots

/-- Skipping leaves out segments that lead nowhere, or all of them. -/
theorem segments_skipBlank (cs : List Char) : skipBlank cs = [] ∨
    ∃ blanks, segments cs = blanks ++ segments (skipBlank cs) ∧ ∀ b ∈ blanks, IsBlank b := by
  induction cs using skipBlank.induct with
  | case1 rest ih =>
    rw [skipBlank]
    refine ih.imp_right fun ⟨blanks, hsegs, hblanks⟩ => ⟨[] :: blanks, ?_, ?_⟩
    · rw [segments, if_pos rfl, hsegs, List.cons_append]
    · exact List.forall_mem_cons.mpr ⟨.inl rfl, hblanks⟩
  | case2 => exact .inl rfl
  | case3 rest ih =>
    rw [skipBlank]
    refine ih.imp_right fun ⟨blanks, hsegs, hblanks⟩ => ⟨['.'] :: blanks, ?_, ?_⟩
    · have hdot : segments ('.' :: '/' :: rest) = ['.'] :: segments rest :=
        segments_append ['.'] rest
      rw [hdot, hsegs, List.cons_append]
    · exact List.forall_mem_cons.mpr ⟨.inr rfl, hblanks⟩
  | case4 cs hslash hdot hdots =>
    refine .inr ⟨[], ?_, fun b hb => absurd hb List.not_mem_nil⟩
    rw [skipBlank]
    · rfl
    · exact hslash
    · exact hdot
    · exact hdots

theorem skipComponents_blank (hs : IsBlank s) (n : ℕ) (cs : List Char) :
    skipComponents n (s ++ '/' :: cs) = skipComponents n cs := by
  have hskip : skipBlank (s ++ '/' :: cs) = skipBlank cs := by
    rcases hs with rfl | rfl
    · rw [List.nil_append, skipBlank]
    · rw [List.singleton_append, skipBlank]
  cases n with
  | zero => exact hskip
  | succ n => rw [skipComponents, skipComponents, hskip]

theorem skipComponents_component (hslash : '/' ∉ s) (hs : ¬ IsBlank s) (n : ℕ) (cs : List Char) :
    skipComponents (n + 1) (s ++ '/' :: cs) = skipComponents n cs := by
  have hsegs : segments (s ++ '/' :: cs) = s :: segments cs := by
    rw [segments_append, segments_of_not_mem hslash, List.singleton_append]
  have hname : ∀ c ∈ s, (c != '/') = true := fun c hc => by
    simpa using fun he : c = '/' => hslash (he ▸ hc)
  rw [skipComponents, skipBlank_eq_self hsegs hs, List.dropWhile_append_of_pos hname,
    List.dropWhile_cons_of_neg (by simp)]
  exact skipComponents_blank (.inl rfl) n cs

/-- A text is its first segment, with the other segments behind a slash. -/
theorem segments_eq_cons {more : List (List Char)} (h : segments cs = s :: more) :
    '/' ∉ s ∧ (more = [] ∧ cs = s ∨ ∃ rest, cs = s ++ '/' :: rest ∧ more = segments rest) := by
  refine ⟨not_mem_of_mem_segments (h ▸ List.mem_cons_self), ?_⟩
  induction cs generalizing s with
  | nil =>
    cases h
    exact .inl ⟨rfl, rfl⟩
  | cons c cs ih =>
    rw [segments] at h
    split at h
    · rename_i hc
      cases h
      exact .inr ⟨cs, by rw [hc, List.nil_append], rfl⟩
    · split at h
      · rename_i hsegs
        exact absurd hsegs (segments_ne_nil cs)
      · rename_i first others hsegs
        cases h
        rcases ih hsegs with ⟨hnone, rfl⟩ | ⟨rest, rfl, hmore⟩
        · exact .inl ⟨hnone, rfl⟩
        · exact .inr ⟨rest, rfl, hmore⟩

/-- As many components are skipped as a text leads through. -/
theorem skipComponents_append (a r : List Char) :
    skipComponents ((segments a).filterMap component?).length (a ++ '/' :: r) = skipBlank r := by
  generalize hsegs : segments a = segs
  induction segs generalizing a with
  | nil => exact absurd hsegs (segments_ne_nil a)
  | cons s more ih =>
    obtain ⟨hslash, hcase⟩ := segments_eq_cons hsegs
    have hstep (cs : List Char) :
        skipComponents ((s :: more).filterMap component?).length (s ++ '/' :: cs) =
          skipComponents (more.filterMap component?).length cs := by
      by_cases hs : IsBlank s
      · rw [List.filterMap_cons, component?_eq_none_iff.mpr hs, skipComponents_blank hs]
      · obtain ⟨c, hc⟩ := Option.ne_none_iff_exists'.mp (mt component?_eq_none_iff.mp hs)
        rw [List.filterMap_cons, hc, List.length_cons, skipComponents_component hslash hs]
    rcases hcase with ⟨rfl, rfl⟩ | ⟨rest, rfl, rfl⟩
    · rw [hstep]
      rfl
    · rw [List.append_assoc, List.cons_append, hstep]
      exact ih rest rfl

theorem components_ne_nil (h : path ≠ "") : components path ≠ [] := by
  rw [components_eq, start]
  split
  · exact List.cons_ne_nil _ _
  · rename_i hroot
    split
    · exact List.cons_ne_nil _ _
    · rename_i hdot
      intro hnone
      obtain ⟨s, more, hsegs⟩ := List.exists_cons_of_ne_nil (segments_ne_nil path.toList)
      have hblank := List.filterMap_eq_nil_iff.mp hnone s (by simp [hsegs])
      rcases component?_eq_none_iff.mp hblank with rfl | rfl
      · obtain ⟨-, ⟨-, hnil⟩ | ⟨rest, hrest, -⟩⟩ := segments_eq_cons hsegs
        · exact h (String.toList_injective hnil)
        · exact isAbsolute_eq_false_iff.mp (by simpa using hroot) rest hrest
      · exact hdot (by rw [hsegs]; rfl)

theorem filter_components_eq_moves (path : String) :
    (components path).filter (fun c => c != .root && c != .current) = moves path := by
  have hstart : (start path).filter (fun c => c != .root && c != .current) = [] := by
    unfold start
    split
    · rfl
    · split <;> rfl
  rw [components_eq, List.filter_append, hstart, List.nil_append, List.filter_eq_self]
  intro c hc
  rcases of_mem_moves hc with rfl | ⟨name, rfl, -⟩
  · rfl
  · simp

theorem filterMap_segments_skipBlank (cs : List Char) :
    (segments (skipBlank cs)).filterMap component? = (segments cs).filterMap component? := by
  induction cs using skipBlank.induct with
  | case1 rest ih =>
    rw [skipBlank, ih, segments, if_pos rfl]
    rfl
  | case2 => rfl
  | case3 rest ih =>
    have hdot : segments ('.' :: '/' :: rest) = ['.'] :: segments rest :=
      segments_append ['.'] rest
    rw [skipBlank, ih, hdot]
    rfl
  | case4 cs hslash hdot hdots =>
    rw [skipBlank]
    · exact hslash
    · exact hdot
    · exact hdots

theorem head?_skipBlank (cs : List Char) : (skipBlank cs).head? ≠ some '/' := by
  induction cs using skipBlank.induct with
  | case1 rest ih => rwa [skipBlank]
  | case2 => simp [skipBlank]
  | case3 rest ih => rwa [skipBlank]
  | case4 cs hslash hdot hdots =>
    rw [skipBlank]
    · intro hhead
      obtain ⟨rest, hrest⟩ := List.head?_eq_some_iff.mp hhead
      exact hslash rest hrest
    · exact hslash
    · exact hdot
    · exact hdots

/-- What is left of a text that ends with a component ends with it. -/
theorem trimEnd_skipBlank {front : List (List Char)} (hsegs : segments cs = front ++ [s])
    (hs : ¬ IsBlank s) : trimEnd (skipBlank cs) = skipBlank cs := by
  rcases segments_skipBlank cs with hnil | ⟨blanks, hskip, -⟩
  · rw [hnil]
    simp [trimEnd, dropSlashes]
  · rcases List.eq_nil_or_concat' (segments (skipBlank cs)) with hnone | ⟨init, last, hlast⟩
    · exact absurd hnone (segments_ne_nil _)
    · rw [hsegs, hlast, ← List.append_assoc] at hskip
      obtain ⟨-, he⟩ := List.append_inj' hskip rfl
      obtain rfl := List.singleton_inj.mp he
      exact trimEnd_of_segments hlast hs

/-- A path that ends with a name leads from the directory that it is joined to, without what leads
nowhere in front of it. -/
theorem relativeTo?_join (hdir : dir ≠ "") (hpath : isAbsolute path = false)
    {front : List (List Char)} (hsegs : segments path.toList = front ++ [s]) (hs : ¬ IsBlank s) :
    relativeTo? (join dir path) dir = some (String.ofList (skipBlank path.toList)) := by
  obtain ⟨a, blanks, hjoin, hdirsegs, hblanks⟩ := join_eq hdir hpath
  have hdepth : moves dir = (segments a).filterMap component? := by
    have hnone := List.filterMap_eq_nil_iff.mpr
      fun b hb => component?_eq_none_iff.mpr (.inl (hblanks b hb))
    rw [moves, hdirsegs, List.filterMap_append, hnone, List.append_nil]
  have hcomponents : (components dir).isEmpty = false := by simpa using components_ne_nil hdir
  have hstarts : startsWith (join dir path) dir = true := by
    rw [startsWith, List.isPrefixOf_iff_prefix, components_join hdir hpath]
    exact List.prefix_append _ _
  have hskip := skipComponents_append a path.toList
  rw [relativeTo?, hstarts, hcomponents, filter_components_eq_moves, hdepth, hjoin]
  dsimp only
  rw [hskip, if_neg (by simp), if_neg (by simp), trimEnd_skipBlank hsegs hs]

theorem relativeTo?_names {names : List String} (hdir : dir ≠ "") (hne : names ≠ [])
    (h : ∀ name ∈ names, IsName name) :
    relativeTo? (join dir ("/".intercalate names)) dir = some ("/".intercalate names) := by
  have hsegs := segments_names hne h
  have hskip : skipBlank ("/".intercalate names).toList = ("/".intercalate names).toList := by
    cases names with
    | nil => exact absurd rfl hne
    | cons first rest => exact skipBlank_eq_self hsegs (not_isBlank (h first List.mem_cons_self))
  obtain ⟨init, last, rfl⟩ := (List.eq_nil_or_concat' names).resolve_left hne
  rw [List.map_append, List.map_singleton] at hsegs
  rw [relativeTo?_join hdir (isAbsolute_names hne h) hsegs (not_isBlank (h last (by simp))), hskip,
    String.ofList_toList]

/-- The path from a directory, joined to it again, has the same components. -/
theorem components_join_skipBlank (hdir : dir ≠ "") (hpath : isAbsolute path = false) :
    components (join dir (String.ofList (skipBlank path.toList))) = components (join dir path) := by
  have hrelative : isAbsolute (String.ofList (skipBlank path.toList)) = false := by
    simpa [isAbsolute] using head?_skipBlank path.toList
  have hmoves : moves (String.ofList (skipBlank path.toList)) = moves path := by
    rw [moves, String.toList_ofList]
    exact filterMap_segments_skipBlank path.toList
  rw [components_join hdir hrelative, components_join hdir hpath, hmoves]

end LayeredSite.Path
