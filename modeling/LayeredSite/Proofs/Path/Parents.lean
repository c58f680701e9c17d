import LayeredSite.Proofs.Path.Segments

namespace LayeredSite.Path

variable {cs s : List Char} {front blanks : List (List Char)} {path above : String}
  {init : List Component} {last : Component}

theorem dropSlashes_suffix (reversed : List Char) : dropSlashes reversed <:+ reversed := by
  induction reversed using dropSlashes.induct with
  | case1 rest ih =>
    rw [dropSlashes]
    exact ih.trans (List.suffix_cons _ _)
  | case2 rest ih =>
    rw [dropSlashes]
    exact ih.trans (List.suffix_cons _ _)
  | case3 cs hslash hdot =>
    have hkept : dropSlashes cs = cs := by
      rw [dropSlashes]
      · exact hslash
      · exact hdot
    exact ⟨[], hkept⟩

theorem trimEnd_isPrefix (cs : List Char) : trimEnd cs <+: cs := by
  have h := List.reverse_prefix.mpr (dropSlashes_suffix cs.reverse)
  rwa [List.reverse_reverse] at h

/-- What is cut off at the end of a text leads nowhere. -/
theorem filterMap_segments_trimEnd (cs : List Char) :
    (segments (trimEnd cs)).filterMap component? = (segments cs).filterMap component? := by
  have hreversed (r : List Char) : (segments (dropSlashes r).reverse).filterMap component? =
      (segments r.reverse).filterMap component? := by
    induction r using dropSlashes.induct with
    | case1 rest ih =>
      rw [dropSlashes, ih, List.reverse_cons, segments_append, List.filterMap_append]
      exact (List.append_nil _).symm
    | case2 rest ih =>
      have hdot : ('.' :: '/' :: rest).reverse = rest.reverse ++ ['/', '.'] := by simp
      rw [dropSlashes, ih, hdot, List.reverse_cons, segments_append, segments_append,
        List.filterMap_append, List.filterMap_append]
      rfl
    | case3 cs hslash hdot =>
      rw [dropSlashes]
      · exact hslash
      · exact hdot
  have h := hreversed cs.reverse
  rwa [List.reverse_reverse] at h

/-- A text of which nothing is left begins with a slash. -/
theorem trimEnd_eq_nil (h : trimEnd cs = []) : cs = [] ∨ cs.head? = some '/' := by
  have hreversed (r : List Char) (hr : dropSlashes r = []) : r = [] ∨ r.getLast? = some '/' := by
    induction r using dropSlashes.induct with
    | case1 rest ih =>
      rw [dropSlashes] at hr
      rcases ih hr with rfl | hrest
      · exact .inr rfl
      · exact .inr (by simp [List.getLast?_cons, hrest])
    | case2 rest ih =>
      rw [dropSlashes] at hr
      refine .inr ?_
      rcases ih hr with hnil | hrest
      · cases hnil
      · simpa [List.getLast?_cons] using hrest
    | case3 cs hslash hdot =>
      rw [dropSlashes] at hr
      · exact .inl hr
      · exact hslash
      · exact hdot
  rcases hreversed cs.reverse (List.reverse_eq_nil_iff.mp h) with hnil | hlast
  · exact .inl (List.reverse_eq_nil_iff.mp hnil)
  · exact .inr (by rwa [List.getLast?_reverse] at hlast)

theorem trimEnd_dot (h : segments cs = ['.'] :: blanks) (hblanks : ∀ b ∈ blanks, IsBlank b) :
    trimEnd cs = ['.'] := by
  induction blanks using List.reverseRecOn generalizing cs with
  | nil =>
    rw [← List.nil_append [['.']]] at h
    obtain ⟨-, ⟨-, rfl⟩ | ⟨a, -, ha⟩⟩ := segments_eq_concat_iff.mp h
    · simp [trimEnd, dropSlashes]
    · exact absurd ha.symm (segments_ne_nil a)
  | append_singleton blanks b ih =>
    obtain ⟨hb, hblanks'⟩ : IsBlank b ∧ ∀ c ∈ blanks, IsBlank c :=
      ⟨hblanks b (by simp), fun c hc => hblanks c (by simp [hc])⟩
    rw [← List.cons_append] at h
    obtain ⟨-, ⟨hnil, -⟩ | ⟨a, rfl, ha⟩⟩ := segments_eq_concat_iff.mp h
    · cases hnil
    · rw [trimEnd_append_blank hb]
      exact ih ha.symm hblanks'

theorem head?_of_isPrefix {a b : List Char} (h : a <+: b) (ha : a ≠ []) : b.head? = a.head? := by
  obtain ⟨more, rfl⟩ := h
  exact List.head?_append_of_ne_nil a ha

/-- What is in front of the last component is trimmed again, but a slash is left of the root. -/
def trimmed (kept : List Char) : String :=
  if (trimEnd kept).isEmpty && !kept.isEmpty then "/" else String.ofList (trimEnd kept)

theorem parent?_of_last (h : (components path).getLast? = some last) (hroot : last ≠ .root) :
    parent? path = some (trimmed
      ((trimEnd path.toList).take ((trimEnd path.toList).length - last.text.length))) := by
  rw [parent?, h]
  cases last with
  | root => exact absurd rfl hroot
  | current => rfl
  | parent => rfl
  | name s => rfl

/-- Trimming keeps what leads somewhere, and where a path begins. -/
theorem moves_trimmed (kept : List Char) : (trimmed kept).toList.head? = kept.head? ∧
    moves (trimmed kept) = (segments kept).filterMap component? := by
  rw [← filterMap_segments_trimEnd]
  by_cases hnone : trimEnd kept = []
  · rw [hnone]
    rcases trimEnd_eq_nil hnone with rfl | hslash
    · rw [trimmed, hnone]
      exact ⟨rfl, rfl⟩
    · obtain ⟨rest, rfl⟩ := List.head?_eq_some_iff.mp hslash
      have htext : trimmed ('/' :: rest) = "/" := by
        rw [trimmed, hnone]
        rfl
      rw [htext]
      exact ⟨rfl, rfl⟩
  · have htext : trimmed kept = String.ofList (trimEnd kept) := by
      rw [trimmed, if_neg (by simp [hnone])]
    rw [htext, moves, String.toList_ofList]
    exact ⟨(head?_of_isPrefix (trimEnd_isPrefix kept) hnone).symm, rfl⟩

/-- A path that makes no moves has nothing above it but itself without its `.`. -/
theorem parent?_of_moves_nil (hmoves : moves path = []) (h : parent? path = some above) :
    isAbsolute path = false ∧ above = "" := by
  have hcomponents : components path = start path := by
    rw [components_eq, hmoves, List.append_nil]
  by_cases hroot : isAbsolute path = true
  · rw [parent?, hcomponents, start, if_pos hroot] at h
    cases h
  · by_cases hdot : (segments path.toList).head? = some ['.']
    · obtain ⟨blanks, hsegs⟩ := List.head?_eq_some_iff.mp hdot
      have hblanks : ∀ b ∈ blanks, IsBlank b := fun b hb =>
        component?_eq_none_iff.mp (List.filterMap_eq_nil_iff.mp hmoves b (by simp [hsegs, hb]))
      have hlast : (components path).getLast? = some .current := by
        rw [hcomponents, start, if_neg hroot, if_pos hdot]
        rfl
      rw [parent?_of_last hlast (by simp), trimEnd_dot hsegs hblanks] at h
      cases h
      have hnothing : trimmed [] = "" := by simp [trimmed, trimEnd, dropSlashes]
      exact ⟨by simpa using hroot, hnothing⟩
    · rw [parent?, hcomponents, start, if_neg hroot, if_neg hdot] at h
      cases h

/-- The path above makes all moves but the last. -/
theorem moves_of_parent? (h : parent? path = some above) :
    isAbsolute above = isAbsolute path ∧ moves above = (moves path).dropLast := by
  rcases List.eq_nil_or_concat' (moves path) with hnone | ⟨init, last, hmoves⟩
  · obtain ⟨hroot, rfl⟩ := parent?_of_moves_nil hnone h
    rw [hnone, hroot]
    exact ⟨rfl, rfl⟩
  -- The last move is the last segment that is not blank, and the text in front of it is kept.
  · obtain ⟨front, s, blanks, hsegs, hfront, hblanks, hcomponent⟩ := segments_of_last hmoves
    have hs : ¬ IsBlank s := by
      rw [← component?_eq_none_iff, hcomponent]
      exact Option.some_ne_none _
    have hlength : last.text.length = s.length := by
      have hmem : s ∈ segments path.toList := by simp [hsegs]
      rw [(component?_eq_some hcomponent (not_mem_of_mem_segments hmem)).1, String.length_ofList]
    have hlast : (components path).getLast? = some last := by
      rw [components_eq, hmoves, ← List.append_assoc, List.getLast?_concat]
    have hroot : last ≠ .root := by
      rintro rfl
      have hmem : Component.root ∈ moves path := by simp [hmoves]
      rcases of_mem_moves hmem with he | ⟨_, he, -⟩ <;> cases he
    rw [parent?_of_last hlast hroot, hlength, Option.some.injEq] at h
    subst h
    rw [hmoves, List.dropLast_concat]
    obtain ⟨hhead, hmoved⟩ := moves_trimmed ((trimEnd path.toList).take
      ((trimEnd path.toList).length - s.length))
    have hinit := trimEnd_isPrefix path.toList
    obtain ⟨hslash, ⟨rfl, hwhole⟩ | ⟨a, hwhole, rfl⟩⟩ :=
      segments_eq_concat_iff.mp (segments_trimEnd hsegs hblanks hs)
    · -- Nothing is in front of the last segment.
      rw [hwhole, Nat.sub_self, List.take_zero] at hhead hmoved ⊢
      have hne : s ≠ [] := fun he => hs (.inl he)
      rw [hwhole] at hinit
      refine ⟨?_, hmoved.trans hfront⟩
      rw [isAbsolute, isAbsolute, hhead, head?_of_isPrefix hinit hne]
      cases s with
      | nil => exact absurd rfl hne
      | cons c s =>
        have hc : c ≠ '/' := fun he => hslash (he ▸ List.mem_cons_self)
        simp [hc]
    · have hkept : (a ++ '/' :: s).take ((a ++ '/' :: s).length - s.length) = a ++ ['/'] := by
        have hassoc : a ++ '/' :: s = (a ++ ['/']) ++ s := by simp
        rw [hassoc, List.length_append, Nat.add_sub_cancel, List.take_left]
      rw [hwhole, hkept] at hhead hmoved ⊢
      rw [hwhole] at hinit
      have hbegins : a ++ ['/'] <+: path.toList :=
        List.IsPrefix.trans ⟨s, by simp⟩ hinit
      refine ⟨?_, ?_⟩
      · rw [isAbsolute, isAbsolute, hhead, head?_of_isPrefix hbegins (by simp)]
      · rw [hmoved, segments_append, List.filterMap_append, hfront]
        exact List.append_nil init

end LayeredSite.Path
