import LayeredSite.Proofs.Disk.Growth

namespace LayeredSite

open LayeredSite.Path

namespace Disk

variable {d e : Disk} {above place names : List String} {dir dir' path name : String}
  {entries : List (String × Node)}

theorem named_join (hdir : dir ≠ "") (hpath : isAbsolute path = false) :
    named (join dir path) = named dir ++ named path := by
  obtain ⟨a, blanks, hjoin, hsegs, hblanks⟩ := join_eq hdir hpath
  have hnone : (blanks.map String.ofList).filter (!·.isEmpty) = [] := by
    simpa [List.filter_eq_nil_iff] using hblanks
  rw [named, named, named, hjoin, segments_append, hsegs, List.map_append, List.filter_append,
    List.map_append, List.filter_append, hnone, List.append_nil]

theorem named_ne_nil (hne : path ≠ "") (hpath : isAbsolute path = false) : named path ≠ [] := by
  intro hnone
  refine steps_ne_nil hne hpath ?_
  rw [named] at hnone
  simp [steps, hnone]

/-- Behind a directory come the steps of the path. -/
theorem steps_join_append (hdir : dir ≠ "") (hpath : isAbsolute path = false) (hne : path ≠ "") :
    steps (join dir path) = named dir ++ steps path := by
  obtain ⟨a, -, hjoin, -, -⟩ := join_eq hdir hpath
  have hlast : ((segments (join dir path).toList).map String.ofList).getLast? =
      ((segments path.toList).map String.ofList).getLast? := by
    rw [hjoin, segments_append, List.map_append,
      List.getLast?_append_of_ne_nil _ (by simpa using segments_ne_nil path.toList)]
  have hsteps (p : String) (hp : named p ≠ []) : steps p = named p ++
      if ((segments p.toList).map String.ofList).getLast? = some "" then ["."] else [] := by
    have hsome : (named p).isEmpty = false := by simpa using hp
    have hdef : steps p = if ((segments p.toList).map String.ofList).getLast? == some "" &&
        !(named p).isEmpty then named p ++ ["."] else named p := rfl
    rw [hdef, hsome]
    generalize ((segments p.toList).map String.ofList).getLast? = last
    by_cases hslash : last = some "" <;> simp [hslash]
  have hpath' := named_ne_nil hne hpath
  rw [hsteps path hpath', hsteps (join dir path), hlast, named_join hdir hpath, List.append_assoc]
  rw [named_join hdir hpath]
  exact List.append_ne_nil_of_right_ne_nil _ hpath'

theorem follow_here (hthere : d.root.get above = .ok (.dir entries)) :
    follow d.root above ["."] = .ok above := by
  rw [follow, hthere]
  rfl

/-- The names of a directory lead there without a step to itself. -/
theorem follow_named (hdir : d.locate dir = .ok above)
    (hthere : d.root.get above = .ok (.dir entries)) :
    follow d.root (if isAbsolute dir then [] else d.current) (named dir) = .ok above := by
  obtain ⟨-, -, hfollow⟩ := locate_eq_ok_iff.mp hdir
  rcases steps_cases dir with hsteps | hsteps
  · rwa [hsteps] at hfollow
  · rw [hsteps, follow_append] at hfollow
    obtain ⟨before, hbefore, hlast⟩ := exists_of_bind_eq_ok hfollow
    rw [follow] at hlast
    split at hlast
    · cases hlast
    · cases hlast
    · cases hlast
      exact hbefore

theorem locate_of_isAbsolute (htree : e.root = d.root) (hpath : isAbsolute path = true) :
    e.locate path = d.locate path := by
  rw [locate, locate, htree, if_pos hpath, if_pos hpath]

/-- Behind a directory a path leads where it leads from inside. -/
theorem locate_join_of_dir (hdir : d.locate dir = .ok above)
    (hthere : d.root.get above = .ok (.dir entries)) (hpath : isAbsolute path = false)
    (hne : path ≠ "") : d.locate (join dir path) = { d with current := above }.locate path := by
  obtain ⟨hempty, hnul, -⟩ := locate_eq_ok_iff.mp hdir
  obtain ⟨a, -, hjoin, -, -⟩ := join_eq hempty hpath
  have hsame : '\x00' ∈ (join dir path).toList ↔ '\x00' ∈ path.toList := by
    refine ⟨fun hmem => ?_, fun hmem => by simp [hjoin, hmem]⟩
    unfold join at hmem
    rw [if_neg (by simp [hpath])] at hmem
    split at hmem <;> simpa [hnul] using hmem
  have hjoined : join dir path ≠ "" := fun he => by simp [he] at hjoin
  have hfollow : follow d.root (if isAbsolute (join dir path) then [] else d.current)
      (steps (join dir path)) = follow d.root above (steps path) := by
    rw [isAbsolute_join hpath, steps_join_append hempty hpath hne, follow_append,
      follow_named hdir hthere]
    rfl
  rw [locate, locate, hfollow, if_neg (mt String.isEmpty_iff.mp hjoined),
    if_neg (mt String.isEmpty_iff.mp hne), if_neg (by simp [hpath] : ¬ isAbsolute path = true)]
  simp only [List.contains_iff_mem, hsame]

theorem locate_join_empty (hdir : d.locate dir = .ok above)
    (hthere : d.root.get above = .ok (.dir entries)) : d.locate (join dir "") = .ok above := by
  obtain ⟨hempty, hnul, -⟩ := locate_eq_ok_iff.mp hdir
  have hrelative : isAbsolute "" = false := rfl
  have hfollow := follow_named hdir hthere
  have hnamed : named (join dir "") = named dir := by
    rw [named_join hempty hrelative]
    exact List.append_nil _
  refine locate_eq_ok_iff.mpr ⟨fun he => ?_, fun hmem => ?_, ?_⟩
  · have hsubset := subset_join hrelative dir
    rw [he] at hsubset
    exact hempty (String.toList_injective (List.subset_nil.mp hsubset))
  · unfold join at hmem
    rw [if_neg (by simp [hrelative])] at hmem
    split at hmem <;> simp [hnul] at hmem
  · rw [isAbsolute_join hrelative]
    rcases steps_cases (join dir "") with hsteps | hsteps
    · rw [hsteps, hnamed, hfollow]
    · rw [hsteps, hnamed, follow_append, hfollow]
      exact follow_here hthere

/-- A short name in a directory leads into it. -/
theorem locate_join_name (hdir : d.locate dir = .ok above)
    (hthere : d.root.get above = .ok (.dir entries)) (hname : IsName name)
    (hshort : name.utf8ByteSize ≤ 255) (hnul : '\x00' ∉ name.toList) :
    d.locate (join dir name) = .ok (above ++ [name]) := by
  have hrelative := Url.isAbsolute_of_not_mem hname.2.2.2
  rw [locate_join_of_dir hdir hthere hrelative hname.1]
  refine locate_eq_ok_iff.mpr ⟨hname.1, hnul, ?_⟩
  have hsteps : steps name = [name] := by
    have hsegs := segments_of_not_mem hname.2.2.2
    simp [steps, hsegs, hname.1]
  rw [if_neg (by simp [hrelative]), hsteps, follow, hthere]
  dsimp only
  rw [if_neg (Nat.not_lt_of_le hshort), if_neg hname.2.1, if_neg hname.2.2.1]
  rfl

/-- What is behind a directory depends on the place of the directory. -/
theorem locate_join_congr (htree : e.root = d.root) (hdir : d.locate dir = .ok above)
    (hdir' : e.locate dir' = .ok above) (hthere : d.root.get above = .ok (.dir entries))
    (path : String) : e.locate (join dir' path) = d.locate (join dir path) := by
  by_cases hpath : isAbsolute path = true
  · rw [join, join, if_pos hpath, if_pos hpath, locate_of_isAbsolute htree hpath]
  · have hrelative := Bool.eq_false_iff.mpr hpath
    have hthere' : e.root.get above = .ok (.dir entries) := htree ▸ hthere
    by_cases hne : path = ""
    · rw [hne, locate_join_empty hdir hthere, locate_join_empty hdir' hthere']
    · rw [locate_join_of_dir hdir hthere hrelative hne,
        locate_join_of_dir hdir' hthere' hrelative hne, htree]

theorem join_name_ne_empty (hname : IsName name) (hdir : dir ≠ "") : join dir name ≠ "" := by
  intro he
  have hsubset := subset_join (Url.isAbsolute_of_not_mem hname.2.2.2) dir
  rw [he] at hsubset
  exact hdir (String.toList_injective (List.subset_nil.mp hsubset))

theorem foldl_join_ne_empty (hnames : ∀ name ∈ names, IsName name) (hdir : dir ≠ "") :
    names.foldl join dir ≠ "" := by
  induction names generalizing dir with
  | nil => exact hdir
  | cons name rest ih =>
    obtain ⟨hname, hrest⟩ := List.forall_mem_cons.mp hnames
    exact ih hrest (join_name_ne_empty hname hdir)

/-- Names lead from directories with the same place to the same place. -/
theorem locate_foldl_join_congr (htree : e.root = d.root) (hnames : ∀ name ∈ names, IsName name)
    (hdir : d.locate dir = .ok above) (hdir' : e.locate dir' = .ok above)
    (h : d.locate (names.foldl join dir) = .ok place) :
    e.locate (names.foldl join dir') = .ok place := by
  induction names using List.reverseRecOn generalizing place with
  | nil =>
    rw [List.foldl_nil, hdir] at h
    exact Except.ok.inj h ▸ hdir'
  | append_singleton init last ih =>
    obtain ⟨hinit, hlast⟩ := List.forall_mem_append.mp hnames
    have hempty := foldl_join_ne_empty hinit (locate_eq_ok_iff.mp hdir).1
    rw [List.foldl_append] at h ⊢
    obtain ⟨before, entries, hbefore, hthere, -⟩ := locate_join hempty (hlast last (by simp)) h
    exact (locate_join_congr htree hbefore (ih hinit hbefore) hthere last).trans h

theorem read_of_tree (htree : e.root = d.root) (h : e.locate dir' = d.locate dir) :
    e.read dir' = d.read dir := by
  rw [read, read, node, node, h, htree]

theorem exists_of_read {text : String} (h : d.read path = .ok text) : d.exists_ path = true := by
  unfold read at h
  split at h
  · rename_i hnode
    rw [exists_, hnode]
    rfl
  · cases h
  · cases h

theorem isDir_of_read {text : String} (hdir : dir ≠ "") (hname : IsName name)
    (hread : d.read (join dir name) = .ok text) : d.isDir dir = true := by
  obtain ⟨names, n, hnames, -⟩ := exists_eq_true_iff.mp (exists_of_read hread)
  obtain ⟨above, entries, habove, hthere, -⟩ := locate_join hdir hname hnames
  rw [isDir, node_of_locate habove, hthere]
  rfl

end Disk
end LayeredSite
