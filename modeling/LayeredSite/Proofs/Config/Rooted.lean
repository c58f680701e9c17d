import LayeredSite.Proofs.Config.Resolved
import LayeredSite.Proofs.Disk.Behind

namespace LayeredSite

open LayeredSite.Path

/-- The characters of a path are those of its segments, besides the slashes. -/
theorem Path.mem_segments_iff {c : Char} (hc : c ≠ '/') (cs : List Char) :
    (∃ s ∈ segments cs, c ∈ s) ↔ c ∈ cs := by
  induction cs with
  | nil => simp [segments]
  | cons x cs ih =>
    rw [segments, List.mem_cons, ← ih]
    split
    · rename_i hx
      simp [hx, hc]
    · cases hsegs : segments cs with
      | nil => exact absurd hsegs (segments_ne_nil cs)
      | cons s more => simp [or_assoc]

namespace Disk

variable {d e : Disk} {root : Node} {above names start texts : List String}
  {path whole : String} {entries : List (String × Node)}

theorem named_absolute (h : ∀ name ∈ names, IsName name) : named (absolute names) = names := by
  by_cases hnone : names = []
  · rw [hnone]
    decide
  · have htext : (absolute names).toList = [] ++ '/' :: ("/".intercalate names).toList := by
      rw [absolute, String.toList_append]
      rfl
    have hsome : names.filter (!·.isEmpty) = names :=
      List.filter_eq_self.mpr fun name hname => by simpa using (h name hname).1
    rw [named, htext, segments_append, segments_names hnone h]
    simpa [segments, Function.comp_def] using hsome

theorem steps_absolute (h : ∀ name ∈ names, IsName name) (hne : names ≠ []) :
    steps (absolute names) = names := by
  have hdir : ("/" : String) ≠ "" := by decide
  have hrelative := isAbsolute_names hne h
  have hjoin : absolute names = join "/" ("/".intercalate names) := by
    rw [join, if_neg (by simp [hrelative])]
    rfl
  obtain ⟨front, last, hsegs, hlast⟩ := segments_join_names hdir hne h
  have hend : ((segments (absolute names).toList).map String.ofList).getLast? ≠ some "" := by
    rw [hjoin, hsegs, List.map_append, List.map_singleton, List.getLast?_concat]
    intro he
    exact hlast (.inl (by simpa using congrArg String.toList (Option.some.inj he)))
  have hdef : steps (absolute names) =
      if ((segments (absolute names).toList).map String.ofList).getLast? == some "" &&
        !(named (absolute names)).isEmpty then named (absolute names) ++ ["."]
      else named (absolute names) := rfl
  rw [hdef, beq_eq_false_iff_ne.mpr hend, Bool.false_and, if_neg Bool.false_ne_true,
    named_absolute h]

theorem place_absolute (h : ∀ name ∈ names, IsName name) (d : Disk) :
    d.place (absolute names) = names := by
  have hroot : isAbsolute (absolute names) = isAbsolute "/" := isAbsolute_absolute names
  have hmoves : moves (absolute names) = moves "/" ++ names.map .name := by
    rw [moves_absolute h]
    rfl
  exact (place_append hroot hmoves).trans (List.nil_append names)

/-- The names of a place were all taken as steps, unless they were there at the start. -/
theorem mem_of_follow (h : follow root start texts = .ok names) :
    ∀ name ∈ names, name ∈ start ∨ name ∈ texts ∧ name.utf8ByteSize ≤ 255 := by
  induction texts generalizing start with
  | nil =>
    cases h
    exact fun name hname => .inl hname
  | cons t rest ih =>
    rw [follow] at h
    split at h
    · cases h
    · cases h
    · split at h
      · cases h
      · rename_i hshort
        intro name hname
        rcases ih h name hname with hname | ⟨hname, hsize⟩
        · split at hname
          · exact .inl hname
          · split at hname
            · exact .inl (List.mem_of_mem_dropLast hname)
            · rcases List.mem_append.mp hname with hname | hname
              · exact .inl hname
              · obtain rfl := List.mem_singleton.mp hname
                exact .inr ⟨List.mem_cons_self, Nat.le_of_not_lt hshort⟩
        · exact .inr ⟨List.mem_cons_of_mem _ hname, hsize⟩

/-- Short names lead through directories. -/
theorem follow_names (hnames : ∀ name ∈ names, IsName name ∧ name.utf8ByteSize ≤ 255)
    (hdirs : ∀ before, before <+: names → before ≠ names →
      ∃ entries, root.get (start ++ before) = .ok (.dir entries)) :
    follow root start names = .ok (start ++ names) := by
  induction names generalizing start with
  | nil => rw [follow, List.append_nil]
  | cons name rest ih =>
    obtain ⟨⟨hname, hsize⟩, hrest⟩ := List.forall_mem_cons.mp hnames
    obtain ⟨entries, hthere⟩ := hdirs [] List.nil_prefix (List.cons_ne_nil name rest).symm
    rw [List.append_nil] at hthere
    rw [follow, hthere]
    dsimp only
    rw [if_neg (Nat.not_lt_of_le hsize), if_neg hname.2.1, if_neg hname.2.2.1,
      ih hrest fun before hbefore hne => ?_, List.append_assoc]
    · rfl
    · rw [List.append_assoc]
      exact hdirs (name :: before) (List.cons_prefix_cons.mpr ⟨rfl, hbefore⟩)
        fun he => hne (List.cons.inj he).2

theorem isName_of_locate (hroot : isAbsolute path = true) (h : d.locate path = .ok names) :
    ∀ name ∈ names, IsName name := by
  rw [place_of_locate h, place, if_pos hroot]
  exact isName_of_mem_foldl_move (fun c hc => of_mem_moves hc)
    fun _ hname => absurd hname List.not_mem_nil

theorem mem_absolute_iff (h : ∀ name ∈ names, IsName name) {c : Char} (hc : c ≠ '/') :
    c ∈ (absolute names).toList ↔ ∃ name ∈ names, c ∈ name.toList := by
  by_cases hnone : names = []
  · subst hnone
    simp [absolute, hc]
  · have hmem := mem_segments_iff hc ("/".intercalate names).toList
    rw [segments_names hnone h] at hmem
    rw [absolute, String.toList_append, List.mem_append, ← hmem]
    simp [hc]

theorem nul_not_mem_of_mem_steps (h : '\x00' ∉ path.toList) {t : String} (ht : t ∈ steps path) :
    '\x00' ∉ t.toList := by
  have hnamed : ∀ t ∈ named path, '\x00' ∉ t.toList := by
    intro t ht hnul
    obtain ⟨s, hs, rfl⟩ := List.mem_map.mp (List.mem_filter.mp ht).1
    rw [String.toList_ofList] at hnul
    exact h ((mem_segments_iff (by decide) path.toList).mp ⟨s, hs, hnul⟩)
  rcases steps_cases path with hsteps | hsteps
  · exact hnamed t (hsteps ▸ ht)
  · rw [hsteps] at ht
    rcases List.mem_append.mp ht with ht | ht
    · exact hnamed t ht
    · rw [List.mem_singleton.mp ht]
      decide

/-- The absolute path of a place that an absolute path leads to leads there as well. -/
theorem locate_absolute (hroot : isAbsolute path = true) (h : d.locate path = .ok names) :
    d.locate (absolute names) = .ok names := by
  have hname := isName_of_locate hroot h
  obtain ⟨-, hnul, hfollow⟩ := locate_eq_ok_iff.mp h
  rw [if_pos hroot] at hfollow
  have hmem := mem_of_follow hfollow
  refine locate_eq_ok_iff.mpr ⟨ne_empty_of_isAbsolute (isAbsolute_absolute names), ?_, ?_⟩
  · rw [mem_absolute_iff hname (by decide)]
    rintro ⟨name, hn, hmem'⟩
    have hstep := ((hmem name hn).resolve_left List.not_mem_nil).1
    exact nul_not_mem_of_mem_steps hnul hstep hmem'
  · rw [if_pos (isAbsolute_absolute names)]
    by_cases hnone : names = []
    · subst hnone
      have hsteps : steps (absolute []) = [] := by decide
      rw [hsteps, follow]
    · rw [steps_absolute hname hnone, follow_names fun name hn => ⟨hname name hn, ?_⟩,
        List.nil_append]
      · exact fun before hbefore hne => grounded_of_locate h before hbefore hne
      · exact ((hmem name hn).resolve_left List.not_mem_nil).2

theorem canonical?_of_locate (h : d.locate path = .ok names) {n : Node}
    (hthere : d.root.get names = .ok n) : d.canonical? path = some (absolute names) := by
  rw [canonical?, h]
  dsimp only
  rw [hthere]
  rfl

theorem locate_of_canonical? (h : d.canonical? path = some whole) :
    d.locate path = .ok (d.place path) := by
  unfold canonical? at h
  split at h
  · rename_i names hpath
    rw [hpath, place_of_locate hpath]
  · cases h

end Disk

namespace SiteConfig

open LayeredSite.Disk

variable {d e : Disk} {above names : List String} {path root : String}
  {entries : List (String × Disk.Node)}

theorem normalize_cases (d : Disk) (path : String) :
    d.locate path = .ok (d.place path) ∧ normalize d path = absolute (d.place path) ∨
      isAbsolute path = true ∧ normalize d path = path ∨
      isAbsolute path = false ∧ normalize d path = join d.currentPath path := by
  unfold normalize
  split
  · rename_i whole hwhole
    exact .inl ⟨locate_of_canonical? hwhole, eq_of_canonical? hwhole⟩
  · split
    · rename_i hroot
      exact .inr (.inl ⟨hroot, rfl⟩)
    · rename_i hroot
      exact .inr (.inr ⟨Bool.eq_false_iff.mpr hroot, rfl⟩)

theorem locate_normalize (hroot : isAbsolute path = true) (h : d.locate path = .ok names) :
    d.locate (normalize d path) = .ok names := by
  rcases normalize_cases d path with ⟨hpath, he⟩ | ⟨-, he⟩ | ⟨hrelative, -⟩
  · rw [h] at hpath
    rw [he, ← Except.ok.inj hpath]
    exact locate_absolute hroot h
  · rwa [he]
  · rw [hroot] at hrelative
    cases hrelative

theorem place_normalize (hroot : isAbsolute path = true) (d : Disk) :
    d.place (normalize d path) = d.place path := by
  rcases normalize_cases d path with ⟨hpath, he⟩ | ⟨-, he⟩ | ⟨hrelative, -⟩
  · rw [he]
    exact place_absolute (isName_of_locate hroot hpath) d
  · rw [he]
  · rw [hroot] at hrelative
    cases hrelative

section Current

variable (hcurrent : ∀ name ∈ d.current, IsName name)

include hcurrent

theorem place_join_current (hpath : isAbsolute path = false) :
    d.place (join d.currentPath path) = d.place path := by
  have hplace := place_absolute hcurrent d
  rw [place, if_pos (isAbsolute_absolute d.current)] at hplace
  rw [place, place, isAbsolute_join hpath, currentPath, if_pos (isAbsolute_absolute d.current),
    moves_join hpath, List.foldl_append, hplace, if_neg (by simp [hpath])]

/-- A path that leads somewhere behind the current directory leads there by itself. -/
theorem locate_of_join_current (hpath : isAbsolute path = false) (hne : path ≠ "")
    (h : d.locate (join d.currentPath path) = .ok names) : d.locate path = .ok names := by
  have hempty := ne_empty_of_isAbsolute (isAbsolute_absolute d.current)
  obtain ⟨-, hnul, hfollow⟩ := locate_eq_ok_iff.mp h
  rw [isAbsolute_join hpath, currentPath, if_pos (isAbsolute_absolute d.current),
    steps_join_append hempty hpath hne, named_absolute hcurrent, follow_append] at hfollow
  obtain ⟨before, hbefore, hlast⟩ := exists_of_bind_eq_ok hfollow
  have hmoves : d.current.filterMap (fun t => component? t.toList) = d.current.map .name := by
    rw [← List.filterMap_eq_map]
    exact List.filterMap_congr fun name hname => component?_of_isName (hcurrent name hname)
  have hplace := place_absolute hcurrent d
  rw [place, if_pos (isAbsolute_absolute d.current), moves_absolute hcurrent, ← hmoves,
    ← follow_eq (fun t ht => (hcurrent t ht).1) hbefore] at hplace
  obtain ⟨a, -, hjoin, -, -⟩ := join_eq hempty hpath
  refine locate_eq_ok_iff.mpr ⟨hne, fun hmem => hnul ?_, ?_⟩
  · rw [currentPath, hjoin]
    simp [hmem]
  · rwa [if_neg (by simp [hpath]), ← hplace]

/-- Behind a root a path leads where it leads behind the absolute path of the root. -/
theorem locate_join_normalize (h : d.locate (normalize d root) = .ok above)
    (hthere : d.root.get above = .ok (.dir entries)) (hne : path ≠ "") :
    d.locate (join root path) = d.locate (join (normalize d root) path) := by
  by_cases hpath : isAbsolute path = true
  · rw [join, join, if_pos hpath, if_pos hpath]
  · have hcongr (hroot : d.locate root = .ok above) :
        d.locate (join root path) = d.locate (join (normalize d root) path) :=
      locate_join_congr rfl h hroot hthere path
    rcases normalize_cases d root with ⟨hroot, he⟩ | ⟨-, he⟩ | ⟨hrelative, he⟩
    · rw [he] at h
      refine hcongr (hroot.trans ?_)
      rw [place_of_locate h, place_absolute (isName_of_mem_place hcurrent root)]
    · rw [he]
    · by_cases hempty : root = ""
      · -- The empty path leads nowhere, but what is behind it is in the current directory.
        have hpath' := Bool.eq_false_iff.mpr hpath
        have habove : above = d.current := by
          rw [place_of_locate h, he, place_join_current hcurrent hrelative, hempty]
          rfl
        have hjoin : join root path = path := by
          rw [hempty, join, if_neg hpath]
          exact String.empty_append
        rw [locate_join_of_dir h hthere hpath' hne, habove, hjoin]
      · exact hcongr (locate_of_join_current hcurrent hrelative hempty (he ▸ h))

/-- A root that once led somewhere leads there again if paths go on leading where they led. -/
theorem locate_normalize_of_later (hsame : e.current = d.current)
    (hlater : ∀ path names, d.locate path = .ok names → e.locate path = .ok names)
    (h : e.locate (normalize d root) = .ok above)
    (hthere : e.root.get above = .ok (.dir entries)) :
    e.locate (normalize e root) = .ok above := by
  have hagain (hroot : e.locate root = .ok above) (hroot' : isAbsolute (normalize d root) = true) :
      e.locate (normalize e root) = .ok above := by
    rw [normalize, canonical?_of_locate hroot hthere]
    exact locate_absolute hroot' h
  have habsolute := isAbsolute_normalize d root
  rcases normalize_cases d root with ⟨hroot, he⟩ | ⟨-, he⟩ | ⟨hrelative, he⟩
  · refine hagain ((hlater root _ hroot).trans ?_) habsolute
    rw [he] at h
    rw [place_of_locate h, place_absolute (isName_of_mem_place hcurrent root)]
  · exact hagain (he ▸ h) habsolute
  · rw [he, show d.currentPath = e.currentPath by rw [currentPath, currentPath, hsame]] at h
    by_cases hempty : root = ""
    · rw [hempty] at h ⊢
      exact h
    · refine hagain (locate_of_join_current (hsame ▸ hcurrent) hrelative hempty h) habsolute

end Current

end SiteConfig
end LayeredSite
