import LayeredSite.Proofs.Disk.Differences
import LayeredSite.Proofs.Path.Relative

namespace LayeredSite

open LayeredSite.Path

namespace Disk

variable {d d' d'' : Disk} {root n : Node} {place names start : List String}
  {path dir name text : String} {time : Int}

/-- All that is on a disk is still there: files are the same, and directories are directories. -/
structure Grows (d d' : Disk) : Prop where
  current : d'.current = d.current
  node : ∀ names n, d.root.get names = .ok n → ∃ n', d'.root.get names = .ok n' ∧ n.Kept n'

theorem Grows.refl (d : Disk) : d.Grows d := ⟨rfl, fun _ n hn => ⟨n, hn, .refl n⟩⟩

theorem Grows.trans (h : d.Grows d') (h' : d'.Grows d'') : d.Grows d'' := by
  refine ⟨h'.current.trans h.current, fun names n hn => ?_⟩
  obtain ⟨n', hn', hkept⟩ := h.node names n hn
  obtain ⟨n'', hn'', hkept'⟩ := h'.node names n' hn'
  exact ⟨n'', hn'', hkept.trans hkept'⟩

theorem Grows.file (h : d.Grows d') (hfile : d.root.get names = .ok (.file text time)) :
    d'.root.get names = .ok (.file text time) := by
  obtain ⟨n', hn', hkept⟩ := h.node names _ hfile
  cases hkept with
  | file => exact hn'

/-- A disk goes on growing if nothing was at the one place that is not kept. -/
theorem Grows.keeps (h : d.Grows d') (hkeeps : d'.Keeps place d'')
    (hplace : ∀ n, d.root.get place ≠ .ok n) : d.Grows d'' := by
  refine ⟨hkeeps.current.trans h.current, fun names n hn => ?_⟩
  obtain ⟨n', hn', hkept⟩ := h.node names n hn
  have hother : names ≠ place := fun he => hplace n (he ▸ hn)
  obtain ⟨n'', hn'', hkept'⟩ := hkeeps.node names n' hn' (.inr hother)
  exact ⟨n'', hn'', hkept.trans hkept'⟩

theorem grows_of_keeps (h : ∀ place, d.Keeps place d') : d.Grows d' :=
  ⟨(h []).current, fun names n hn => (h ("" :: names)).node names n hn
    (.inr (List.cons_ne_self "" names).symm)⟩

theorem Node.get_of_prefix {above : List String} (h : root.get names = .ok n)
    (habove : above <+: names) : ∃ m, root.get above = .ok m := by
  obtain ⟨below, rfl⟩ := habove
  rw [get_append] at h
  cases hget : root.get above with
  | error e =>
    rw [hget] at h
    cases h
  | ok m => exact ⟨m, rfl⟩

/-- A path without `..` passes places above the one that it leads to. -/
theorem Passes.prefix_place (hdown : Component.parent ∉ moves path) (h : d.Passes path names) :
    names <+: d.place path := by
  obtain ⟨before, ⟨after, hmoves⟩, rfl⟩ := h
  rw [place, ← hmoves, List.foldl_append]
  refine prefix_foldl_move (fun c hc => ?_) _
  have hmem : c ∈ moves path := hmoves ▸ List.mem_append_right before hc
  obtain rfl | ⟨name, rfl, -⟩ := of_mem_moves hmem
  · exact absurd hmem hdown
  · exact ⟨name, rfl⟩

/-- A path without `..` that leads to something that was there has always led there. -/
theorem Grows.locate_back (h : d.Grows d') (hdown : Component.parent ∉ moves path)
    (hpath : d'.locate path = .ok names) (hn : d.root.get names = .ok n) :
    d.locate path = .ok names := by
  rw [← hpath]
  refine (locate_congr h.current fun passed hpassed => ?_).symm
  obtain rfl : names = d.place path := by
    rw [place_of_locate hpath, place_eq_of_current h.current]
  obtain ⟨m, hm⟩ := Node.get_of_prefix hn (hpassed.prefix_place hdown)
  obtain ⟨m', hm', hkept⟩ := h.node passed m hm
  rw [shapeAt, shapeAt, hm, hm', Except.map, Except.map, hkept.isDir]

/-- A path without `..` that leads to nothing. With a `..` it could come to lead to something old
when a disk grows: `new/../notes` leads nowhere until `new` is made. -/
structure Missing (d : Disk) (path : String) : Prop where
  nonempty : path ≠ ""
  down : Component.parent ∉ moves path
  nothing : d.exists_ path = false

theorem exists_eq_true_iff : d.exists_ path = true ↔
    ∃ names n, d.locate path = .ok names ∧ d.root.get names = .ok n := by
  rw [exists_]
  constructor
  · intro h
    cases hnode : d.node path with
    | error e =>
      rw [hnode] at h
      cases h
    | ok n =>
      obtain ⟨names, hpath, hn⟩ := exists_of_bind_eq_ok hnode
      exact ⟨names, n, hpath, hn⟩
  · rintro ⟨names, n, hpath, hn⟩
    rw [node_of_locate hpath, hn]
    rfl

/-- Even on a disk that has grown, nothing that was there is at the path. -/
theorem Missing.get_ne (h : d.Missing path) (hgrows : d.Grows d')
    (hpath : d'.locate path = .ok names) : d.root.get names ≠ .ok n := by
  intro hn
  have hthere := exists_eq_true_iff.mpr ⟨names, n, hgrows.locate_back h.down hpath hn, hn⟩
  rw [h.nothing] at hthere
  cases hthere

example : exists_ ⟨.dir [("notes", .file "mine" 0)], []⟩ "new/../notes" = false ∧
    exists_ ⟨.dir [("new", .dir []), ("notes", .file "mine" 0)], []⟩ "new/../notes" = true := by
  decide

def named (path : String) : List String :=
  ((segments path.toList).map String.ofList).filter (!·.isEmpty)

theorem steps_cases (path : String) :
    steps path = named path ∨ steps path = named path ++ ["."] := by
  unfold steps
  dsimp only
  split
  · exact .inr rfl
  · exact .inl rfl

theorem steps_join (hdir : dir ≠ "") (hname : IsName name) :
    steps (join dir name) = named dir ++ [name] := by
  have hslash : '/' ∉ name.toList := hname.2.2.2
  obtain ⟨a, blanks, hjoin, hsegs, hblanks⟩ := join_eq hdir (Url.isAbsolute_of_not_mem hslash)
  have hnamed : named dir = ((segments a).map String.ofList).filter (!·.isEmpty) := by
    have hnone : (blanks.map String.ofList).filter (!·.isEmpty) = [] := by
      simpa [List.filter_eq_nil_iff] using hblanks
    rw [named, hsegs, List.map_append, List.filter_append, hnone, List.append_nil]
  have hall : (segments (join dir name).toList).map String.ofList =
      (segments a).map String.ofList ++ [name] := by
    rw [hjoin, segments_append, segments_of_not_mem hslash, List.map_append, List.map_singleton,
      String.ofList_toList]
  unfold steps
  rw [hall]
  simp [hnamed, hname.1]

theorem follow_append (root : Node) (start before after : List String) :
    follow root start (before ++ after) = follow root start before >>= (follow root · after) := by
  induction before generalizing start with
  | nil => rfl
  | cons step before ih =>
    rw [List.cons_append, follow, follow]
    split
    · rfl
    · rfl
    · split
      · rfl
      · exact ih _

theorem follow_name {above : List String} (hname : IsName name)
    (h : follow root above [name] = .ok names) :
    ∃ entries, root.get above = .ok (.dir entries) ∧ names = above ++ [name] := by
  rw [follow] at h
  split at h
  · cases h
  · cases h
  · rename_i entries hentries
    split at h
    · cases h
    · rw [if_neg hname.2.1, if_neg hname.2.2.1] at h
      exact ⟨entries, hentries, (Except.ok.inj h).symm⟩

/-- A name behind a directory leads into the directory, which is there. -/
theorem locate_join (hdir : dir ≠ "") (hname : IsName name)
    (h : d.locate (join dir name) = .ok names) : ∃ above entries, d.locate dir = .ok above ∧
      d.root.get above = .ok (.dir entries) ∧ names = above ++ [name] := by
  have hrelative := Url.isAbsolute_of_not_mem hname.2.2.2
  obtain ⟨-, hnul, hfollow⟩ := locate_eq_ok_iff.mp h
  rw [isAbsolute_join hrelative, steps_join hdir hname, follow_append] at hfollow
  obtain ⟨above, habove, hlast⟩ := exists_of_bind_eq_ok hfollow
  obtain ⟨entries, hentries, rfl⟩ := follow_name hname hlast
  have hdot : follow d.root above ["."] = .ok above := by
    rw [follow, hentries]
    rfl
  refine ⟨above, entries, locate_eq_ok_iff.mpr
    ⟨hdir, fun hmem => hnul (subset_join hrelative dir hmem), ?_⟩, hentries, rfl⟩
  rcases steps_cases dir with hsteps | hsteps
  · rw [hsteps, habove]
  · rw [hsteps, follow_append, habove]
    exact hdot

theorem Missing.join (h : d.Missing dir) (hname : IsName name) : d.Missing (join dir name) := by
  have hrelative := Url.isAbsolute_of_not_mem hname.2.2.2
  refine ⟨fun he => ?_, ?_, ?_⟩
  · have hsubset := subset_join hrelative dir
    rw [he] at hsubset
    exact h.nonempty (String.toList_injective (List.subset_nil.mp hsubset))
  · rw [moves_join hrelative, List.mem_append]
    rintro (hdir | hlast)
    · exact h.down hdir
    · rw [moves, segments_of_not_mem hname.2.2.2] at hlast
      simp [component?_of_isName hname] at hlast
  · by_contra hthere
    obtain ⟨names, n, hnames, -⟩ := exists_eq_true_iff.mp ((Bool.not_eq_false _).mp hthere)
    obtain ⟨above, entries, habove, hentries, -⟩ := locate_join h.nonempty hname hnames
    have hdir := exists_eq_true_iff.mpr ⟨above, _, habove, hentries⟩
    rw [h.nothing] at hdir
    cases hdir

/-- Writing where nothing is takes nothing away. -/
theorem Grows.write (h : d.Grows d') (hnothing : d'.exists_ path = false)
    (hwrite : d'.write path text time = .ok d'') : d.Grows d'' := by
  obtain ⟨names, hpath, hkeeps, -⟩ := write_eq_ok hwrite
  refine h.keeps hkeeps fun n hn => ?_
  obtain ⟨n', hn', -⟩ := h.node names n hn
  have hthere := exists_eq_true_iff.mpr ⟨names, n', hpath, hn'⟩
  rw [hnothing] at hthere
  cases hthere

end Disk

namespace Output

open LayeredSite.Disk

variable {d d' d'' : Disk} {path text : String} {time : Int}

theorem grows_left (d : Disk) (path : String) : d.Grows (left d path) :=
  grows_of_keeps (keeps_left d path)

/-- The directories above a file are made first, after which it is still missing from before. -/
theorem grows_write (hmissing : d.Missing path) (h : d.Grows d')
    (hwrite : write d' path text time = .ok d'') : d.Grows d'' := by
  obtain ⟨above, hmade, hfile⟩ := steps_of_write hwrite
  have habove : d.Grows above := by
    rcases hmade with rfl | ⟨parent, -, hmake⟩
    · exact h
    · exact h.trans (grows_of_keeps (keeps_of_makeDirsWithin hmake))
  obtain ⟨names, hpath, hkeeps, -⟩ := Disk.write_eq_ok hfile
  exact habove.keeps hkeeps fun n => hmissing.get_ne habove hpath

end Output
end LayeredSite
