import LayeredSite.Proofs.Disk.Looks

namespace LayeredSite

open LayeredSite.Path

namespace Disk

variable {P Q : List String → Prop} {d d' d'' : Disk} {root new : Node}
  {names place other start : List String} {path text : String} {time : Int}

def Node.Grounded (root : Node) (names : List String) : Prop :=
  ∀ above, above <+: names → above ≠ names → ∃ entries, root.get above = .ok (.dir entries)

namespace Node

theorem grounded_of_get {n : Node} (h : root.get names = .ok n) : root.Grounded names := by
  rintro above ⟨below, rfl⟩ hne
  rw [get_append] at h
  rcases hget : root.get above with e | ⟨text, time⟩ | entries
  · rw [hget] at h
    cases h
  · rw [hget] at h
    cases below with
    | nil => exact absurd (List.append_nil above).symm hne
    | cons name rest => cases h
  · exact ⟨entries, rfl⟩

/-- The places above one that a directory holds are above the directory, or it itself. -/
theorem grounded_append {entries : List (String × Node)} (h : root.get names = .ok (.dir entries))
    (name : String) : root.Grounded (names ++ [name]) := by
  intro above habove hne
  rcases List.prefix_concat_iff.mp habove with rfl | hinit
  · exact absurd rfl hne
  · by_cases he : above = names
    · exact ⟨entries, he ▸ h⟩
    · exact grounded_of_get h above hinit he

theorem grounded_dropLast {n : Node} (h : root.get names = .ok n) :
    root.Grounded names.dropLast := by
  intro above habove hne
  refine grounded_of_get h above (habove.trans (List.dropLast_prefix names)) ?_
  rintro rfl
  exact hne (habove.eq_of_length_le (by simp))

/-- A node that is put somewhere is not seen from elsewhere, but above it directories stay. -/
theorem get_put_cases (hground : root.Grounded names) (h : ¬ names <+: other) :
    (root.put names new).get other = root.get other ∨
      ∃ entries entries', root.get other = .ok (.dir entries) ∧
        (root.put names new).get other = .ok (.dir entries') := by
  induction names generalizing root other with
  | nil => exact absurd List.nil_prefix h
  | cons name rest ih =>
    obtain ⟨entries, hroot⟩ := hground [] List.nil_prefix (List.cons_ne_nil name rest).symm
    cases hroot
    cases other with
    | nil => exact .inr ⟨entries, _, rfl, rfl⟩
    | cons o below =>
      rw [put, get, get]
      by_cases ho : o = name
      · subst ho
        have hbelow : ¬ rest <+: below := fun hinit => h (List.cons_prefix_cons.mpr ⟨rfl, hinit⟩)
        rw [Fields.get?_insert_self]
        cases hchild : Fields.get? entries o with
        -- The missing child would have to be a directory above the place that is written.
        | none =>
          have hrest : rest ≠ [] := fun he => hbelow (he ▸ List.nil_prefix)
          obtain ⟨entries', hdir⟩ :=
            hground [o] (List.prefix_append [o] rest) (by simp [Ne.symm hrest])
          rw [get, hchild] at hdir
          cases hdir
        | some child =>
          refine ih (fun above habove hne => ?_) hbelow
          obtain ⟨entries', hdir⟩ := hground (o :: above) (List.cons_prefix_cons.mpr ⟨rfl, habove⟩)
            (fun he => hne (List.cons.inj he).2)
          rw [get, hchild] at hdir
          exact ⟨entries', hdir⟩
      · rw [Fields.get?_insert_of_ne ho]
        exact .inl rfl

end Node

theorem grounded_of_follow {texts : List String} (h : follow root start texts = .ok names)
    (hstart : texts = [] → root.Grounded start) : root.Grounded names := by
  induction texts generalizing start with
  | nil =>
    cases h
    exact hstart rfl
  | cons t rest ih =>
    rw [follow] at h
    split at h
    · cases h
    · cases h
    · rename_i entries hdir
      split at h
      · cases h
      · refine ih h fun _ => ?_
        split
        · exact Node.grounded_of_get hdir
        · split
          · exact Node.grounded_dropLast hdir
          · exact Node.grounded_append hdir t

theorem steps_ne_nil (hne : path ≠ "") (h : isAbsolute path = false) : steps path ≠ [] := by
  cases hpath : path.toList with
  | nil => exact absurd (String.toList_injective hpath) hne
  | cons c cs =>
    have hc : c ≠ '/' := fun he => isAbsolute_eq_false_iff.mp h cs (he ▸ hpath)
    obtain ⟨s, more, hsegs⟩ : ∃ s more, segments path.toList = (c :: s) :: more := by
      rw [hpath, segments, if_neg hc]
      split
      · exact ⟨_, _, rfl⟩
      · exact ⟨_, _, rfl⟩
    unfold steps
    rw [hsegs]
    dsimp only
    split <;> simp

/-- The last step of a path is taken in a directory, so its place is in one. -/
theorem grounded_of_locate (h : d.locate path = .ok names) : d.root.Grounded names := by
  obtain ⟨hempty, -, hfollow⟩ := locate_eq_ok_iff.mp h
  refine grounded_of_follow hfollow fun hnone => ?_
  by_cases hroot : isAbsolute path = true
  · rw [if_pos hroot]
    intro above habove hne
    exact absurd (List.prefix_nil.mp habove) hne
  · exact absurd hnone (steps_ne_nil hempty (by simpa using hroot))

/-- A disk looks different from another in places of a class only. -/
structure DiffersIn (P : List String → Prop) (d d' : Disk) : Prop where
  current : d'.current = d.current
  lookAt : ∀ names, ¬ P names → d'.lookAt names = d.lookAt names

namespace DiffersIn

theorem refl (P : List String → Prop) (d : Disk) : DiffersIn P d d := ⟨rfl, fun _ _ => rfl⟩

theorem trans (h : DiffersIn P d d') (h' : DiffersIn P d' d'') : DiffersIn P d d'' :=
  ⟨h'.current.trans h.current, fun names hP => (h'.lookAt names hP).trans (h.lookAt names hP)⟩

theorem mono (h : DiffersIn P d d') (hPQ : ∀ names, P names → Q names) : DiffersIn Q d d' :=
  ⟨h.current, fun names hQ => h.lookAt names (mt (hPQ names) hQ)⟩

/-- A path that passes none of the places sees no difference. -/
theorem alike (h : DiffersIn P d d') (hpath : ∀ names, d.Passes path names → ¬ P names) :
    Alike path d d' where
  current := h.current
  way names hnames := shapeAt_eq_of_lookAt (h.lookAt names (hpath names hnames))
  lookAt := h.lookAt _ (hpath _ (passes_place d path))

end DiffersIn

theorem lookAt_eq_of_cases {n n' : Except Fault Node} (h : n' = n ∨
      ∃ entries entries', n = .ok (.dir entries) ∧ n' = .ok (.dir entries')) :
    n'.map Node.look = n.map Node.look := by
  rcases h with rfl | ⟨entries, entries', rfl, rfl⟩
  · rfl
  · rfl

/-- Putting a node changes the looks of its place, and of places in it. -/
theorem differsIn_put (hground : d.root.Grounded place) (new : Node) :
    DiffersIn (place <+: ·) d { d with root := d.root.put place new } :=
  ⟨rfl, fun _ hnames => lookAt_eq_of_cases (Node.get_put_cases hground hnames)⟩

/-- A new directory is empty, and nothing was in its place. -/
theorem differsIn_makeDir (h : d.makeDir path = .ok d') :
    DiffersIn (· = d.place path) d d' ∧ d.lookAt (d.place path) = .error .notFound := by
  obtain ⟨names, hpath, hmake⟩ := exists_of_bind_eq_ok h
  rw [← place_of_locate hpath]
  split at hmake
  · cases hmake
  · rename_i hmissing
    cases hmake
    have hput := differsIn_put (grounded_of_locate hpath) (.dir [])
    refine ⟨⟨rfl, fun other hother => ?_⟩, by rw [lookAt, hmissing]; rfl⟩
    by_cases hbelow : names <+: other
    · obtain ⟨below, rfl⟩ := hbelow
      rw [lookAt, lookAt, Node.get_append, Node.get_append, hmissing, Node.get_put_self]
      cases below with
      | nil => exact absurd (List.append_nil names) hother
      | cons name rest => rfl
    · exact hput.lookAt other hbelow
  · cases hmake

/-- The places of a path where nothing is. -/
def Opens (d : Disk) (path : String) (names : List String) : Prop :=
  d.Passes path names ∧ d.lookAt names = .error .notFound

instance : DecidablePred (d.Opens path) := fun names =>
  inferInstanceAs (Decidable (d.Passes path names ∧ d.lookAt names = .error .notFound))

theorem DiffersIn.trans_opens (h : DiffersIn (d.Opens path) d d')
    (h' : DiffersIn (d'.Opens path) d' d'') : DiffersIn (d.Opens path) d d'' := by
  refine ⟨h'.current.trans h.current, fun names hnames => ?_⟩
  have hfirst := h.lookAt names hnames
  rw [Opens, ← passes_iff_of_current h.current, ← hfirst] at hnames
  rw [h'.lookAt names hnames, hfirst]

theorem differsIn_makeDir_opens (h : d.makeDir path = .ok d') : DiffersIn (d.Opens path) d d' := by
  obtain ⟨hdiffers, hmissing⟩ := differsIn_makeDir h
  refine hdiffers.mono ?_
  rintro names rfl
  exact ⟨passes_place d path, hmissing⟩

theorem differsIn_makeDirsWithin {n : ℕ} (h : makeDirsWithin n d path = .ok d') :
    DiffersIn (d.Opens path) d d' := by
  induction n generalizing d' path with
  | zero => cases h
  | succ n ih =>
    unfold makeDirsWithin at h
    split at h
    · cases h
      exact .refl _ d
    · split at h
      · rename_i hmake
        cases h
        exact differsIn_makeDir_opens hmake
      · dsimp only at h
        split at h
        · rename_i parent hparent
          -- The path above is made first, and what it opens is opened for this path too.
          obtain ⟨above, habove, hrest⟩ := exists_of_bind_eq_ok h
          have hdiffers : DiffersIn (d.Opens path) d above :=
            (ih habove).mono fun names hnames => ⟨hnames.1.of_parent? hparent, hnames.2⟩
          split at hrest
          · rename_i hmake
            cases hrest
            exact hdiffers.trans_opens (differsIn_makeDir_opens hmake)
          · split at hrest
            · cases hrest
              exact hdiffers
            · cases hrest
        · cases h
      · split at h
        · cases h
          exact .refl _ d
        · cases h

theorem differsIn_leftWithin (n : ℕ) (d : Disk) (path : String) :
    DiffersIn (d.Opens path) d (leftWithin n d path) := by
  induction n generalizing path with
  | zero => exact .refl _ d
  | succ n ih =>
    unfold leftWithin
    split
    · rename_i hmade
      exact differsIn_makeDirsWithin hmade
    · rename_i parent _ _ hparent
      exact (ih parent).mono fun names hnames => ⟨hnames.1.of_parent? hparent, hnames.2⟩
    · exact .refl _ d

theorem differsIn_write (h : d.write path text time = .ok d') :
    DiffersIn (d.place path <+: ·) d d' := by
  unfold Disk.write at h
  obtain ⟨names, hpath, hwrite⟩ := exists_of_bind_eq_ok h
  rw [← place_of_locate hpath]
  have hput := differsIn_put (grounded_of_locate hpath) (.file text time)
  split at hwrite
  · cases hwrite
  · cases hwrite
    exact hput
  · cases hwrite
    exact hput
  · cases hwrite

theorem differsIn_clear (h : Output.clear d path = .ok d') :
    DiffersIn (d.place path <+: ·) d d' := by
  rcases clear_eq_ok h with rfl | rfl
  · exact .refl _ d'
  · exact ⟨rfl, fun _ hnames => lookAt_eq_of_cases
      ((Node.get_erase_cases hnames).imp_right And.right)⟩

/-- Clearing a directory changes nothing in a place that is neither in it nor above it. -/
theorem get_of_clear_apart (h : Output.clear d path = .ok d') (hin : ¬ d.place path <+: names)
    (habove : ¬ names <+: d.place path) : d'.root.get names = d.root.get names := by
  rcases clear_eq_ok h with rfl | rfl
  · rfl
  · exact (Node.get_erase_cases hin).resolve_right fun hcase => habove hcase.1

end Disk

namespace Output

variable {d d' : Disk} {path text : String} {time : Int}

/-- A page changes the looks of its place, and of missing directories that its path passes. -/
theorem differsIn_write (h : write d path text time = .ok d') :
    Disk.DiffersIn (fun names => d.Opens path names ∨ d.place path <+: names) d d' := by
  obtain ⟨above, hmade, hwrite⟩ := steps_of_write h
  have habove : Disk.DiffersIn (d.Opens path) d above := by
    rcases hmade with rfl | ⟨parent, hparent, hmake⟩
    · exact .refl _ above
    · exact (Disk.differsIn_makeDirsWithin hmake).mono fun names hnames =>
        ⟨hnames.1.of_parent? hparent, hnames.2⟩
  have hfile := Disk.differsIn_write hwrite
  rw [Disk.place_eq_of_current habove.current] at hfile
  exact (habove.mono fun _ => .inl).trans (hfile.mono fun _ => .inr)

theorem differsIn_left (d : Disk) (path : String) :
    Disk.DiffersIn (d.Opens path) d (left d path) := by
  unfold left
  split
  · exact .refl _ d
  · rename_i parent hparent
    exact (Disk.differsIn_leftWithin _ d parent).mono fun names hnames =>
      ⟨hnames.1.of_parent? hparent, hnames.2⟩

theorem differsIn_put (d : Disk) (path text : String) (time : Int) :
    Disk.DiffersIn (fun names => d.Opens path names ∨ d.place path <+: names) d
      (put d path text time).2 := by
  rw [put]
  cases hwrite : write d path text time with
  | ok d' => exact differsIn_write hwrite
  | error e => exact (differsIn_left d path).mono fun _ => .inl

/-- Only a file in the place of the page can change, whether or not the page is written. -/
theorem keeps_put (d : Disk) (path text : String) (time : Int) :
    d.Keeps (d.place path) (put d path text time).2 := by
  rw [put]
  cases hwrite : write d path text time with
  | ok d' =>
    obtain ⟨names, hpath, hkeeps, -⟩ := write_eq_ok hwrite
    obtain rfl : names = d.place path := by
      rw [Disk.place_of_locate hpath, Disk.place_eq_of_current hkeeps.current]
    exact hkeeps
  | error e => exact keeps_left d path _

end Output
end LayeredSite
