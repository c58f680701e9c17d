import LayeredSite.Proofs.Disk.Writing
import LayeredSite.Proofs.Site.OutputPath

namespace LayeredSite

open LayeredSite.Path

def Path.Component.move (place : List String) : Component → List String
  | root => []
  | current => place
  | parent => place.dropLast
  | name s => place ++ [s]

def Disk.place (d : Disk) (path : String) : List String :=
  (moves path).foldl Component.move (if isAbsolute path then [] else d.current)

namespace Disk

variable {d d' : Disk} {place names : List String} {path : String}

/-- A step leads where its component moves. -/
theorem step_eq {t : String} (ht : t ≠ "") (place : List String) :
    (if t = "." then place else if t = ".." then place.dropLast else place ++ [t]) =
      (component? t.toList).toList.foldl Component.move place := by
  rw [Url.component?_toList]
  by_cases hdot : t = "."
  · subst hdot
    rfl
  · have hleads : t ≠ "" ∧ t ≠ "." := ⟨ht, hdot⟩
    rw [if_neg hdot, if_pos hleads, Url.moveOf]
    split <;> rfl

theorem follow_eq {root : Node} {start texts : List String} (htexts : ∀ t ∈ texts, t ≠ "")
    (h : follow root start texts = .ok names) :
    names = (texts.filterMap fun t => component? t.toList).foldl Component.move start := by
  induction texts generalizing start with
  | nil =>
    cases h
    rfl
  | cons t rest ih =>
    obtain ⟨ht, hrest⟩ := List.forall_mem_cons.mp htexts
    rw [follow] at h
    split at h
    · cases h
    · cases h
    · split at h
      · cases h
      · rw [step_eq ht] at h
        rw [ih hrest h, List.filterMap_cons]
        cases component? t.toList <;> rfl

theorem moves_of_steps (path : String) :
    (steps path).filterMap (fun t => component? t.toList) = moves path := by
  have hnamed (segs : List (List Char)) : ((segs.map String.ofList).filter
      (!·.isEmpty)).filterMap (fun t => component? t.toList) = segs.filterMap component? := by
    induction segs with
    | nil => rfl
    | cons s segs ih =>
      by_cases hs : s = []
      · subst hs
        exact ih
      · have hkept : (!(String.ofList s).isEmpty) = true := by simpa using hs
        rw [List.map_cons, List.filter_cons, if_pos hkept, List.filterMap_cons,
          List.filterMap_cons, ih, String.toList_ofList]
  have hdot : ["."].filterMap (fun t : String => component? t.toList) = [] := rfl
  unfold steps
  dsimp only
  split
  · rw [List.filterMap_append, hnamed, hdot, List.append_nil, moves]
  · rw [hnamed, moves]

theorem ne_empty_of_mem_steps {t : String} (h : t ∈ steps path) : t ≠ "" := by
  unfold steps at h
  dsimp only at h
  split at h
  · rcases List.mem_append.mp h with h | h
    · simpa using (List.mem_filter.mp h).2
    · rw [List.mem_singleton.mp h]
      decide
  · simpa using (List.mem_filter.mp h).2

theorem place_of_locate (h : d.locate path = .ok names) : names = d.place path := by
  obtain ⟨-, -, hfollow⟩ := locate_eq_ok_iff.mp h
  rw [follow_eq (fun t ht => ne_empty_of_mem_steps ht) hfollow, moves_of_steps, place]

theorem prefix_foldl_move {more : List Component} (h : ∀ c ∈ more, ∃ name, c = .name name)
    (start : List String) : start <+: more.foldl Component.move start := by
  induction more generalizing start with
  | nil => exact List.prefix_rfl
  | cons c more ih =>
    obtain ⟨⟨name, rfl⟩, hmore⟩ := List.forall_mem_cons.mp h
    exact (List.prefix_append start [name]).trans (ih hmore (start ++ [name]))

/-- An output path whose URL never goes up goes on behind the directory by names. -/
theorem names_of_outputPath (dir : String) {url : String} (h : Component.parent ∉ moves url) :
    isAbsolute (Url.outputPath dir url) = isAbsolute dir ∧
      ∃ more, moves (Url.outputPath dir url) = moves dir ++ more ∧
        ∀ c ∈ more, ∃ name, c = .name name := by
  obtain ⟨hroot, more, hmoves, hparent⟩ := Url.moves_outputPath dir url
  refine ⟨hroot, more, hmoves, fun c hc => ?_⟩
  rcases of_mem_moves (hmoves ▸ List.mem_append_right _ hc) with rfl | ⟨name, rfl, -⟩
  · exact absurd (hparent.mp hc) h
  · exact ⟨name, rfl⟩

/-- A path that goes on behind a directory without going up leads into it. -/
theorem place_outputPath (d : Disk) (dir : String) {url : String}
    (h : Component.parent ∉ moves url) : d.place dir <+: d.place (Url.outputPath dir url) := by
  obtain ⟨hroot, more, hmoves, hdown⟩ := names_of_outputPath dir h
  rw [place, place, hroot, hmoves, List.foldl_append]
  exact prefix_foldl_move hdown _

theorem get?_filter_of_ne {α : Type} {key removed : String} (h : key ≠ removed)
    (fields : Fields α) :
    Fields.get? (fields.filter fun e => e.1 != removed) key = Fields.get? fields key := by
  induction fields with
  | nil => rfl
  | cons e rest ih =>
    unfold Fields.get? at ih ⊢
    by_cases he : e.1 = removed
    · have hkey : (key == e.1) = false := beq_false_of_ne (he ▸ h)
      have hgone : (e.1 != removed) = false := by simp [he]
      rw [List.filter_cons, hgone, List.lookup_cons, hkey]
      exact ih
    · have hkept : (e.1 != removed) = true := by simp [he]
      rw [List.filter_cons, if_pos hkept, List.lookup_cons, List.lookup_cons, ih]

/-- What is not in a place that is erased is still there, and directories above it stay. -/
theorem Node.get_erase_cases {root : Node} {other : List String} (h : ¬ names <+: other) :
    (root.erase names).get other = root.get other ∨ other <+: names ∧
      ∃ entries entries', root.get other = .ok (.dir entries) ∧
        (root.erase names).get other = .ok (.dir entries') := by
  induction names generalizing root other with
  | nil => exact absurd List.nil_prefix h
  | cons name rest ih =>
    cases root with
    | file t m => cases rest <;> exact .inl rfl
    | dir entries =>
      cases other with
      -- The node itself is above the place that is erased: only its entries change.
      | nil =>
        refine .inr ⟨List.nil_prefix, entries, ?_⟩
        cases rest with
        | nil => exact ⟨_, rfl, rfl⟩
        | cons next rest =>
          rw [erase]
          · cases hchild : Fields.get? entries name with
            | none => exact ⟨_, rfl, rfl⟩
            | some child => exact ⟨_, rfl, rfl⟩
          · exact List.cons_ne_nil next rest
      | cons o below =>
        cases rest with
        | nil =>
          have hother : o ≠ name := by
            rintro rfl
            exact h (List.prefix_append [o] below)
          rw [erase, get, get, get?_filter_of_ne hother]
          exact .inl rfl
        | cons next rest =>
          rw [erase]
          · cases hchild : Fields.get? entries name with
            | none => exact .inl rfl
            | some child =>
              rw [get, get]
              by_cases hname : o = name
              · subst hname
                have hbelow : ¬ next :: rest <+: below := fun hinit =>
                  h (List.cons_prefix_cons.mpr ⟨rfl, hinit⟩)
                rw [hchild, Fields.get?_insert_self]
                rcases ih hbelow with he | ⟨hinit, hdirs⟩
                · exact .inl he
                · exact .inr ⟨List.cons_prefix_cons.mpr ⟨rfl, hinit⟩, hdirs⟩
              · rw [Fields.get?_insert_of_ne hname]
                exact .inl rfl
          · exact List.cons_ne_nil next rest

theorem isName_of_mem_foldl_move {cs : List Component} {start : List String}
    (hcs : ∀ c ∈ cs, c = .parent ∨ ∃ name, c = .name name ∧ IsName name)
    (hstart : ∀ name ∈ start, IsName name) :
    ∀ name ∈ cs.foldl Component.move start, IsName name := by
  induction cs generalizing start with
  | nil => exact hstart
  | cons c cs ih =>
    obtain ⟨hc, hcs⟩ := List.forall_mem_cons.mp hcs
    refine ih hcs fun name hname => ?_
    rcases hc with rfl | ⟨next, rfl, hnext⟩
    · exact hstart name ((List.dropLast_sublist start).subset hname)
    · rcases List.mem_append.mp hname with hname | hname
      · exact hstart name hname
      · exact List.mem_singleton.mp hname ▸ hnext

/-- Every place that a path leads to has names that a directory can hold. -/
theorem isName_of_mem_place (hcurrent : ∀ name ∈ d.current, IsName name) (path : String) :
    ∀ name ∈ d.place path, IsName name := by
  refine isName_of_mem_foldl_move (fun c hc => of_mem_moves hc) ?_
  split
  · exact fun _ hname => absurd hname List.not_mem_nil
  · exact hcurrent

theorem clear_eq_ok (h : Output.clear d path = .ok d') :
    d' = d ∨ d' = { d with root := d.root.erase (d.place path) } := by
  unfold Output.clear at h
  split at h
  · split at h
    · rename_i cleared hremove
      cases h
      obtain ⟨out, hpath, hremoved⟩ := exists_of_bind_eq_ok hremove
      obtain ⟨n, -, hremoved⟩ := exists_of_bind_eq_ok hremoved
      split at hremoved
      · cases hremoved
        exact .inr (by rw [place_of_locate hpath])
      · cases hremoved
    · cases h
  · cases h
    exact .inl rfl

/-- Clearing a directory keeps the files outside of it. -/
theorem get_of_clear {text : String} {time : Int} (h : Output.clear d path = .ok d')
    (hfile : d.root.get names = .ok (.file text time)) (hout : ¬ d.place path <+: names) :
    d'.root.get names = .ok (.file text time) := by
  rcases clear_eq_ok h with rfl | rfl
  · exact hfile
  · rcases Node.get_erase_cases hout with he | ⟨-, entries, entries', hdir, -⟩
    · exact he.trans hfile
    · cases hfile.symm.trans hdir

end Disk
end LayeredSite
