import LayeredSite.Build.Output
import LayeredSite.Disk.Basic
import Mathlib.Data.Nat.Notation

namespace LayeredSite

/-- A sequence of two steps succeeds if both do. -/
theorem exists_of_bind_eq_ok {ε α β : Type} {x : Except ε α} {f : α → Except ε β} {b : β}
    (h : x >>= f = .ok b) : ∃ a, x = .ok a ∧ f a = .ok b := by
  cases x with
  | error e => cases h
  | ok a => exact ⟨a, rfl, h⟩

namespace Disk

namespace Node

variable {root n new : Node} {names other : List String}

theorem get_put_self (root : Node) (names : List String) (new : Node) :
    (root.put names new).get names = .ok new := by
  induction names generalizing root with
  | nil => rw [put, get]
  | cons name rest ih =>
    cases root with
    | file text time =>
      have hchild : Fields.get? [(name, put (dir []) rest new)] name =
          some (put (dir []) rest new) := by simp [Fields.get?]
      rw [put, get, hchild]
      exact ih (dir [])
    | dir entries =>
      rw [put, get, Fields.get?_insert_self]
      exact ih _

inductive Kept : Node → Node → Prop
  | dir (entries entries' : List (String × Node)) : Kept (.dir entries) (.dir entries')
  | file (text : String) (time : Int) : Kept (.file text time) (.file text time)

theorem Kept.refl (n : Node) : n.Kept n := by
  cases n with
  | dir entries => exact .dir entries entries
  | file text time => exact .file text time

theorem Kept.trans {n n' n'' : Node} (h : n.Kept n') (h' : n'.Kept n'') : n.Kept n'' := by
  cases h with
  | dir entries entries' =>
    cases h' with
    | dir _ entries'' => exact .dir entries entries''
  | file text time => exact h'

theorem Kept.isDir {n n' : Node} (h : n.Kept n') : n'.isDir = n.isDir := by
  cases h with
  | dir entries entries' => rfl
  | file text time => rfl

/-- Nothing is at a place whose directory is there, or a file. -/
def Free (root : Node) (names : List String) : Prop :=
  root.get names = .error .notFound ∨ ∃ text time, root.get names = .ok (.file text time)

/-- Putting a node at a free place changes no other file, and every directory stays one. -/
theorem get_put_of_free (hfree : root.Free names) (hn : root.get other = .ok n)
    (hother : n.isDir = true ∨ other ≠ names) :
    ∃ n', (root.put names new).get other = .ok n' ∧ n.Kept n' := by
  induction names generalizing root other with
  | nil =>
    -- The whole tree is a file, and nothing else is in it.
    rcases hfree with hfree | ⟨text, time, hfree⟩
    · cases hfree
    · cases hfree
      cases other with
      | nil =>
        cases hn
        simp [isDir] at hother
      | cons o below => cases hn
  | cons name rest ih =>
    cases root with
    | file text time => rcases hfree with hfree | ⟨_, _, hfree⟩ <;> cases hfree
    | dir entries =>
      cases other with
      | nil =>
        cases hn
        exact ⟨_, rfl, .dir entries _⟩
      | cons o below =>
        rw [put]
        by_cases ho : o = name
        · subst ho
          cases hchild : Fields.get? entries o with
          | none =>
            rw [get, hchild] at hn
            cases hn
          | some child =>
            have hfree' : child.Free rest := by
              unfold Free at hfree ⊢
              rw [get, hchild] at hfree
              exact hfree
            have hn' : child.get below = .ok n := by
              rw [get, hchild] at hn
              exact hn
            have hbelow : n.isDir = true ∨ below ≠ rest :=
              hother.imp_right fun hne he => hne (he ▸ rfl)
            rw [get, Fields.get?_insert_self]
            exact ih hfree' hn' hbelow
        · have hsame : (dir (Fields.insert name (put ((Fields.get? entries name).getD (dir []))
              rest new) entries)).get (o :: below) = (dir entries).get (o :: below) := by
            rw [get, get, Fields.get?_insert_of_ne ho]
          exact ⟨n, hsame.trans hn, .refl n⟩

end Node

variable {d d' d'' : Disk} {place names : List String} {path text : String} {time : Int}

/-- Directories are still directories, and files still the same except at one place. -/
structure Keeps (place : List String) (d d' : Disk) : Prop where
  current : d'.current = d.current
  node : ∀ names n, d.root.get names = .ok n → n.isDir = true ∨ names ≠ place →
    ∃ n', d'.root.get names = .ok n' ∧ n.Kept n'

theorem Keeps.refl (place : List String) (d : Disk) : d.Keeps place d :=
  ⟨rfl, fun _ n hn _ => ⟨n, hn, .refl n⟩⟩

theorem Keeps.trans (h : d.Keeps place d') (h' : d'.Keeps place d'') : d.Keeps place d'' := by
  refine ⟨h'.current.trans h.current, fun names n hn hkept => ?_⟩
  obtain ⟨n', hn', hfirst⟩ := h.node names n hn hkept
  rw [← hfirst.isDir] at hkept
  obtain ⟨n'', hn'', hsecond⟩ := h'.node names n' hn' hkept
  exact ⟨n'', hn'', hfirst.trans hsecond⟩

theorem Keeps.follow (h : d.Keeps place d') {start steps : List String}
    (hfollow : Disk.follow d.root start steps = .ok names) :
    Disk.follow d'.root start steps = .ok names := by
  induction steps generalizing start with
  | nil => exact hfollow
  | cons step rest ih =>
    rw [Disk.follow] at hfollow ⊢
    cases hn : d.root.get start with
    | error e =>
      rw [hn] at hfollow
      cases hfollow
    | ok n =>
      cases n with
      | file t m =>
        rw [hn] at hfollow
        cases hfollow
      | dir entries =>
        obtain ⟨n', hn', hkept⟩ := h.node start (.dir entries) hn (.inl rfl)
        cases hkept with
        | dir _ entries' =>
          rw [hn] at hfollow
          rw [hn']
          dsimp only at hfollow ⊢
          split at hfollow
          · cases hfollow
          · rename_i hshort
            rw [if_neg hshort]
            exact ih hfollow

theorem locate_eq_ok_iff : d.locate path = .ok names ↔
    path ≠ "" ∧ '\x00' ∉ path.toList ∧
      Disk.follow d.root (if Path.isAbsolute path then [] else d.current) (steps path) =
        .ok names := by
  unfold Disk.locate
  split
  · rename_i hempty
    simp [String.isEmpty_iff.mp hempty]
  · rename_i hempty
    split
    · rename_i hnul
      simp [List.contains_iff_mem.mp hnul]
    · rename_i hnul
      rw [List.contains_iff_mem] at hnul
      simp [hnul, mt String.isEmpty_iff.mpr hempty]

/-- A path goes on leading to the same place. -/
theorem Keeps.locate (h : d.Keeps place d') (hpath : d.locate path = .ok names) :
    d'.locate path = .ok names := by
  obtain ⟨hempty, hnul, hfollow⟩ := locate_eq_ok_iff.mp hpath
  refine locate_eq_ok_iff.mpr ⟨hempty, hnul, ?_⟩
  rw [h.current]
  exact h.follow hfollow

theorem node_of_locate (hpath : d.locate path = .ok names) : d.node path = d.root.get names := by
  rw [Disk.node, hpath]
  rfl

theorem read_eq_ok_iff (hpath : d.locate path = .ok names) :
    d.read path = .ok text ↔ ∃ time, d.root.get names = .ok (.file text time) := by
  rw [Disk.read, node_of_locate hpath]
  constructor
  · intro h
    split at h
    · rename_i t time hn
      cases h
      exact ⟨time, hn⟩
    · cases h
    · cases h
  · rintro ⟨time, hn⟩
    rw [hn]

/-- What is read depends on the place of a path only. -/
theorem read_congr {other : String} (h : d.locate path = d.locate other) :
    d.read path = d.read other := by
  rw [Disk.read, Disk.read, Disk.node, Disk.node, h]

/-- A file at another place is read as before. -/
theorem Keeps.read (h : d.Keeps place d') (hpath : d.locate path = .ok names)
    (hplace : names ≠ place) (hread : d.read path = .ok text) : d'.read path = .ok text := by
  obtain ⟨time, hfile⟩ := (read_eq_ok_iff hpath).mp hread
  obtain ⟨n', hfile', hkept⟩ := h.node names _ hfile (.inr hplace)
  cases hkept with
  | file => exact (read_eq_ok_iff (h.locate hpath)).mpr ⟨time, hfile'⟩

theorem keeps_put {n : Node} (hfree : d.root.Free place) :
    d.Keeps place { d with root := d.root.put place n } :=
  ⟨rfl, fun _ _ hn hkept => Node.get_put_of_free hfree hn hkept⟩

/-- A new directory takes the place of nothing. -/
theorem keeps_of_makeDir (h : d.makeDir path = .ok d') (place : List String) :
    d.Keeps place d' := by
  obtain ⟨names, -, hmake⟩ := exists_of_bind_eq_ok h
  split at hmake
  · cases hmake
  · rename_i hmissing
    cases hmake
    refine ⟨rfl, fun other n hn _ => Node.get_put_of_free (.inl hmissing) hn (.inr ?_)⟩
    rintro rfl
    cases hmissing.symm.trans hn
  · cases hmake

theorem keeps_of_makeDirsWithin {n : ℕ} (h : makeDirsWithin n d path = .ok d')
    (place : List String) : d.Keeps place d' := by
  induction n generalizing d' path with
  | zero => cases h
  | succ n ih =>
    unfold makeDirsWithin at h
    split at h
    · cases h
      exact .refl place d
    · split at h
      · rename_i hmake
        cases h
        exact keeps_of_makeDir hmake place
      · dsimp only at h
        split at h
        · obtain ⟨above, habove, hrest⟩ := exists_of_bind_eq_ok h
          have hkeeps : d.Keeps place above := ih habove
          split at hrest
          · rename_i hmake
            cases hrest
            exact hkeeps.trans (keeps_of_makeDir hmake place)
          · split at hrest
            · cases hrest
              exact hkeeps
            · cases hrest
        · cases h
      · split at h
        · cases h
          exact .refl place d
        · cases h

/-- Where making directories fails half way, the directories that it has made stay. -/
theorem keeps_leftWithin (n : ℕ) (d : Disk) (path : String) (place : List String) :
    d.Keeps place (leftWithin n d path) := by
  induction n generalizing path with
  | zero => exact .refl place d
  | succ n ih =>
    unfold leftWithin
    split
    · rename_i hmade
      exact keeps_of_makeDirsWithin hmade place
    · exact ih _
    · exact .refl place d

theorem write_eq_ok (h : d.write path text time = .ok d') :
    ∃ names, d.locate path = .ok names ∧ d.Keeps names d' ∧ d'.read path = .ok text := by
  unfold Disk.write at h
  obtain ⟨names, hpath, hwrite⟩ := exists_of_bind_eq_ok h
  have hwritten :
      d.root.Free names ∧ d' = { d with root := d.root.put names (.file text time) } := by
    split at hwrite
    · cases hwrite
    · rename_i hmissing
      cases hwrite
      exact ⟨.inl hmissing, rfl⟩
    · rename_i t m hfile
      cases hwrite
      exact ⟨.inr ⟨t, m, hfile⟩, rfl⟩
    · cases hwrite
  obtain ⟨hfree, rfl⟩ := hwritten
  have hkeeps := keeps_put (n := .file text time) hfree
  have hfile := Node.get_put_self d.root names (.file text time)
  exact ⟨names, hpath, hkeeps, (read_eq_ok_iff (hkeeps.locate hpath)).mpr ⟨time, hfile⟩⟩

end Disk

/-- A page is written after the directories above it are made. -/
theorem Output.steps_of_write {d d' : Disk} {path text : String} {time : Int}
    (h : Output.write d path text time = .ok d') :
    ∃ above, (above = d ∨ ∃ parent, Path.parent? path = some parent ∧
      d.makeDirs parent = .ok above) ∧ above.write path text time = .ok d' := by
  unfold Output.write at h
  dsimp only at h
  split at h
  · rw [pure_bind] at h
    split at h
    · rename_i hwrite
      cases h
      exact ⟨d, .inl rfl, hwrite⟩
    · cases h
  · rename_i parent hparent
    split at h
    · rename_i above hmake
      rw [pure_bind] at h
      split at h
      · rename_i hwrite
        cases h
        exact ⟨above, .inr ⟨parent, hparent, hmake⟩, hwrite⟩
      · cases h
    · cases h

/-- A file that is written is read back, and only what was in its place is gone. -/
theorem Output.write_eq_ok {d d' : Disk} {path text : String} {time : Int}
    (h : Output.write d path text time = .ok d') :
    ∃ names, d'.locate path = .ok names ∧ d.Keeps names d' ∧ d'.read path = .ok text := by
  obtain ⟨above, hmade, hwrite⟩ := steps_of_write h
  obtain ⟨names, hpath, hkeeps, hread⟩ := Disk.write_eq_ok hwrite
  have habove : d.Keeps names above := by
    rcases hmade with rfl | ⟨parent, -, hmake⟩
    · exact .refl names above
    · exact Disk.keeps_of_makeDirsWithin hmake names
  exact ⟨names, hkeeps.locate hpath, habove.trans hkeeps, hread⟩

theorem Output.keeps_left (d : Disk) (path : String) (place : List String) :
    d.Keeps place (Output.left d path) := by
  unfold Output.left
  split
  · exact .refl place d
  · exact Disk.keeps_leftWithin _ d _ place

end LayeredSite
