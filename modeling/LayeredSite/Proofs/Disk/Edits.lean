import LayeredSite.Proofs.Disk.Differences
import LayeredSite.Proofs.Disk.Listing

namespace LayeredSite

open LayeredSite.Path

namespace Disk

/-- Two disks with the same names that look different in one place at most. -/
structure Edited (names : List String) (d d' : Disk) : Prop where
  current : d'.current = d.current
  bare : d'.root.bare = d.root.bare
  lookAt : ∀ other, other ≠ names → d'.lookAt other = d.lookAt other

variable {d d' : Disk} {names other : List String} {path text text' : String} {time time' : Int}

/-- A file that is written over another is edited. -/
theorem edited_of_write (hproper : d.root.Proper)
    (hfile : d.root.get (d.place path) = .ok (.file text time))
    (h : d.write path text' time' = .ok d') : Edited (d.place path) d d' := by
  have hdiffers := differsIn_write h
  obtain ⟨place, hplace, hwrite⟩ := exists_of_bind_eq_ok h
  obtain rfl := place_of_locate hplace
  rw [hfile] at hwrite
  cases hwrite
  refine ⟨rfl, Node.bare_put hproper hfile, fun other hother => ?_⟩
  by_cases hbelow : d.place path <+: other
  · -- There is nothing below a file, neither the old nor the new.
    obtain ⟨below, rfl⟩ := hbelow
    rw [Disk.lookAt, Disk.lookAt, Node.get_append, Node.get_append, hfile, Node.get_put_self]
    cases below with
    | nil => exact absurd (List.append_nil _) hother
    | cons name rest => rfl
  · exact hdiffers.lookAt other hbelow

/-- A directory can be cleared if it is one. -/
theorem exists_clear_iff :
    (∃ left, Output.clear d path = .ok left) ↔ (d.exists_ path = true → d.isDir path = true) := by
  unfold Output.clear removeDir Disk.exists_ Disk.isDir Disk.node
  rcases d.locate path with e | place
  · simp [bind, Except.bind, Except.toOption]
  · rcases hget : d.root.get place with e | ⟨text, time⟩ | entries
    · simp [bind, Except.bind, Except.toOption, hget]
    · simp [bind, Except.bind, Except.toOption, hget, Node.isDir]
    · simp [bind, Except.bind, Except.toOption, hget, Node.isDir]

namespace Edited

variable (h : Edited names d d')

include h

theorem symm : Edited names d' d :=
  ⟨h.current.symm, h.bare.symm, fun other hother => (h.lookAt other hother).symm⟩

theorem place (path : String) : d'.place path = d.place path := place_eq_of_current h.current path

theorem passes_iff : d'.Passes path other ↔ d.Passes path other := passes_iff_of_current h.current

theorem get_bare (other : List String) :
    (d'.root.get other).map Node.bare = (d.root.get other).map Node.bare := by
  rw [← Node.get_bare, ← Node.get_bare, h.bare]

theorem shapeAt (other : List String) : d'.shapeAt other = d.shapeAt other := by
  rw [Disk.shapeAt, Disk.shapeAt, ← Node.isDir_map_bare, h.get_bare, Node.isDir_map_bare]

theorem lookAt_eq_error_iff {e : Fault} :
    d'.lookAt other = .error e ↔ d.lookAt other = .error e := by
  have hshape (d : Disk) : d.lookAt other = .error e ↔ d.shapeAt other = .error e := by
    rw [Disk.lookAt, Disk.shapeAt]
    rcases d.root.get other with _ | n <;> simp [Except.map]
  rw [hshape, hshape, h.shapeAt]

theorem opens_iff : d'.Opens path other ↔ d.Opens path other := by
  rw [Opens, Opens, h.passes_iff, h.lookAt_eq_error_iff]

theorem locate (path : String) : d'.locate path = d.locate path :=
  locate_congr h.current fun other _ => h.shapeAt other

theorem node_bare (path : String) :
    (d'.node path).map Node.bare = (d.node path).map Node.bare := by
  unfold Disk.node
  rw [h.locate]
  cases d.locate path with
  | error e => rfl
  | ok place => exact h.get_bare place

theorem node_isDir (path : String) :
    (d'.node path).map Node.isDir = (d.node path).map Node.isDir := by
  rw [← Node.isDir_map_bare, h.node_bare, Node.isDir_map_bare]

theorem isDir (path : String) : d'.isDir path = d.isDir path := by
  have hnode := h.node_isDir path
  unfold Disk.isDir
  generalize d.node path = r at hnode ⊢
  generalize d'.node path = r' at hnode ⊢
  rcases r with e | n <;> rcases r' with e' | n'
  · rfl
  · cases hnode
  · cases hnode
  · exact Except.ok.inj hnode

theorem exists_ (path : String) : d'.exists_ path = d.exists_ path := by
  have hnode := h.node_isDir path
  unfold Disk.exists_
  generalize d.node path = r at hnode ⊢
  generalize d'.node path = r' at hnode ⊢
  rcases r with e | n <;> rcases r' with e' | n'
  · rfl
  · cases hnode
  · cases hnode
  · rfl

theorem listFiles (dir extension : String) (skip : Bool) :
    d'.listFiles dir extension skip = d.listFiles dir extension skip :=
  listFiles_congr (h.node_bare dir) extension skip

/-- A path that does not lead to the edited file sees no edit. -/
theorem alike (hpath : d.place path ≠ names) : d.Alike path d' where
  current := h.current
  way other _ := h.shapeAt other
  lookAt := h.lookAt _ hpath

theorem proper_iff : d'.root.Proper ↔ d.root.Proper := by
  rw [← Node.proper_bare, h.bare, Node.proper_bare]

/-- What can be cleared before an edit can be cleared after it. -/
theorem exists_clear {left : Disk} (hleft : Output.clear d path = .ok left) :
    ∃ left', Output.clear d' path = .ok left' := by
  rw [exists_clear_iff, h.exists_, h.isDir]
  exact exists_clear_iff.mp ⟨left, hleft⟩

end Edited

end Disk
end LayeredSite
