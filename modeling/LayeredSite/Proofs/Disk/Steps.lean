import LayeredSite.Proofs.Disk.Listing
import Mathlib.Logic.Relation

namespace LayeredSite

open LayeredSite.Path

namespace Disk

namespace Node

variable {root new : Node} {entries : List (String × Node)} {names : List String}

theorem Proper.insert (h : (dir entries).Proper) {name : String} (hname : IsName name)
    (hnew : new.Proper) : (dir (Fields.insert name new entries)).Proper := by
  refine ⟨Fields.sorted_insert name new h.1, properAll_iff.mpr fun e he => ?_⟩
  rcases Fields.mem_insert he with rfl | hold
  · exact ⟨hname, hnew⟩
  · exact properAll_iff.mp h.2 e hold

theorem proper_empty : (dir []).Proper := ⟨List.Pairwise.nil, trivial⟩

theorem Proper.put (h : root.Proper) (hnames : ∀ name ∈ names, IsName name) (hnew : new.Proper) :
    (root.put names new).Proper := by
  induction names generalizing root with
  | nil => exact hnew
  | cons name rest ih =>
    obtain ⟨hname, hrest⟩ := List.forall_mem_cons.mp hnames
    cases root with
    | file text time => exact proper_empty.insert hname (ih proper_empty hrest)
    | dir entries =>
      refine h.insert hname (ih ?_ hrest)
      cases hchild : Fields.get? entries name with
      | none => exact proper_empty
      | some child => exact proper_of_mem h.2 (Fields.mem_of_get? hchild)

theorem Proper.erase (h : root.Proper) (names : List String) : (root.erase names).Proper := by
  induction names generalizing root with
  | nil => exact h
  | cons name rest ih =>
    cases root with
    | file text time => cases rest <;> trivial
    | dir entries =>
      cases rest with
      | nil =>
        refine ⟨h.1.sublist (List.filter_sublist.map _), properAll_iff.mpr fun e he => ?_⟩
        exact properAll_iff.mp h.2 e (List.mem_of_mem_filter he)
      | cons next rest =>
        unfold Node.erase
        split
        · rename_i child hchild
          have hmem := Fields.mem_of_get? hchild
          exact h.insert (isName_of_mem h.2 hmem) (ih (proper_of_mem h.2 hmem))
        · exact h

end Node

variable {d d' : Disk} {path text : String} {time : Int} {n : ℕ}

inductive Step : Disk → Disk → Prop
  | makeDir {d d' : Disk} {path : String} : d.makeDir path = .ok d' → Step d d'
  | write {d d' : Disk} {path text : String} {time : Int} :
    d.write path text time = .ok d' → Step d d'
  | removeDir {d d' : Disk} {path : String} : d.removeDir path = .ok d' → Step d d'

abbrev Reaches : Disk → Disk → Prop := Relation.ReflTransGen Step

/-- Directories and the way to the current one have the names that a directory can hold, and the
entries of a directory are different and in order. -/
structure Proper (d : Disk) : Prop where
  root : d.root.Proper
  current : ∀ name ∈ d.current, IsName name

theorem Proper.isName_of_locate (h : d.Proper) {names : List String}
    (hpath : d.locate path = .ok names) : ∀ name ∈ names, IsName name := by
  rw [place_of_locate hpath]
  exact isName_of_mem_place h.current path

theorem Proper.step (h : d.Proper) (hstep : d.Step d') : d'.Proper := by
  cases hstep with
  | makeDir hmake =>
    obtain ⟨names, hpath, hmake⟩ := exists_of_bind_eq_ok hmake
    split at hmake
    · cases hmake
    · cases hmake
      exact ⟨h.root.put (h.isName_of_locate hpath) Node.proper_empty, h.current⟩
    · cases hmake
  | @write path text time hwrite =>
    obtain ⟨names, hpath, hwrite⟩ := exists_of_bind_eq_ok hwrite
    have hput : (d.root.put names (.file text time)).Proper :=
      h.root.put (h.isName_of_locate hpath) trivial
    split at hwrite
    · cases hwrite
    · cases hwrite
      exact ⟨hput, h.current⟩
    · cases hwrite
      exact ⟨hput, h.current⟩
    · cases hwrite
  | removeDir hremove =>
    obtain ⟨names, -, hremove⟩ := exists_of_bind_eq_ok hremove
    obtain ⟨n, -, hremove⟩ := exists_of_bind_eq_ok hremove
    split at hremove
    · cases hremove
      exact ⟨h.root.erase names, h.current⟩
    · cases hremove

theorem Proper.reaches (h : d.Proper) (hreaches : d.Reaches d') : d'.Proper := by
  induction hreaches with
  | refl => exact h
  | tail _ hstep ih => exact ih.step hstep

theorem reaches_of_makeDirsWithin (h : makeDirsWithin n d path = .ok d') : d.Reaches d' := by
  induction n generalizing d' path with
  | zero => cases h
  | succ n ih =>
    unfold makeDirsWithin at h
    split at h
    · cases h
      exact .refl
    · split at h
      · rename_i hmake
        cases h
        exact .single (.makeDir hmake)
      · dsimp only at h
        split at h
        · obtain ⟨above, habove, hrest⟩ := exists_of_bind_eq_ok h
          have hreaches : d.Reaches above := ih habove
          split at hrest
          · rename_i hmake
            cases hrest
            exact hreaches.tail (.makeDir hmake)
          · split at hrest
            · cases hrest
              exact hreaches
            · cases hrest
        · cases h
      · split at h
        · cases h
          exact .refl
        · cases h

theorem reaches_leftWithin (n : ℕ) (d : Disk) (path : String) :
    d.Reaches (leftWithin n d path) := by
  induction n generalizing path with
  | zero => exact .refl
  | succ n ih =>
    unfold leftWithin
    split
    · rename_i hmade
      exact reaches_of_makeDirsWithin hmade
    · exact ih _
    · exact .refl

end Disk

namespace Output

variable {d d' : Disk} {path text : String} {time : Int}

theorem reaches_put (d : Disk) (path text : String) (time : Int) :
    d.Reaches (put d path text time).2 := by
  unfold put
  split
  · rename_i hwrite
    obtain ⟨above, hmade, hfile⟩ := steps_of_write hwrite
    have habove : d.Reaches above := by
      rcases hmade with rfl | ⟨parent, -, hmake⟩
      · exact .refl
      · exact Disk.reaches_of_makeDirsWithin hmake
    exact habove.tail (.write hfile)
  · unfold left
    split
    · exact .refl
    · exact Disk.reaches_leftWithin _ d _

theorem reaches_of_clear (h : clear d path = .ok d') : d.Reaches d' := by
  unfold clear at h
  split at h
  · split at h
    · rename_i hremove
      cases h
      exact .single (.removeDir hremove)
    · cases h
  · cases h
    exact .refl

end Output

end LayeredSite
