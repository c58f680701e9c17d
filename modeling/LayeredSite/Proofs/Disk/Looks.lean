import LayeredSite.Disk.Templates
import LayeredSite.Proofs.Disk.Places
import LayeredSite.Proofs.Path.Parents
import Mathlib.Data.List.Infix

namespace LayeredSite

open LayeredSite.Path

namespace Disk

def Node.look : Node → Option (String × Int)
  | .file text time => some (text, time)
  | .dir _ => none

def lookAt (d : Disk) (names : List String) : Except Fault (Option (String × Int)) :=
  (d.root.get names).map Node.look

/-- Whether a directory is at a place, or why nothing is. -/
def shapeAt (d : Disk) (names : List String) : Except Fault Bool :=
  (d.root.get names).map Node.isDir

/-- The places where a path has led after some of its moves. -/
def Passes (d : Disk) (path : String) (names : List String) : Prop :=
  ∃ before, before <+: moves path ∧
    before.foldl Component.move (if isAbsolute path then [] else d.current) = names

def passed (d : Disk) (path : String) : List (List String) :=
  (moves path).inits.map (List.foldl Component.move (if isAbsolute path then [] else d.current))

variable {d d' d'' : Disk} {root new : Node} {names place other : List String}
  {path above dir : String}

theorem mem_passed_iff : names ∈ d.passed path ↔ d.Passes path names := by
  simp only [passed, Passes, List.mem_map, List.mem_inits]

instance : DecidablePred (d.Passes path) := fun _ => decidable_of_iff _ mem_passed_iff

instance {P : List String → Prop} [DecidablePred P] :
    Decidable (∀ names, d.Passes path names → P names) :=
  decidable_of_iff (∀ names ∈ d.passed path, P names) (by simp only [mem_passed_iff])

theorem shapeAt_eq_of_lookAt (h : d'.lookAt names = d.lookAt names) :
    d'.shapeAt names = d.shapeAt names := by
  have hshape (d : Disk) : d.shapeAt names = (d.lookAt names).map Option.isNone := by
    rw [shapeAt, lookAt]
    rcases d.root.get names with e | ⟨_ | _⟩ <;> rfl
  rw [hshape, hshape, h]

theorem Node.get_append (root : Node) (names other : List String) :
    root.get (names ++ other) = (root.get names).bind fun n => n.get other := by
  induction names generalizing root with
  | nil => rfl
  | cons name rest ih =>
    cases root with
    | file text time => rfl
    | dir entries =>
      rw [List.cons_append, Node.get, Node.get]
      cases Fields.get? entries name with
      | none => rfl
      | some child => exact ih child

theorem passes_place (d : Disk) (path : String) : d.Passes path (d.place path) :=
  ⟨moves path, List.prefix_rfl, rfl⟩

theorem place_eq_of_current (h : d'.current = d.current) (path : String) :
    d'.place path = d.place path := by
  rw [Disk.place, Disk.place, h]

theorem passes_iff_of_current (h : d'.current = d.current) :
    d'.Passes path names ↔ d.Passes path names := by
  rw [Passes, Passes, h]

/-- A path passes the places of the path above it, and that leads to one of them. -/
theorem Passes.of_parent? (habove : parent? path = some above) (h : d.Passes above names) :
    d.Passes path names := by
  obtain ⟨hroot, hmoves⟩ := moves_of_parent? habove
  obtain ⟨before, hbefore, hnames⟩ := h
  rw [hroot] at hnames
  exact ⟨before, (hmoves ▸ hbefore).trans (List.dropLast_prefix _), hnames⟩

/-- A path that goes on behind a directory by names passes the places of the directory and, after
that, places in it. -/
theorem Passes.of_below {more : List Component} (hroot : isAbsolute path = isAbsolute dir)
    (hmoves : moves path = moves dir ++ more) (hmore : ∀ c ∈ more, ∃ name, c = .name name)
    (h : d.Passes path names) : d.Passes dir names ∨ d.place dir <+: names := by
  obtain ⟨before, hbefore, hnames⟩ := h
  rw [hroot] at hnames
  rw [hmoves] at hbefore
  rcases List.prefix_or_prefix_of_prefix hbefore (List.prefix_append _ more) with hdir | ⟨t, rfl⟩
  · exact .inl ⟨before, hdir, hnames⟩
  · have ht : t <+: more := (List.prefix_append_right_inj _).mp hbefore
    refine .inr ?_
    rw [← hnames, List.foldl_append]
    exact prefix_foldl_move (fun c hc => hmore c (ht.subset hc)) _

theorem follow_congr {root root' : Node} {start texts : List String}
    (htexts : ∀ t ∈ texts, t ≠ "")
    (h : ∀ before, before <+: (texts.filterMap fun t => component? t.toList) →
      (root'.get (before.foldl Component.move start)).map Node.isDir =
        (root.get (before.foldl Component.move start)).map Node.isDir) :
    follow root' start texts = follow root start texts := by
  induction texts generalizing start with
  | nil => rfl
  | cons t rest ih =>
    obtain ⟨ht, hrest⟩ := List.forall_mem_cons.mp htexts
    have hhere := h [] List.nil_prefix
    rw [follow, follow, ih hrest fun before hbefore => ?_]
    swap
    · rw [step_eq ht, ← List.foldl_append]
      refine h _ ?_
      rw [List.filterMap_cons]
      cases component? t.toList with
      | none => exact hbefore
      | some c => exact List.cons_prefix_cons.mpr ⟨rfl, hbefore⟩
    rw [List.foldl_nil] at hhere
    generalize root.get start = r at hhere ⊢
    generalize root'.get start = r' at hhere ⊢
    rcases r with e | ⟨_ | _⟩ <;> rcases r' with e' | ⟨_ | _⟩ <;> cases hhere <;> rfl

/-- Where a path leads depends on the directories that it passes. -/
theorem locate_congr (hcurrent : d'.current = d.current)
    (h : ∀ names, d.Passes path names → d'.shapeAt names = d.shapeAt names) :
    d'.locate path = d.locate path := by
  unfold locate
  rw [hcurrent]
  have hfollow : follow d'.root (if isAbsolute path then [] else d.current) (steps path) =
      follow d.root (if isAbsolute path then [] else d.current) (steps path) := by
    refine follow_congr (fun t ht => ne_empty_of_mem_steps ht) fun before hbefore => ?_
    rw [moves_of_steps] at hbefore
    exact h _ ⟨before, hbefore, rfl⟩
  rw [hfollow]

/-- A path passes alike places on two disks and leads to places that look alike. -/
structure Alike (path : String) (d d' : Disk) : Prop where
  current : d'.current = d.current
  way : ∀ names, d.Passes path names → d'.shapeAt names = d.shapeAt names
  lookAt : d'.lookAt (d.place path) = d.lookAt (d.place path)

namespace Alike

variable (h : Alike path d d')

include h

theorem look : (d'.node path).map Node.look = (d.node path).map Node.look := by
  have hlocate := locate_congr h.current h.way
  unfold Disk.node
  rw [hlocate]
  cases hpath : d.locate path with
  | error e => rfl
  | ok names =>
    rw [place_of_locate hpath]
    exact h.lookAt

theorem modified? : d'.modified? path = d.modified? path := by
  have hlook := h.look
  unfold Disk.modified?
  generalize d.node path = r at hlook ⊢
  generalize d'.node path = r' at hlook ⊢
  rcases r with e | ⟨text, m⟩ | entries <;> rcases r' with e' | ⟨text', m'⟩ | entries' <;>
    cases hlook <;> rfl

theorem read : d'.read path = d.read path := by
  have hlook := h.look
  unfold Disk.read
  generalize d.node path = r at hlook ⊢
  generalize d'.node path = r' at hlook ⊢
  rcases r with e | ⟨text, m⟩ | entries <;> rcases r' with e' | ⟨text', m'⟩ | entries' <;>
    cases hlook <;> rfl

theorem readTemplate : d'.readTemplate path = d.readTemplate path := by
  rw [Disk.readTemplate, Disk.readTemplate, h.read]

theorem dateOf (today : Date) (declared : Option Date) :
    d'.dateOf today path declared = d.dateOf today path declared := by
  unfold Disk.dateOf
  rw [h.modified?]

end Alike

end Disk
end LayeredSite
