import LayeredSite.Proofs.Cells.Forcing

namespace LayeredSite

variable {s t u : Cells} {c : CellId} {n : ℕ} {o o' : Outcome}

namespace Cells

/-- Cells that a reading can leave behind: none are added, some are computed. -/
structure Leaves (s t : Cells) : Prop where
  advances : s.Advances t
  length : t.length = s.length

theorem Leaves.refl (s : Cells) : s.Leaves s := ⟨.refl s, rfl⟩

theorem Leaves.trans (h : s.Leaves t) (h' : t.Leaves u) : s.Leaves u :=
  ⟨h.advances.trans h'.advances, h'.length.trans h.length⟩

theorem Leaves.depth (h : s.Leaves t) : t.depth = s.depth := by
  rw [Cells.depth, Cells.depth, h.length]

theorem course_leaves : Course Leaves where
  refl := .refl
  trans := .trans
  run h _ hrun := by
    refine ⟨.of_run h hrun.advances _, ?_⟩
    rw [finish, List.length_modify, hrun.length, start, List.length_modify]

theorem leaves_of_run {α : Type} {Q : α → Prop} {x : Reading α} (hx : Along Leaves Q x) {a : α}
    (h : x s = some (a, t)) : s.Leaves t := (hx h).1

/-- What a cell gives without being started. -/
inductive Stored (cells : Cells) (c : CellId) : Outcome → Prop
  | done {o : Outcome} : cells.state? c = some (.done o) → Stored cells c o
  | running : cells.state? c = some .running → Stored cells c (.error .readWhileComputing)
  | missing : cells.state? c = none → Stored cells c (.error .readWhileComputing)

theorem Stored.forceWithin (h : s.Stored c o) (n : ℕ) :
    forceWithin (n + 1) c s = some (o, s) := by
  cases h with
  | done h => exact forceWithin_done n h
  | running h => exact forceWithin_running n h
  | missing h => exact forceWithin_missing n h

theorem Stored.force (h : s.Stored c o) : force c s = some (o, s) := by
  obtain ⟨n, hn⟩ := s.exists_depth
  rw [LayeredSite.force, Reading.get_bind, hn, h.forceWithin n]

theorem Stored.unique (h : s.Stored c o) (h' : s.Stored c o') : o = o' :=
  (Prod.mk.inj (Option.some.inj (h.force.symm.trans h'.force))).1

theorem lt_length_iff : c < s.length ↔ s.state? c ≠ none := by
  simp [state?]

theorem Stored.later (h : s.Stored c o) (hst : s.Leaves t) : t.Stored c o := by
  cases h with
  | done h => exact .done (hst.advances.later.done h)
  | running h => exact .running ((hst.advances.running c).mpr h)
  | missing h =>
    refine .missing (not_not.mp fun hc => ?_)
    have hlt := lt_length_iff.mpr hc
    rw [hst.length] at hlt
    exact lt_length_iff.mp hlt h

/-- A forced cell gives from then on what it gave. -/
theorem stored_of_forceWithin (h : LayeredSite.forceWithin n c s = some (o, t)) :
    t.Stored c o := by
  have hst : s.Leaves t := leaves_of_run ((Along.within course_leaves n).1 c) h
  cases n with
  | zero => cases h
  | succ n =>
    rcases hstate : s.state? c with _ | r | _ | o'
    · rw [forceWithin_missing n hstate] at h
      cases h
      exact .missing hstate
    · have hidle : s.state? c ≠ some .running := by simp [hstate]
      exact .done (forceWithin_computes h (lt_length_iff.mpr (by simp [hstate])) hidle)
    · rw [forceWithin_running n hstate] at h
      cases h
      exact .running hstate
    · rw [forceWithin_done n hstate] at h
      cases h
      exact .done hstate

theorem stored_of_force (h : LayeredSite.force c s = some (o, t)) : t.Stored c o :=
  stored_of_forceWithin h

end Cells
end LayeredSite

namespace LayeredSite

namespace Cell

def phase (cell : Cell) : ℕ :=
  match cell.state with
  | .pending _ => 0
  | .running => 1
  | .done _ => 2

theorem Becomes.eq_or_phase_lt {cell cell' : Cell} (h : cell.Becomes cell') :
    cell' = cell ∨ cell.phase < cell'.phase := by
  induction h with
  | refl => exact .inl rfl
  | @tail between last _ step ih =>
    have hstep : between.phase < last.phase := by
      cases step <;> simp [phase]
    rcases ih with rfl | hlt
    · exact .inr hstep
    · exact .inr (Nat.lt_trans hlt hstep)

theorem Becomes.antisymm {cell cell' : Cell} (h : cell.Becomes cell') (h' : cell'.Becomes cell) :
    cell' = cell := by
  rcases h.eq_or_phase_lt with heq | hlt
  · exact heq
  · rcases h'.eq_or_phase_lt with heq | hlt'
    · exact heq.symm
    · exact absurd hlt' (Nat.lt_asymm hlt)

end Cell

namespace Cells

variable {s t u : Cells} {c : CellId} {n : ℕ}

/-- Cells do not come back to where they were. -/
theorem Leaves.antisymm (h : s.Leaves t) (h' : t.Leaves s) : t = s := by
  refine List.ext_getElem h.length fun c ht hs => ?_
  obtain ⟨between, hbetween, hbecomes⟩ := h.advances.later.cell (List.getElem?_eq_getElem hs)
  obtain ⟨last, hlast, hback⟩ := h'.advances.later.cell hbetween
  rw [List.getElem?_eq_getElem hs] at hlast
  rw [List.getElem?_eq_getElem ht] at hbetween
  cases hlast
  cases hbetween
  exact hbecomes.antisymm hback

end Cells

/-- A reading that adds no cells, and that gives the same for good if it leaves all cells as they
are. -/
structure Repeats {α : Type} (Q : α → Prop) (x : Reading α) : Prop where
  along : Along Cells.Leaves Q x
  again : ∀ ⦃s a u⦄, x s = some (a, s) → s.Leaves u → x u = some (a, u)

namespace Repeats

variable {α β : Type} {Q : α → Prop} {Q' : β → Prop} {c : CellId} {n : ℕ}

theorem result {a : α} (ha : Q a) : Repeats Q (pure a) where
  along := Along.result Cells.course_leaves ha
  again s b u h hu := by
    cases h
    rfl

theorem sequence {x : Reading α} {f : α → Reading β} (hx : Repeats Q x)
    (hf : ∀ a, Q a → Repeats Q' (f a)) : Repeats Q' (x >>= f) where
  along := Along.sequence Cells.course_leaves hx.along fun a ha => (hf a ha).along
  again s b u h hu := by
    obtain ⟨a, between, hfirst, hsecond⟩ := Reading.bind_eq_some_iff.mp h
    obtain ⟨hbetween, ha⟩ := hx.along hfirst
    obtain ⟨hback, -⟩ := (hf a ha).along hsecond
    -- Cells only advance, so both parts have left them as they were if the whole has.
    obtain rfl := hbetween.antisymm hback
    exact Reading.bind_eq_some_iff.mpr ⟨a, u, hx.again hfirst hu, (hf a ha).again hsecond hu⟩

theorem endless : Repeats Q .endless where
  along := Along.endless
  again s a u h hu := by cases h

theorem depth {f : ℕ → Reading α} (hf : ∀ n, Repeats Q (f (n + 1))) :
    Repeats Q (get >>= fun cells => f cells.depth) where
  along := Along.depth fun n => (hf n).along
  again s a u h hu := by
    obtain ⟨n, hn⟩ := s.exists_depth
    rw [Reading.get_bind, hn] at h
    rw [Reading.get_bind, hu.depth, hn]
    exact (hf n).again h hu

theorem parallel : @Parallel Reading Reading _ _ fun Q x _ => Repeats Q x := ⟨result, sequence⟩

theorem forceWithin (n : ℕ) (c : CellId) : Repeats AnyOutcome (forceWithin n c) where
  along := (Along.within Cells.course_leaves n).1 c
  again s o u h hu := by
    cases n with
    | zero => cases h
    | succ n => exact ((Cells.stored_of_forceWithin h).later hu).forceWithin n

theorem cellTextWithin (n : ℕ) (c : CellId) : Repeats anything (cellTextWithin n c) := by
  induction n generalizing c with
  | zero => exact endless
  | succ n ih =>
    refine sequence (forceWithin n c) fun o _ => ?_
    cases o with
    | ok v => exact parallel.textWith (g := LayeredSite.cellTextWithin n) v fun d _ => ih d
    | error e => exact result trivial

theorem rules : ReadRules Repeats (fun _ _ => True) anything where
  result := result
  sequence := sequence
  further _ := trivial
  endless _ := endless
  force _ := depth (f := fun n => LayeredSite.forceWithin n _) fun n => forceWithin (n + 1) _
  text _ := depth (f := fun n => Value.textWith (LayeredSite.cellTextWithin n) _) fun n =>
    parallel.textWith (g := LayeredSite.cellTextWithin (n + 1)) _ fun c _ => cellTextWithin _ c
  depth hf := depth fun n => hf n fun _ _ _ => trivial
  markup _ := trivial

end Repeats
end LayeredSite
