import LayeredSite.Template.Cells
import Mathlib.Data.List.Basic
import Mathlib.Logic.Relation

namespace LayeredSite

inductive Cell.Next : Cell → Cell → Prop
  | start {r : Recipe} {runs : ℕ} : Next ⟨.pending r, runs⟩ ⟨.running, runs + 1⟩
  | finish {runs : ℕ} (o : Outcome) : Next ⟨.running, runs⟩ ⟨.done o, runs⟩

abbrev Cell.Becomes : Cell → Cell → Prop := Relation.ReflTransGen Cell.Next

namespace Cell

variable {cell cell' : Cell} {r : Recipe} {o : Outcome}

theorem Becomes.of_done (h : cell.Becomes cell') (hc : cell.state = .done o) : cell' = cell := by
  induction h with
  | refl => rfl
  | tail _ step ih =>
    subst ih
    cases step <;> cases hc

theorem Becomes.of_pending (h : cell.Becomes cell') (hc : cell.state = .pending r) :
    cell'.state = .pending r ∨ cell'.state = .running ∨ ∃ o, cell'.state = .done o := by
  induction h with
  | refl => exact .inl hc
  | tail _ step _ =>
    cases step with
    | start => exact .inr (.inl rfl)
    | finish o => exact .inr (.inr ⟨o, rfl⟩)

/-- The recipe of a pending cell was never started, and that of any other at most once. -/
def Counted (cell : Cell) : Prop :=
  match cell.state with
  | .pending _ => cell.runs = 0
  | .running => cell.runs = 1
  | .done _ => cell.runs ≤ 1

theorem Next.counted (h : cell.Next cell') (hc : cell.Counted) : cell'.Counted := by
  cases h with
  | start => exact congrArg (· + 1) hc
  | finish o => exact Nat.le_of_eq hc

theorem Counted.runs_le (h : cell.Counted) : cell.runs ≤ 1 := by
  unfold Counted at h
  split at h <;> omega

end Cell

namespace Cells

variable {s t u : Cells} {c d : CellId} {o : Outcome}

inductive Change : Cells → Cells → Prop
  | add (s : Cells) {state : CellState} : state ≠ .running → Change s (s.add state).2
  | step {s : Cells} {c : CellId} {cell cell' : Cell} : s[c]? = some cell → cell.Next cell' →
      Change s (s.set c cell')

abbrev Later : Cells → Cells → Prop := Relation.ReflTransGen Change

theorem Change.cell (h : Change s t) {cell : Cell} (hc : s[c]? = some cell) :
    ∃ cell', t[c]? = some cell' ∧ cell.Becomes cell' := by
  cases h with
  | add =>
    refine ⟨cell, ?_, .refl⟩
    rw [Cells.add, List.getElem?_append_left (List.getElem?_eq_some_iff.mp hc).1, hc]
  | @step d first next hd hnext =>
    rw [List.getElem?_set]
    split
    · rename_i he
      subst he
      obtain rfl : first = cell := Option.some.inj (hd.symm.trans hc)
      exact ⟨next, by rw [if_pos (List.getElem?_eq_some_iff.mp hc).1], .single hnext⟩
    · exact ⟨cell, hc, .refl⟩

theorem Later.cell (h : s.Later t) {cell : Cell} (hc : s[c]? = some cell) :
    ∃ cell', t[c]? = some cell' ∧ cell.Becomes cell' := by
  induction h with
  | refl => exact ⟨cell, hc, .refl⟩
  | tail _ change ih =>
    obtain ⟨between, hbetween, hbecomes⟩ := ih
    obtain ⟨cell', hcell', hnext⟩ := change.cell hbetween
    exact ⟨cell', hcell', hbecomes.trans hnext⟩

theorem Change.counted (h : Change s t) (hs : ∀ cell ∈ s, cell.Counted) :
    ∀ cell ∈ t, cell.Counted := by
  intro cell hcell
  cases h with
  | @add state hstate =>
    rcases List.mem_append.mp hcell with hcell | hcell
    · exact hs cell hcell
    · obtain rfl := List.mem_singleton.mp hcell
      cases state with
      | pending r => rfl
      | running => exact absurd rfl hstate
      | done o => exact Nat.zero_le _
  | step hc hnext =>
    rcases List.mem_or_eq_of_mem_set hcell with hcell | rfl
    · exact hs cell hcell
    · exact hnext.counted (hs _ (List.mem_of_getElem? hc))

/-- No recipe is started twice. -/
theorem Later.counted (h : s.Later t) (hs : ∀ cell ∈ s, cell.Counted) :
    ∀ cell ∈ t, cell.Counted := by
  induction h with
  | refl => exact hs
  | tail _ change ih => exact change.counted ih

theorem exists_cell {state : CellState} (h : s.state? c = some state) :
    ∃ cell, s[c]? = some cell ∧ cell.state = state := Option.map_eq_some_iff.mp h

theorem state?_of_cell {cell : Cell} (h : s[c]? = some cell) : s.state? c = some cell.state := by
  rw [state?, h]
  rfl

theorem Later.length_le (h : s.Later t) : s.length ≤ t.length := by
  by_contra hlt
  have hlast : s[t.length]? = some s[t.length] := List.getElem?_eq_getElem (Nat.lt_of_not_le hlt)
  obtain ⟨cell, hcell, -⟩ := h.cell hlast
  exact absurd (List.getElem?_eq_some_iff.mp hcell).1 (Nat.lt_irrefl _)

theorem Later.done (h : s.Later t) (hc : s.state? c = some (.done o)) :
    t.state? c = some (.done o) := by
  obtain ⟨cell, hcell, hstate⟩ := exists_cell hc
  obtain ⟨cell', hcell', hbecomes⟩ := h.cell hcell
  rw [state?_of_cell hcell', hbecomes.of_done hstate, hstate]

theorem state?_add (s : Cells) (state : CellState) (c : CellId) :
    (s.add state).2.state? c = if c = s.length then some state else s.state? c := by
  unfold add state?
  rcases Nat.lt_trichotomy c s.length with hc | rfl | hc
  · rw [List.getElem?_append_left hc, if_neg (Nat.ne_of_lt hc)]
  · simp
  · rw [if_neg (Nat.ne_of_gt hc), List.getElem?_eq_none (Nat.le_of_lt hc), List.getElem?_eq_none]
    simpa using Nat.succ_le_of_lt hc

theorem state?_start (s : Cells) (c d : CellId) :
    (s.start c).state? d = if c = d then (s.state? d).map fun _ => .running else s.state? d := by
  simp only [state?, start, List.getElem?_modify]
  split <;> cases s[d]? <;> rfl

theorem state?_finish (s : Cells) (c d : CellId) (o : Outcome) :
    (s.finish c o).state? d = if c = d then (s.state? d).map fun _ => .done o else s.state? d := by
  simp only [state?, finish, List.getElem?_modify]
  split <;> cases s[d]? <;> rfl

theorem later_start {r : Recipe} (h : s.state? c = some (.pending r)) : s.Later (s.start c) := by
  obtain ⟨⟨state, runs⟩, hcell, rfl⟩ := exists_cell h
  have hset : s.start c = s.set c ⟨.running, runs + 1⟩ := by
    rw [start, List.modify_eq_set_getElem?, hcell]
    rfl
  exact hset ▸ .single (.step hcell .start)

theorem later_finish (h : s.state? c = some .running) (o : Outcome) :
    s.Later (s.finish c o) := by
  obtain ⟨⟨state, runs⟩, hcell, rfl⟩ := exists_cell h
  have hset : s.finish c o = s.set c ⟨.done o, runs⟩ := by
    rw [finish, List.modify_eq_set_getElem?, hcell]
    rfl
  exact hset ▸ .single (.step hcell (.finish o))

/-- Cells that come later, when what was running then is running again and nothing else. -/
structure Advances (s t : Cells) : Prop where
  later : s.Later t
  running : ∀ c, t.state? c = some .running ↔ s.state? c = some .running

theorem Advances.refl (s : Cells) : s.Advances s := ⟨.refl, fun _ => Iff.rfl⟩

theorem Advances.trans (h : s.Advances t) (h' : t.Advances u) : s.Advances u :=
  ⟨h.later.trans h'.later, fun c => (h'.running c).trans (h.running c)⟩

theorem state?_start_self {r : Recipe} (h : s.state? c = some (.pending r)) :
    (s.start c).state? c = some .running := by
  rw [state?_start, if_pos rfl, h]
  rfl

theorem state?_finish_self (h : s.state? c = some .running) (o : Outcome) :
    (s.finish c o).state? c = some (.done o) := by
  rw [state?_finish, if_pos rfl, h]
  rfl

/-- From the start of a recipe to the end of it, whatever was read in between. -/
theorem Advances.of_run {r : Recipe} (h : s.state? c = some (.pending r))
    (hrun : (s.start c).Advances t) (o : Outcome) : s.Advances (t.finish c o) := by
  have hc : t.state? c = some .running := (hrun.running c).mpr (state?_start_self h)
  refine ⟨(later_start h).trans (hrun.later.trans (later_finish hc o)), fun d => ?_⟩
  by_cases hd : c = d
  · subst hd
    rw [state?_finish_self hc, h]
    simp
  · have hbefore := hrun.running d
    rw [state?_start, if_neg hd] at hbefore
    rw [state?_finish, if_neg hd, hbefore]

end Cells
end LayeredSite
