import LayeredSite.Proofs.Cells.Settling
import LayeredSite.Proofs.Evaluation.Steps

namespace LayeredSite

namespace Cells

variable {cells : Cells} {m n : ℕ} {c : CellId} {o : Outcome}

def Terminating (cells : Cells) : Prop := ∀ c < cells.length, ∃ n, Ends cells.uncached n c

/-- What forcing gives: the outcome of a cell, and an error where there is no cell. -/
def foreseen (cells : Cells) (c : CellId) : Option Outcome :=
  if c < cells.length then cells.uncached c else some (.error .readWhileComputing)

theorem foreseen_of_uncached (h : cells.uncached c = some o) : cells.foreseen c = some o := by
  rw [foreseen, if_pos (lt_length_of_outcomeWithin h), h]

theorem foreseen_of_missing (h : cells.length ≤ c) :
    cells.foreseen c = some (.error .readWhileComputing) := if_neg (Nat.not_lt.mpr h)

theorem ends_foreseen_of_uncached (h : Ends cells.uncached n c) : Ends cells.foreseen n c := by
  induction n generalizing c with
  | zero => exact h.elim
  | succ n ih =>
    obtain ⟨o, ho, hcells⟩ := h
    exact ⟨o, foreseen_of_uncached ho, hcells.mono (fun _ => ih) fun _ he => he⟩

/-- Every walk passes the cells there are and perhaps one that is missing. -/
theorem Terminating.ends (h : cells.Terminating) (c : CellId) :
    Ends cells.foreseen (cells.length + 1) c := by
  rcases Nat.lt_or_ge c cells.length with hc | hc
  · obtain ⟨n, hn⟩ := h c hc
    exact (ends_foreseen_of_uncached (ends_uncached_length hn)).further
  · exact ⟨_, foreseen_of_missing hc, trivial⟩

theorem settled_missing (n : ℕ) (h : cells.length ≤ c) :
    cells.Settled (forceWithin (n + 1) c) (.error .readWhileComputing) := by
  intro s hs _
  have hmissing : s.state? c = none := by
    rw [state?, List.getElem?_eq_none (hs.length ▸ h)]
    rfl
  exact ⟨s, forceWithin_missing n hmissing, hs, .refl s⟩

theorem settled_forceWithin (h : cells.foreseen c = some o) (hn : 2 * cells.length < n) :
    cells.Settled (forceWithin n c) o := by
  unfold foreseen at h
  split at h
  · exact (uncached_eq_some_iff.mp h).settled_within (by omega)
  · rename_i hc
    cases h
    obtain ⟨n, rfl⟩ : ∃ k, n = k + 1 := Nat.exists_eq_succ_of_ne_zero (by omega)
    exact settled_missing n (Nat.not_lt.mp hc)

theorem settled_force (h : cells.foreseen c = some o) : cells.Settled (force c) o := by
  have hdepth := cells.lt_depth
  exact .depth (f := fun n => forceWithin n c) (settled_forceWithin h (by omega))

abbrev SettledIn (cells : Cells) {α : Type} (Q : α → Prop) (x : Reading α) : Prop :=
  ∃ a, Q a ∧ cells.Settled x a

theorem settledIn_sequence {α β : Type} {Q : α → Prop} {Q' : β → Prop} {x : Reading α}
    {f : α → Reading β} (hx : cells.SettledIn Q x) (hf : ∀ a, Q a → cells.SettledIn Q' (f a)) :
    cells.SettledIn Q' (x >>= f) := by
  obtain ⟨a, ha, hx⟩ := hx
  obtain ⟨b, hb, hfa⟩ := hf a ha
  exact ⟨b, hb, hx.sequence hfa⟩

theorem settledIn_parallel : @Parallel Reading Reading _ _ fun Q x _ => cells.SettledIn Q x :=
  ⟨fun ha => ⟨_, ha, .result _⟩, settledIn_sequence⟩

theorem settledIn_cellText (h : Ends cells.foreseen n c) (hm : 2 * cells.length + n < m) :
    cells.SettledIn anything (cellTextWithin m c) := by
  induction n generalizing c m with
  | zero => exact h.elim
  | succ n ih =>
    obtain ⟨o, ho, hcells⟩ := h
    obtain ⟨m, rfl⟩ : ∃ k, m = k + 1 := Nat.exists_eq_succ_of_ne_zero (by omega)
    rw [cellTextWithin]
    refine settledIn_sequence (Q := OutcomeIn (Ends cells.foreseen n) anything)
      ⟨o, hcells, settled_forceWithin ho (by omega)⟩ fun o ho => ?_
    cases o with
    | ok v =>
      exact settledIn_parallel.textWith (g := cellTextWithin m) v fun d hd =>
        ih (ho d hd) (by omega)
    | error e => exact settledIn_parallel.result trivial

theorem settledIn_text (h : cells.Terminating) (v : Value) : cells.SettledIn anything v.text := by
  have hdepth := cells.lt_depth
  have hcell (c : CellId) : cells.SettledIn anything (cellTextWithin cells.depth c) :=
    settledIn_cellText (h.ends c) (by omega)
  obtain ⟨t, -, hsettled⟩ :=
    settledIn_parallel.textWith (g := cellTextWithin cells.depth) v fun c _ => hcell c
  exact ⟨t, trivial, .depth (f := fun n => v.textWith (cellTextWithin n)) hsettled⟩

theorem Terminating.rules (h : cells.Terminating) :
    ReadRules cells.SettledIn (Ends cells.foreseen) anything where
  result ha := settledIn_parallel.result ha
  sequence := settledIn_sequence
  further := Ends.further
  endless hc := hc.elim
  force := by
    rintro n c ⟨o, ho, hcells⟩
    exact ⟨o, hcells, settled_force ho⟩
  text _ := settledIn_text h _
  depth := by
    intro α Q f hf
    obtain ⟨n, hn⟩ := cells.exists_depth
    have hdepth := cells.lt_depth
    obtain ⟨a, ha, hsettled⟩ := hf n fun _ c _ => (h.ends c).mono (by omega)
    exact ⟨a, ha, .depth (hn ▸ hsettled)⟩
  markup _ := trivial

/-- Every evaluation settles, from every scope. -/
theorem Terminating.evaluation (h : cells.Terminating) :
    EvalRules (fun _ => True) fun {α} (x : Eval α) =>
      ∀ scope, cells.SettledIn anything (x scope) :=
  h.rules.evaluation fun c => ⟨_, h.ends c⟩

/-- What the cells have become by readings that have ended. -/
structure Read (cells s : Cells) : Prop where
  underway : cells.Underway s
  advances : cells.Advances s

theorem Read.refl (cells : Cells) : cells.Read cells := ⟨.refl cells, .refl cells⟩

end Cells
end LayeredSite
