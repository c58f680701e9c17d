import LayeredSite.Proofs.Cells.Parallel
import Mathlib.Data.Finset.Card
import Mathlib.Logic.Relation

namespace LayeredSite

mutual

/-- The outcome of a cell in at most `n` nested reads, nothing being stored. -/
def Cells.outcomeWithin (cells : Cells) : ℕ → CellId → Option Outcome
  | 0, _ => none
  | n + 1, c =>
    match cells.state? c with
    | some (.done o) => some o
    | some (.pending recipe) => recipe.follow (cells.outcomeWithin n) (cells.textWithin n)
    | _ => none

def Cells.textWithin (cells : Cells) : ℕ → CellId → Option String
  | 0, _ => none
  | n + 1, c => do
    match ← cells.outcomeWithin n c with
    | .ok v => v.textWith (cells.textWithin n)
    | .error _ => some ""

end

namespace Cells

def uncached (cells : Cells) (c : CellId) : Option Outcome := cells.outcomeWithin cells.depth c

variable {cells : Cells} {n k : ℕ} {c : CellId} {o o' : Outcome} {t : String} {r : Recipe}

theorem outcomeWithin_done (n : ℕ) (h : cells.state? c = some (.done o)) :
    cells.outcomeWithin (n + 1) c = some o := by
  rw [outcomeWithin, h]

theorem outcomeWithin_pending (n : ℕ) (h : cells.state? c = some (.pending r)) :
    cells.outcomeWithin (n + 1) c = r.follow (cells.outcomeWithin n) (cells.textWithin n) := by
  rw [outcomeWithin, h]

/-- What is found is of a class, and also found by another computation. -/
def Found {α : Type} (Q : α → Prop) (x y : Option α) : Prop := ∀ a, x = some a → y = some a ∧ Q a

theorem found_parallel : Parallel Found where
  result ha b hb := by
    cases hb
    exact ⟨rfl, ha⟩
  sequence hx hf b hb := by
    obtain ⟨a, ha, hb⟩ := Option.bind_eq_some_iff.mp hb
    obtain ⟨hy, hQ⟩ := hx a ha
    obtain ⟨hg, hb⟩ := hf a hQ b hb
    exact ⟨Option.bind_eq_some_iff.mpr ⟨a, hy, hg⟩, hb⟩

/-- What is found in some reads is found in more. -/
theorem within_succ (cells : Cells) (n : ℕ) :
    (∀ c, Found AnyOutcome (cells.outcomeWithin n c) (cells.outcomeWithin (n + 1) c)) ∧
    ∀ c, Found anything (cells.textWithin n c) (cells.textWithin (n + 1) c) := by
  induction n with
  | zero =>
    constructor
    · intro c o ho
      rw [outcomeWithin] at ho
      cases ho
    · intro c t ht
      rw [textWithin] at ht
      cases ht
  | succ n ih =>
    obtain ⟨houtcome, htext⟩ := ih
    constructor
    · intro c
      rw [outcomeWithin, outcomeWithin]
      split
      · exact found_parallel.result (anyOutcome _)
      · rename_i r _
        exact found_parallel.follow (fun c _ => houtcome c) (fun c _ => htext c) r (anyRecipe r)
      · intro o ho
        cases ho
    · intro c
      rw [textWithin, textWithin]
      refine found_parallel.sequence (houtcome c) fun o _ => ?_
      cases o with
      | ok v => exact found_parallel.textWith v fun d _ => htext d
      | error e => exact found_parallel.result trivial

theorem outcomeWithin_mono (h : cells.outcomeWithin n c = some o) (hk : n ≤ k) :
    cells.outcomeWithin k c = some o := by
  induction k, hk using Nat.le_induction with
  | base => exact h
  | succ k _ ih => exact ((within_succ cells k).1 c o ih).1

theorem outcomeWithin_unique (h : cells.outcomeWithin n c = some o)
    (h' : cells.outcomeWithin k c = some o') : o = o' := by
  have hmax := outcomeWithin_mono h (le_max_left n k)
  have hmax' := outcomeWithin_mono h' (le_max_right n k)
  exact Option.some.inj (hmax.symm.trans hmax')

end Cells

def CellState.In (P : CellId → Prop) (E : TemplateError → Prop) : CellState → Prop
  | .pending r => r.In P E
  | .running => False
  | .done o => OutcomeIn P E o

abbrev Cells.UsedBy (cells : Cells) (Uses : CellId → CellId → Prop) (c d : CellId) : Prop :=
  d < cells.length ∧ Relation.TransGen Uses c d

/-- Cells that use only each other, and none itself in a circle. None is being computed, and their
own errors are of the class `E`. -/
structure Cells.Acyclic (cells : Cells) (Uses : CellId → CellId → Prop)
    (E : TemplateError → Prop) : Prop where
  uses : ∀ c state, cells.state? c = some state → state.In (cells.UsedBy Uses c) E
  acyclic : ∀ c, ¬ Relation.TransGen Uses c c

namespace Cells

section

open Classical

noncomputable def rank (cells : Cells) (Uses : CellId → CellId → Prop) (c : CellId) : ℕ :=
  ((Finset.range cells.length).filter (Relation.TransGen Uses c)).card

variable {cells : Cells} {Uses : CellId → CellId → Prop} {E : TemplateError → Prop} {c d : CellId}

theorem rank_le_length (Uses : CellId → CellId → Prop) (c : CellId) :
    cells.rank Uses c ≤ cells.length :=
  (Finset.card_filter_le _ _).trans_eq (Finset.card_range _)

theorem rank_lt_length (hc : c < cells.length) (hcircle : ¬ Relation.TransGen Uses c c) :
    cells.rank Uses c < cells.length := by
  have hsubset : (Finset.range cells.length).filter (Relation.TransGen Uses c) ⊂
      Finset.range cells.length :=
    Finset.filter_ssubset.mpr ⟨c, Finset.mem_range.mpr hc, hcircle⟩
  have hcard := Finset.card_lt_card hsubset
  rwa [Finset.card_range] at hcard

theorem rank_lt (hcd : cells.UsedBy Uses c d) (hcircle : ¬ Relation.TransGen Uses d d) :
    cells.rank Uses d < cells.rank Uses c := by
  obtain ⟨hd, huses⟩ := hcd
  apply Finset.card_lt_card
  have hbelow : ∀ e ∈ Finset.range cells.length,
      Relation.TransGen Uses d e → Relation.TransGen Uses c e := fun _ _ he => huses.trans he
  have hsubset := Finset.monotone_filter_right (Finset.range cells.length) hbelow
  -- The cell itself is one that the other uses, but not one that it uses.
  refine (Finset.ssubset_iff_of_subset hsubset).mpr ⟨d, ?_, fun he => ?_⟩
  · exact Finset.mem_filter.mpr ⟨Finset.mem_range.mpr hd, huses⟩
  · exact hcircle (Finset.mem_filter.mp he).2

theorem Acyclic.rank_lt_length (h : cells.Acyclic Uses E) (hc : c < cells.length) :
    cells.rank Uses c < cells.length :=
  Cells.rank_lt_length hc (h.acyclic c)

theorem Acyclic.rank_lt (h : cells.Acyclic Uses E) (hcd : cells.UsedBy Uses c d) :
    cells.rank Uses d < cells.rank Uses c :=
  Cells.rank_lt hcd (h.acyclic d)

end

end Cells
end LayeredSite
