import LayeredSite.Proofs.Cells.Forcing
import LayeredSite.Proofs.Cells.Uncached

namespace LayeredSite

/-- A walk from the cell over the outcomes of a table ends within `n` of them. -/
def Ends (table : CellId → Option Outcome) : ℕ → CellId → Prop
  | 0, _ => False
  | n + 1, c => ∃ o, table c = some o ∧ OutcomeIn (Ends table n) anything o

/-- A reading that gives the same on all cells of a class and stays in the class. -/
def Steady (Stage : Cells → Prop) {α : Type} (Q : α → Prop) (x : Reading α) : Prop :=
  ∃ a, Q a ∧ ∀ s, Stage s → ∃ t, Stage t ∧ x s = some (a, t)

/-- Cells of one number on which forcing gives the outcomes of a table. -/
structure Stages (Stage : Cells → Prop) (table : CellId → Option Outcome) (size : ℕ) : Prop where
  length : ∀ s, Stage s → s.length = size
  force : ∀ c o, table c = some o → ∀ n s, Stage s →
    ∃ t, Stage t ∧ forceWithin (n + 1) c s = some (o, t)
  bounded : ∀ n c, Ends table n c → Ends table (size + 1) c

variable {table : CellId → Option Outcome} {n m : ℕ} {c : CellId}

theorem Ends.further (h : Ends table n c) : Ends table (n + 1) c := by
  induction n generalizing c with
  | zero => exact h.elim
  | succ n ih =>
    obtain ⟨o, ho, hcells⟩ := h
    exact ⟨o, ho, hcells.mono (fun _ => ih) fun _ he => he⟩

theorem Ends.mono (h : Ends table n c) (hm : n ≤ m) : Ends table m c := by
  induction m, hm using Nat.le_induction with
  | base => exact h
  | succ m _ ih => exact ih.further

namespace Steady

variable {Stage : Cells → Prop} {size : ℕ} {α β : Type} {Q : α → Prop} {Q' : β → Prop}

theorem result {a : α} (ha : Q a) : Steady Stage Q (pure a) :=
  ⟨a, ha, fun s hs => ⟨s, hs, rfl⟩⟩

theorem sequence {x : Reading α} {f : α → Reading β} (hx : Steady Stage Q x)
    (hf : ∀ a, Q a → Steady Stage Q' (f a)) : Steady Stage Q' (x >>= f) := by
  obtain ⟨a, ha, hrun⟩ := hx
  obtain ⟨b, hb, hnext⟩ := hf a ha
  refine ⟨b, hb, fun s hs => ?_⟩
  obtain ⟨between, hbetween, hfirst⟩ := hrun s hs
  obtain ⟨t, ht, hsecond⟩ := hnext between hbetween
  exact ⟨t, ht, Reading.bind_eq_some_iff.mpr ⟨a, between, hfirst, hsecond⟩⟩

theorem parallel : @Parallel Reading Reading _ _ fun Q x _ => Steady Stage Q x :=
  ⟨result, sequence⟩

variable (h : Stages Stage table size)

include h

theorem forceWithin (n : ℕ) (hc : Ends table (m + 1) c) :
    Steady Stage (OutcomeIn (Ends table m) anything) (forceWithin (n + 1) c) := by
  obtain ⟨o, ho, hcells⟩ := hc
  exact ⟨o, hcells, h.force c o ho n⟩

theorem cellTextWithin (hc : Ends table n c) :
    Steady Stage anything (cellTextWithin (n + 1) c) := by
  induction n generalizing c with
  | zero => exact hc.elim
  | succ n ih =>
    rw [LayeredSite.cellTextWithin]
    refine sequence (forceWithin h n hc) fun o ho => ?_
    cases o with
    | ok v =>
      exact parallel.textWith (g := LayeredSite.cellTextWithin (n + 1)) v fun d hd => ih (ho d hd)
    | error e => exact result trivial

/-- All cells of the class have the same depth, which is enough for every walk. -/
theorem depth {f : ℕ → Reading α}
    (hf : ∀ n, (∀ m c, Ends table m c → Ends table n c) → Steady Stage Q (f (n + 1))) :
    Steady Stage Q (get >>= fun cells => f cells.depth) := by
  obtain ⟨n, hn, hsize⟩ : ∃ n, (size + 2) * (size + 2) = n + 1 ∧ size + 1 ≤ n :=
    ⟨(size + 2) * (size + 2) - 1, by lia, by lia⟩
  obtain ⟨a, ha, hrun⟩ := hf n fun m c hc => (h.bounded m c hc).mono hsize
  refine ⟨a, ha, fun s hs => ?_⟩
  obtain ⟨t, ht, hresult⟩ := hrun s hs
  refine ⟨t, ht, ?_⟩
  rw [Reading.get_bind, Cells.depth, h.length s hs, hn, hresult]

theorem force (hc : Ends table (m + 1) c) :
    Steady Stage (OutcomeIn (Ends table m) anything) (force c) :=
  depth h (f := fun n => LayeredSite.forceWithin n c) fun n _ => forceWithin h n hc

theorem text {v : Value} (hv : ∀ c ∈ v.cells, ∃ n, Ends table n c) :
    Steady Stage anything v.text := by
  refine depth h (f := fun n => v.textWith (LayeredSite.cellTextWithin n)) fun n hn => ?_
  refine parallel.textWith (g := LayeredSite.cellTextWithin (n + 1)) v fun c hc => ?_
  obtain ⟨m, hm⟩ := hv c hc
  exact cellTextWithin h (hn m c hm)

theorem rules : ReadRules (Steady Stage) (Ends table) anything where
  result := result
  sequence := sequence
  further := Ends.further
  endless hc := hc.elim
  force := force h
  text := text h
  depth := depth h
  markup _ := trivial

end Steady

namespace Cells

variable {cells : Cells} {d : CellId}

def outcome? (cells : Cells) (c : CellId) : Option Outcome :=
  match cells.state? c with
  | some (.done o) => some o
  | _ => none

def Computed (cells : Cells) (c : CellId) : Prop := ∃ n, Ends cells.outcome? n c

theorem outcome?_eq_some_iff {o : Outcome} :
    cells.outcome? c = some o ↔ cells.state? c = some (.done o) := by
  unfold outcome?
  split <;> simp_all

def Refers (cells : Cells) (c d : CellId) : Prop :=
  ∃ v : Value, cells.outcome? c = some (.ok v) ∧ d ∈ v.cells

theorem lt_length_of_ends (h : Ends cells.outcome? n c) : c < cells.length := by
  cases n with
  | zero => exact h.elim
  | succ n =>
    obtain ⟨o, ho, -⟩ := h
    have hstate := outcome?_eq_some_iff.mp ho
    by_contra hc
    simp [state?, List.getElem?_eq_none (Nat.le_of_not_lt hc)] at hstate

theorem ends_of_refers (h : Ends cells.outcome? (n + 1) c) (hd : cells.Refers c d) :
    Ends cells.outcome? n d := by
  obtain ⟨o, ho, hcells⟩ := h
  obtain ⟨v, hv, hmem⟩ := hd
  obtain rfl := Option.some.inj (ho.symm.trans hv)
  exact hcells d hmem

/-- A walk that ends does not come back to where it was. -/
theorem not_circle_of_ends (h : Ends cells.outcome? n c) :
    ¬ Relation.TransGen cells.Refers c c := by
  induction n generalizing c with
  | zero => exact h.elim
  | succ n ih =>
    intro hcircle
    obtain ⟨d, hd, hback⟩ := Relation.TransGen.head'_iff.mp hcircle
    exact ih (ends_of_refers h hd) (Relation.TransGen.tail' hback hd)

theorem ends_of_rank_lt (h : Ends cells.outcome? n c) (hm : cells.rank cells.Refers c < m) :
    Ends cells.outcome? m c := by
  induction n generalizing c m with
  | zero => exact h.elim
  | succ n ih =>
    obtain ⟨m, rfl⟩ : ∃ k, m = k + 1 := Nat.exists_eq_succ_of_ne_zero (by omega)
    obtain ⟨o, ho, hcells⟩ := h
    refine ⟨o, ho, ?_⟩
    cases o with
    | error e => trivial
    | ok v =>
      intro d hd
      have hnext := hcells d hd
      have huses : cells.UsedBy cells.Refers c d :=
        ⟨lt_length_of_ends hnext, .single ⟨v, ho, hd⟩⟩
      have hrank := rank_lt huses (not_circle_of_ends hnext)
      exact ih hnext (by omega)

theorem ends_length (h : Ends cells.outcome? n c) : Ends cells.outcome? cells.length c :=
  ends_of_rank_lt h (rank_lt_length (lt_length_of_ends h) (not_circle_of_ends h))

/-- Reading computed cells changes nothing. -/
theorem stages_computed (cells : Cells) : Stages (· = cells) cells.outcome? cells.length where
  length := by
    rintro s rfl
    rfl
  force := by
    rintro c o ho n s rfl
    exact ⟨s, rfl, forceWithin_done n (outcome?_eq_some_iff.mp ho)⟩
  bounded _ _ hc := (ends_length hc).further

end Cells
end LayeredSite
