import LayeredSite.Proofs.Cells.Order
import LayeredSite.Proofs.Cells.Steady
import Mathlib.Data.Finset.Prod
import Mathlib.Data.Fintype.Card
import Mathlib.Tactic.Ring

namespace LayeredSite

/-- What grows in a finite set, and grows no more after a step without growth, is complete after as
many steps as the set has elements. -/
theorem of_bounded_growth {α : Type} {P : ℕ → α → Prop} {B : Finset α}
    (hbound : ∀ n a, P n a → a ∈ B) (hgrows : ∀ n a, P n a → P (n + 1) a)
    (hstays : ∀ n, (∀ a, P (n + 1) a → P n a) → ∀ a, P (n + 2) a → P (n + 1) a)
    {n : ℕ} {a : α} (h : P n a) : P B.card a := by
  classical
  -- As long as there is growth, `n` steps have brought at least `n` elements.
  have hcount : ∀ n, n ≤ (B.filter (P n)).card ∨ ∀ a, P (n + 1) a → P n a := by
    intro n
    induction n with
    | zero => exact .inl (Nat.zero_le _)
    | succ n ih =>
      by_cases hstill : ∀ a, P (n + 1) a → P n a
      · exact .inr (hstays n hstill)
      · have hlower := ih.resolve_right hstill
        obtain ⟨b, hb⟩ := not_forall.mp hstill
        obtain ⟨hnew, hold⟩ := Classical.not_imp.mp hb
        refine .inl (Nat.lt_of_le_of_lt hlower (Finset.card_lt_card ?_))
        refine (Finset.ssubset_iff_of_subset ?_).mpr
          ⟨b, Finset.mem_filter.mpr ⟨hbound _ b hnew, hnew⟩, fun he => hold ?_⟩
        · exact Finset.monotone_filter_right B fun a _ => hgrows n a
        · exact (Finset.mem_filter.mp he).2
  rcases hcount B.card with hfull | hstill
  · have hall : B.filter (P B.card) = B :=
      Finset.eq_of_subset_of_card_le (Finset.filter_subset _ _) hfull
    exact (Finset.mem_filter.mp (hall.symm ▸ hbound n a h)).2
  · -- Nothing is added after so many steps, so whatever holds later has held before.
    have hlater : ∀ m, B.card ≤ m → ∀ a, P (m + 1) a → P m a := by
      intro m hm
      induction m, hm using Nat.le_induction with
      | base => exact hstill
      | succ m _ ih => exact hstays m ih
    rcases Nat.le_total n B.card with hle | hle
    · exact Nat.le_induction (P := fun m _ => P m a) h (fun m _ ih => hgrows m a ih) _ hle
    · induction n, hle using Nat.le_induction with
      | base => exact h
      | succ m hm ih => exact ih (hlater m hm a h)

namespace Cells

variable {cells : Cells} {m n : ℕ} {c : CellId} {o : Outcome} {t : String}

theorem lt_length_of_outcomeWithin (h : cells.outcomeWithin n c = some o) : c < cells.length := by
  cases n with
  | zero => cases h
  | succ n =>
    rw [outcomeWithin] at h
    by_contra hc
    rw [state?, List.getElem?_eq_none (Nat.le_of_not_lt hc)] at h
    cases h

theorem lt_length_of_textWithin (h : cells.textWithin n c = some t) : c < cells.length := by
  cases n with
  | zero => cases h
  | succ n =>
    rw [textWithin] at h
    obtain ⟨o, ho, -⟩ := Option.bind_eq_some_iff.mp h
    exact lt_length_of_outcomeWithin ho

/-- What is found about a cell within some reads: its outcome, or its text. -/
def Finds (cells : Cells) (n : ℕ) : CellId × Bool → Prop
  | (c, true) => ∃ o, cells.outcomeWithin n c = some o
  | (c, false) => ∃ t, cells.textWithin n c = some t

theorem finds_succ (n : ℕ) (a : CellId × Bool) (h : cells.Finds n a) : cells.Finds (n + 1) a := by
  obtain ⟨c, _ | _⟩ := a
  · obtain ⟨t, ht⟩ := h
    exact ⟨t, ((within_succ cells n).2 c t ht).1⟩
  · obtain ⟨o, ho⟩ := h
    exact ⟨o, ((within_succ cells n).1 c o ho).1⟩

theorem eq_of_found {α : Type} {x y : Option α} (hxy : ∀ a, x = some a → y = some a)
    (hyx : ∀ b, y = some b → ∃ a, x = some a) : y = x := by
  cases hy : y with
  | none =>
    refine (Option.eq_none_iff_forall_ne_some.mpr fun a ha => ?_).symm
    cases (hxy a ha).symm.trans hy
  | some b =>
    obtain ⟨a, ha⟩ := hyx b hy
    rw [ha, ← hy, hxy a ha]

/-- If one more read finds nothing new, it makes no difference. -/
theorem within_eq_of_finds (h : ∀ a, cells.Finds (n + 1) a → cells.Finds n a) :
    cells.outcomeWithin (n + 1) = cells.outcomeWithin n ∧
      cells.textWithin (n + 1) = cells.textWithin n :=
  ⟨funext fun c => eq_of_found (fun o ho => ((within_succ cells n).1 c o ho).1)
      fun o ho => h (c, true) ⟨o, ho⟩,
    funext fun c => eq_of_found (fun t ht => ((within_succ cells n).2 c t ht).1)
      fun t ht => h (c, false) ⟨t, ht⟩⟩

theorem finds_of_finds {a : CellId × Bool} (h : cells.Finds n a) :
    cells.Finds (2 * cells.length) a := by
  have hcard : (Finset.range cells.length ×ˢ (Finset.univ : Finset Bool)).card =
      2 * cells.length := by
    rw [Finset.card_product, Finset.card_range, Finset.card_univ, Fintype.card_bool,
      Nat.mul_comm]
  rw [← hcard]
  -- What is found grows with the depth and stops growing for good once a step adds nothing, since a
  -- step depends only on what the one before has found.
  refine of_bounded_growth (fun n a ha => ?_) finds_succ (fun n hstill a ha => ?_) h
  · refine Finset.mem_product.mpr ⟨Finset.mem_range.mpr ?_, Finset.mem_univ _⟩
    obtain ⟨c, _ | _⟩ := a
    · exact lt_length_of_textWithin ha.choose_spec
    · exact lt_length_of_outcomeWithin ha.choose_spec
  · obtain ⟨houtcome, htext⟩ := within_eq_of_finds hstill
    have hsame : cells.outcomeWithin (n + 2) = cells.outcomeWithin (n + 1) ∧
        cells.textWithin (n + 2) = cells.textWithin (n + 1) := by
      constructor
      · funext c
        rw [outcomeWithin, outcomeWithin, houtcome, htext]
      · funext c
        rw [textWithin, textWithin, houtcome, htext]
    obtain ⟨c, _ | _⟩ := a
    · obtain ⟨t, ht⟩ := ha
      exact ⟨t, hsame.2 ▸ ht⟩
    · obtain ⟨o, ho⟩ := ha
      exact ⟨o, hsame.1 ▸ ho⟩

theorem Gives.outcomeWithin (h : cells.Gives c o) (hn : 2 * cells.length ≤ n) :
    cells.outcomeWithin n c = some o := by
  obtain ⟨m, hm⟩ := h
  obtain ⟨o', ho'⟩ := finds_of_finds (a := (c, true)) ⟨o, hm⟩
  rw [outcomeWithin_unique hm ho']
  exact outcomeWithin_mono ho' hn

theorem lt_depth (cells : Cells) : 3 * cells.length + 2 < cells.depth := by
  have hsquare : cells.depth = cells.length * cells.length + 4 * cells.length + 4 := by
    unfold depth
    ring
  omega

/-- The depth is enough for every cell. -/
theorem uncached_eq_some_iff : cells.uncached c = some o ↔ cells.Gives c o := by
  refine ⟨fun h => ⟨_, h⟩, fun h => h.outcomeWithin ?_⟩
  have hdepth := cells.lt_depth
  omega

section

open Classical

/-- In how many nested reads the outcome of a cell is found; one without an outcome is above all
others. -/
noncomputable def steps (cells : Cells) (c : CellId) : ℕ :=
  if h : ∃ n o, cells.outcomeWithin n c = some o then Nat.find h else 2 * cells.length + 1

theorem steps_le (h : cells.outcomeWithin n c = some o) : cells.steps c ≤ n := by
  rw [steps, dif_pos ⟨n, o, h⟩]
  exact Nat.find_le ⟨o, h⟩

theorem Gives.outcomeWithin_steps (h : cells.Gives c o) :
    cells.outcomeWithin (cells.steps c) c = some o := by
  obtain ⟨n, hn⟩ := h
  have hfound : ∃ n o, cells.outcomeWithin n c = some o := ⟨n, o, hn⟩
  rw [steps, dif_pos hfound]
  obtain ⟨o', ho'⟩ := Nat.find_spec hfound
  rw [ho', outcomeWithin_unique hn ho']

theorem steps_of_running (h : cells.state? c = some .running) :
    cells.steps c = 2 * cells.length + 1 := by
  refine dif_neg ?_
  rintro ⟨n, o, hn⟩
  cases n with
  | zero => cases hn
  | succ n =>
    rw [outcomeWithin, h] at hn
    cases hn

end

def Found.Settles (cells : Cells) (k : ℕ) {α : Type} (Q : α → Prop) (x : Option α)
    (y : Reading α) : Prop :=
  ∀ a, x = some a → Q a ∧ LayeredSite.Settles cells cells.steps k y a

theorem Found.settles_parallel (k : ℕ) : Parallel (Found.Settles cells k) where
  result ha b hb := by
    cases hb
    exact ⟨ha, .result _⟩
  sequence hx hf b hb := by
    obtain ⟨a, ha, hb⟩ := Option.bind_eq_some_iff.mp hb
    obtain ⟨hQ, hy⟩ := hx a ha
    obtain ⟨hb', hg⟩ := hf a hQ b hb
    exact ⟨hb', hy.sequence hg⟩

/-- Outcomes and texts that are found within some reads are what reading settles at. The reads of a
recipe need fewer steps than its own cell. -/
theorem settles_within (m : ℕ) :
    (∀ c n, m ≤ n → Found.Settles cells (m + 1) AnyOutcome (cells.outcomeWithin m c)
      (forceWithin n c)) ∧
    ∀ c n, m ≤ n → Found.Settles cells (m + 1) anything (cells.textWithin m c)
      (cellTextWithin n c) := by
  induction m using Nat.strong_induction_on with
  | _ m ih =>
    constructor
    · intro c n hn o ho
      refine ⟨anyOutcome o, ?_⟩
      -- The outcome is opened where it is first found. With `m` reads, the reads of the recipe
      -- need not have fewer steps than the cell.
      have hleast := Gives.outcomeWithin_steps ⟨m, ho⟩
      have hsteps := steps_le ho
      obtain ⟨j, hj⟩ : ∃ j, cells.steps c = j + 1 := by
        refine Nat.exists_eq_succ_of_ne_zero fun hzero => ?_
        rw [hzero] at hleast
        cases hleast
      obtain ⟨n, rfl⟩ : ∃ n', n = n' + 1 := Nat.exists_eq_succ_of_ne_zero (by omega)
      rw [hj, outcomeWithin] at hleast
      split at hleast
      · rename_i o' hdone
        cases hleast
        exact (Settles.of_done hdone).mono (by omega)
      · rename_i r hpending
        obtain ⟨hforce, htext⟩ := ih j (by omega)
        have hfollow := (Found.settles_parallel (j + 1)).follow
          (fun c _ => hforce c n (by omega)) (fun c _ => htext c n (by omega)) r (anyRecipe r)
        refine (Settles.of_pending hpending ⟨m, ho⟩ ?_).mono (Nat.succ_le_succ hsteps)
        rw [hj]
        exact (hfollow o hleast).2
      · cases hleast
    · intro c n hn
      cases m with
      | zero =>
        intro t ht
        cases ht
      | succ m =>
        obtain ⟨n, rfl⟩ : ∃ n', n = n' + 1 := Nat.exists_eq_succ_of_ne_zero (by omega)
        obtain ⟨hforce, htext⟩ := ih m (Nat.lt_succ_self m)
        have hmono {α : Type} {Q : α → Prop} {x : Option α} {y : Reading α}
            (h : Found.Settles cells (m + 1) Q x y) : Found.Settles cells (m + 2) Q x y :=
          fun a ha => ⟨(h a ha).1, (h a ha).2.mono (Nat.le_succ _)⟩
        rw [textWithin, cellTextWithin]
        refine (Found.settles_parallel _).sequence (hmono (hforce c n (by omega))) fun o _ => ?_
        cases o with
        | ok v =>
          exact (Found.settles_parallel _).textWith v fun d _ => hmono (htext d n (by omega))
        | error e => exact (Found.settles_parallel _).result trivial

/-- A reading that always gives the same while only cells without outcomes are running. -/
abbrev Settled (cells : Cells) {α : Type} (x : Reading α) (a : α) : Prop :=
  Settles cells cells.steps (2 * cells.length + 1) x a

theorem Gives.settled_within (h : cells.Gives c o) (hn : 2 * cells.length ≤ n) :
    cells.Settled (forceWithin n c) o :=
  ((settles_within (2 * cells.length)).1 c n hn o (h.outcomeWithin le_rfl)).2

/-- Forcing a cell settles at its outcome. -/
theorem Gives.settled (h : cells.Gives c o) : cells.Settled (force c) o := by
  have hdepth := cells.lt_depth
  exact .depth (f := fun n => forceWithin n c) (h.settled_within (by omega))

/-- What settles is what there is in the beginning. -/
theorem Settled.run {α : Type} {x : Reading α} {a : α} (h : cells.Settled x a) :
    ∃ t, x cells = some (a, t) := by
  obtain ⟨t, hrun, -⟩ := h cells (.refl cells) fun d hd => (steps_of_running hd).ge
  exact ⟨t, hrun⟩

/-- A walk over outcomes passes no more cells than there are. -/
theorem ends_uncached_length (h : Ends cells.uncached n c) :
    Ends cells.uncached cells.length c := by
  have hgrowth := of_bounded_growth (P := fun n c => Ends cells.uncached n c)
    (B := Finset.range cells.length) (fun n d hd => ?_) (fun _ _ hd => hd.further)
    (fun n hstill d hd => ?_) h
  · rwa [Finset.card_range] at hgrowth
  · cases n with
    | zero => exact hd.elim
    | succ n =>
      obtain ⟨o, ho, -⟩ := hd
      exact Finset.mem_range.mpr (lt_length_of_outcomeWithin ho)
  · obtain ⟨o, ho, hcells⟩ := hd
    exact ⟨o, ho, hcells.mono hstill fun _ he => he⟩

theorem agrees_text (h : Ends cells.uncached n c) (hm : 2 * cells.length + n ≤ m) :
    Agrees cells cells.steps (2 * cells.length + 1) anything (cells.textWithin m c)
      (cellTextWithin m c) := by
  induction n generalizing c m with
  | zero => exact h.elim
  | succ n ih =>
    obtain ⟨o, ho, hcells⟩ := h
    have hgives : cells.Gives c o := uncached_eq_some_iff.mp ho
    obtain ⟨m, rfl⟩ : ∃ m', m = m' + 1 := Nat.exists_eq_succ_of_ne_zero (by omega)
    rw [textWithin, cellTextWithin]
    refine agrees_parallel.sequence (Q := OutcomeIn (Ends cells.uncached n) anything)
      ⟨o, hcells, hgives.outcomeWithin (by omega), hgives.settled_within (by omega)⟩ fun o ho => ?_
    cases o with
    | ok v => exact agrees_parallel.textWith v fun d hd => ih (ho d hd) (by omega)
    | error e => exact agrees_parallel.result trivial

/-- A reading of cells that have outcomes all the way always gives the same. -/
theorem settled_rules (cells : Cells) : ReadRules
    (fun Q x => ∃ a, Q a ∧ cells.Settled x a) (Ends cells.uncached) anything where
  result ha := ⟨_, ha, .result _⟩
  sequence := by
    rintro _ _ _ _ _ _ ⟨a, ha, hx⟩ hf
    obtain ⟨b, hb, hfa⟩ := hf a ha
    exact ⟨b, hb, hx.sequence hfa⟩
  further := Ends.further
  endless hc := hc.elim
  force := by
    rintro n c ⟨o, ho, hcells⟩
    exact ⟨o, hcells, Gives.settled (uncached_eq_some_iff.mp ho)⟩
  text := by
    intro v hv
    have hdepth := cells.lt_depth
    have hcell (c : CellId) (hc : c ∈ v.cells) : Agrees cells cells.steps (2 * cells.length + 1)
        anything (cells.textWithin cells.depth c) (cellTextWithin cells.depth c) :=
      agrees_text (ends_uncached_length (hv c hc).choose_spec) (by omega)
    obtain ⟨t, -, -, hsettles⟩ := agrees_parallel.textWith v hcell
    exact ⟨t, trivial, .depth (f := fun n => v.textWith (cellTextWithin n)) hsettles⟩
  depth := by
    intro α Q f hf
    obtain ⟨n, hn⟩ := cells.exists_depth
    have hdepth := cells.lt_depth
    obtain ⟨a, ha, hsettles⟩ := hf n fun m c hc => (ends_uncached_length hc).mono (by omega)
    exact ⟨a, ha, .depth (hn ▸ hsettles)⟩
  markup _ := trivial

end Cells
end LayeredSite
