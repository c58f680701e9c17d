import LayeredSite.Proofs.Cells.Settling
import LayeredSite.Proofs.Cells.Stored

namespace LayeredSite

open Relation

variable {key v : Value} {s t u : Cells} {c d : CellId} {m n : ℕ} {o : Outcome}

/-- The first cell gives the second one, unread. -/
def Cells.Passes (cells : Cells) (c d : CellId) : Prop := cells.Stored c (.ok (.deferred d))

theorem Cells.Stored.lt_length (h : t.Stored c (.ok v)) : c < t.length := by
  cases h with
  | done h => exact lt_length_iff.mpr (by simp [h])

namespace Value

theorem exists_of_kind (h : v.kind = .deferred) : ∃ c, v = .deferred c := by
  cases v with
  | deferred c => exact ⟨c, rfl⟩
  | _ => cases h

/-- A value that is no cell is at the end of the way. -/
theorem fieldWithin_of_kind (h : v.kind ≠ .deferred) (key : Value) (n : ℕ) :
    fieldWithin key (n + 1) v = (v.entry key).resolve := by
  cases v with
  | deferred c => exact absurd rfl h
  | _ => rfl

theorem fieldWithin_deferred : fieldWithin key (n + 1) (.deferred c) s = some (o, t) ↔
    (∃ e, force c s = some (.error e, t) ∧ o = .error e) ∨
      ∃ w u, force c s = some (.ok w, u) ∧ fieldWithin key n w u = some (o, t) := by
  rw [fieldWithin, Reading.bind_eq_some_iff]
  constructor
  · rintro ⟨_ | w, u, hforce, hrest⟩
    · cases hrest
      exact .inl ⟨_, hforce, rfl⟩
    · exact .inr ⟨w, u, hforce, hrest⟩
  · rintro (⟨e, hforce, rfl⟩ | ⟨w, u, hforce, hrest⟩)
    · exact ⟨.error e, t, hforce, rfl⟩
    · exact ⟨.ok w, u, hforce, hrest⟩

theorem leaves_of_fieldWithin (h : fieldWithin key n v s = some (o, t)) : s.Leaves t := by
  cases n with
  | zero => cases h
  | succ n =>
    exact ((Along.rules Cells.course_leaves).fieldWithin key (n := n) fun _ _ => trivial) h |>.1

/-- The cell that a lookup has passed gives at the end what it gave on the way. -/
theorem stored_of_fieldWithin {w : Value} (hforce : force c s = some (.ok w, u))
    (h : fieldWithin key n w u = some (o, t)) : t.Stored c (.ok w) :=
  (Cells.stored_of_force hforce).later (leaves_of_fieldWithin h)

/-- A way that ends does not come back to where it was. -/
theorem not_circle_of_fieldWithin (h : fieldWithin key n (.deferred c) s = some (o, t)) :
    ¬ TransGen t.Passes c c := by
  induction n generalizing c s with
  | zero => cases h
  | succ n ih =>
    intro hcircle
    obtain ⟨d, hd, hback⟩ := TransGen.head'_iff.mp hcircle
    rcases fieldWithin_deferred.mp h with ⟨e, hforce, -⟩ | ⟨w, u, hforce, hrest⟩
    · cases hd.unique (Cells.stored_of_force hforce)
    · cases hd.unique (stored_of_fieldWithin hforce hrest)
      exact ih hrest (TransGen.tail' hback hd)

/-- From each cell on a way fewer cells can be reached than from the one that led to it. -/
theorem fieldWithin_of_rank_lt (h : fieldWithin key n (.deferred c) s = some (o, t))
    (hm : t.rank t.Passes c < m) : fieldWithin key (m + 1) (.deferred c) s = some (o, t) := by
  -- The way is followed with the bound that is known to be enough. The other bound holds out
  -- because it falls along the way as the rank does, on the cells at the end of the way.
  induction n generalizing c s m with
  | zero => cases h
  | succ n ih =>
    rcases fieldWithin_deferred.mp h with ⟨e, hforce, rfl⟩ | ⟨w, u, hforce, hrest⟩
    · exact fieldWithin_deferred.mpr (.inl ⟨e, hforce, rfl⟩)
    refine fieldWithin_deferred.mpr (.inr ⟨w, u, hforce, ?_⟩)
    obtain ⟨m, rfl⟩ : ∃ m', m = m' + 1 := Nat.exists_eq_succ_of_ne_zero (by omega)
    obtain ⟨n, rfl⟩ : ∃ n', n = n' + 1 := Nat.exists_eq_succ_of_ne_zero (by rintro rfl; cases hrest)
    by_cases hw : w.kind = .deferred
    · obtain ⟨d, rfl⟩ := exists_of_kind hw
      rcases fieldWithin_deferred.mp hrest with ⟨e, hnext, rfl⟩ | ⟨w', u', hnext, hrest'⟩
      · exact fieldWithin_deferred.mpr (.inl ⟨e, hnext, rfl⟩)
      have hd : d < t.length := (stored_of_fieldWithin hnext hrest').lt_length
      have hused : t.UsedBy t.Passes c d := ⟨hd, .single (stored_of_fieldWithin hforce hrest)⟩
      have hrank := Cells.rank_lt hused (not_circle_of_fieldWithin hrest)
      exact ih hrest (by omega)
    · rw [fieldWithin_of_kind hw] at hrest ⊢
      exact hrest

theorem fieldWithin_enough (h : fieldWithin key n v s = some (o, t)) (hm : s.length < m) :
    fieldWithin key (m + 1) v s = some (o, t) := by
  by_cases hv : v.kind = .deferred
  · obtain ⟨c, rfl⟩ := exists_of_kind hv
    refine fieldWithin_of_rank_lt h (Nat.lt_of_le_of_lt ?_ hm)
    rw [← (leaves_of_fieldWithin h).length]
    exact Cells.rank_le_length _ c
  · obtain ⟨n, rfl⟩ : ∃ n', n = n' + 1 := Nat.exists_eq_succ_of_ne_zero (by rintro rfl; cases h)
    rw [fieldWithin_of_kind hv] at h ⊢
    exact h

/-- Two bounds above the number of cells are both enough, or neither is. -/
theorem fieldWithin_eq (hm : s.length < m) (hn : s.length < n) :
    fieldWithin key (m + 1) v s = fieldWithin key (n + 1) v s := by
  refine Option.ext fun ⟨o, t⟩ => ?_
  exact ⟨fun h => fieldWithin_enough h hn, fun h => fieldWithin_enough h hm⟩

/-- A value may be read before a field is looked up in it. -/
theorem resolve_field (v key : Value) :
    (do
      match ← v.resolve with
      | .ok w => w.field key
      | .error e => pure (.error e) : Reading Outcome) = v.field key := by
  funext s
  have hdepth := s.lt_depth
  obtain ⟨n, hn⟩ : ∃ n, s.depth = n + 2 := ⟨s.depth - 2, by omega⟩
  rw [field, Reading.get_bind, hn]
  by_cases hv : v.kind = .deferred
  · obtain ⟨c, rfl⟩ := exists_of_kind hv
    refine Reading.bind_congr_run fun o u hforce => ?_
    cases o with
    | error e => rfl
    | ok w =>
      -- The second lookup starts with a full bound again, and so has one step more than it needs.
      have hlength := (Cells.leaves_of_run (Along.force Cells.course_leaves c) hforce).length
      change w.field key u = fieldWithin key (n + 1) w u
      rw [field, Reading.get_bind, Cells.depth, hlength, ← Cells.depth, hn]
      exact fieldWithin_eq (by omega) (by omega)
  · rw [resolve_of_kind hv, pure_bind]
    change v.field key s = _
    rw [field, Reading.get_bind, hn]

end Value
end LayeredSite
