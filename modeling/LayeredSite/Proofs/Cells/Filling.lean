import LayeredSite.Proofs.Cells.Settling

namespace LayeredSite

namespace Value

mutual

def subst (F : CellId → Value) : Value → Value
  | list items => list (substAll F items)
  | map fields => map (substFields F fields)
  | node tag attrs children => node tag (substFields F attrs) (substAll F children)
  | deferred c => F c
  | v => v

def substAll (F : CellId → Value) : List Value → List Value
  | [] => []
  | v :: rest => v.subst F :: substAll F rest

def substFields (F : CellId → Value) : List (String × Value) → List (String × Value)
  | [] => []
  | (k, v) :: rest => (k, v.subst F) :: substFields F rest

end

variable {F G : CellId → Value}

mutual

theorem cells_subst (F : CellId → Value) : (v : Value) →
    (v.subst F).cells = v.cells.flatMap fun c => (F c).cells
  | .list items => cellsAll_substAll F items
  | .map fields => cellsOf_substFields F fields
  | .node _ attrs children => by
    rw [subst, cells, cells, List.flatMap_append, cellsOf_substFields F attrs,
      cellsAll_substAll F children]
  | .deferred c => (List.append_nil _).symm
  | .nil => rfl
  | .bool _ => rfl
  | .int _ => rfl
  | .float _ => rfl
  | .str _ => rfl
  | .keyword _ => rfl
  | .raw _ => rfl

theorem cellsAll_substAll (F : CellId → Value) : (items : List Value) →
    cellsAll (substAll F items) = (cellsAll items).flatMap fun c => (F c).cells
  | [] => rfl
  | v :: rest => by
    rw [substAll, cellsAll, cellsAll, List.flatMap_append, cells_subst F v,
      cellsAll_substAll F rest]

theorem cellsOf_substFields (F : CellId → Value) : (fields : List (String × Value)) →
    cellsOf (substFields F fields) = (cellsOf fields).flatMap fun c => (F c).cells
  | [] => rfl
  | (_, v) :: rest => by
    rw [substFields, cellsOf, cellsOf, List.flatMap_append, cells_subst F v,
      cellsOf_substFields F rest]

end

/-- No cell is left if none is left of any replacement. -/
theorem cells_subst_eq_nil_iff {v : Value} :
    (v.subst F).cells = [] ↔ ∀ c ∈ v.cells, (F c).cells = [] := by
  rw [cells_subst, List.flatMap_eq_nil_iff]

mutual

theorem subst_congr : (v : Value) → (∀ c ∈ v.cells, F c = G c) → v.subst F = v.subst G
  | .list items, h => congrArg list (substAll_congr items h)
  | .map fields, h => congrArg map (substFields_congr fields h)
  | .node tag attrs children, h => by
    obtain ⟨hattrs, hchildren⟩ := List.forall_mem_append.mp h
    rw [subst, subst, substFields_congr attrs hattrs, substAll_congr children hchildren]
  | .deferred c, h => h c (List.mem_singleton_self c)
  | .nil, _ => rfl
  | .bool _, _ => rfl
  | .int _, _ => rfl
  | .float _, _ => rfl
  | .str _, _ => rfl
  | .keyword _, _ => rfl
  | .raw _, _ => rfl

theorem substAll_congr : (items : List Value) → (∀ c ∈ cellsAll items, F c = G c) →
    substAll F items = substAll G items
  | [], _ => rfl
  | v :: rest, h => by
    obtain ⟨hv, hrest⟩ := List.forall_mem_append.mp h
    rw [substAll, substAll, subst_congr v hv, substAll_congr rest hrest]

theorem substFields_congr : (fields : List (String × Value)) →
    (∀ c ∈ cellsOf fields, F c = G c) → substFields F fields = substFields G fields
  | [], _ => rfl
  | (_, v) :: rest, h => by
    obtain ⟨hv, hrest⟩ := List.forall_mem_append.mp h
    rw [substFields, substFields, subst_congr v hv, substFields_congr rest hrest]

end

section

variable {m : Type → Type} [Monad m]

mutual

/-- The text after a replacement reads the replacement where it read the cell. -/
theorem textWith_subst (cell : CellId → m String) (F : CellId → Value) : (v : Value) →
    (v.subst F).textWith cell = v.textWith fun c => (F c).textWith cell
  | .list items => textAll_substAll cell F items
  | .map fields => by
    rw [subst, textWith, textWith, textEntries_substFields cell F fields]
  | .node _ _ children => textAll_substAll cell F children
  | .deferred _ => rfl
  | .nil => rfl
  | .bool _ => rfl
  | .int _ => rfl
  | .float _ => rfl
  | .str _ => rfl
  | .keyword _ => rfl
  | .raw _ => rfl

theorem textAll_substAll (cell : CellId → m String) (F : CellId → Value) : (items : List Value) →
    textAll cell (substAll F items) = textAll (fun c => (F c).textWith cell) items
  | [] => rfl
  | v :: rest => by
    rw [substAll, textAll, textAll, textWith_subst cell F v, textAll_substAll cell F rest]

theorem textEntries_substFields (cell : CellId → m String) (F : CellId → Value) :
    (fields : List (String × Value)) →
      textEntries cell (substFields F fields) = textEntries (fun c => (F c).textWith cell) fields
  | [] => rfl
  | (_, v) :: rest => by
    rw [substFields, textEntries, textEntries, textWith_subst cell F v,
      textEntries_substFields cell F rest]

end

end

/-- The text of a value, deferred values having none. -/
def plain (v : Value) : String := v.textWith (m := Id) fun _ => ""

/-- Two ways to compute, the second one without cells. -/
theorem at_once_parallel : @Parallel Reading Id _ _ fun Q x a => Q a ∧ ∀ s, x s = some (a, s) where
  result ha := ⟨ha, fun _ => rfl⟩
  sequence := by
    rintro _ _ _ _ x a f g ⟨ha, hx⟩ hf
    obtain ⟨hb, hg⟩ := hf a ha
    exact ⟨hb, fun s => (Reading.bind_eq_some (hx s)).trans (hg s)⟩

/-- The text of a value without deferred values is there at once. -/
theorem text_of_closed {v : Value} (h : v.cells = []) (s : Cells) :
    v.text s = some (v.plain, s) := by
  have htext := at_once_parallel.textWith (f := cellTextWithin s.depth) (g := fun _ => "") v
    (by rw [h]; exact fun _ hc => absurd hc List.not_mem_nil)
  exact htext.2 s

end Value

namespace Cells

variable {cells : Cells} {m n : ℕ} {c : CellId} {v : Value}

/-- The value of a cell with the values of other cells filled in, at most `n` behind each other. A
cell without a value stays. -/
def filledWithin (cells : Cells) : ℕ → CellId → Value
  | 0, c => .deferred c
  | n + 1, c =>
    match cells.uncached c with
    | some (.ok v) => v.subst (cells.filledWithin n)
    | _ => .deferred c

/-- No more values than there are cells stand behind each other. -/
def filled (cells : Cells) (c : CellId) : Value := cells.filledWithin cells.length c

def fill (cells : Cells) (v : Value) : Value := v.subst cells.filled

/-- A value is filled from that of its cell. -/
theorem exists_of_filledWithin (h : (cells.filledWithin n c).cells = []) :
    ∃ k v, n = k + 1 ∧ cells.Gives c (.ok v) ∧
      cells.filledWithin n c = v.subst (cells.filledWithin k) ∧
      ∀ d ∈ v.cells, (cells.filledWithin k d).cells = [] := by
  cases n with
  | zero => cases h
  | succ k =>
    rw [filledWithin] at h
    split at h
    · rename_i v hv
      refine ⟨k, v, rfl, ⟨_, hv⟩, ?_, Value.cells_subst_eq_nil_iff.mp h⟩
      rw [filledWithin, hv]
    · cases h

theorem filledWithin_of_gives (n : ℕ) (h : cells.Gives c (.ok v)) :
    cells.filledWithin (n + 1) c = v.subst (cells.filledWithin n) := by
  rw [filledWithin, uncached_eq_some_iff.mpr h]

/-- What is filled within some steps is filled in the same way within more. -/
theorem filledWithin_succ (h : (cells.filledWithin n c).cells = []) :
    cells.filledWithin (n + 1) c = cells.filledWithin n c := by
  induction n generalizing c with
  | zero => cases h
  | succ n ih =>
    obtain ⟨k, v, hk, hgives, hfilled, hbelow⟩ := exists_of_filledWithin h
    obtain rfl := Nat.succ.inj hk
    rw [filledWithin_of_gives _ hgives, hfilled]
    exact Value.subst_congr v fun d hd => ih (hbelow d hd)

theorem filledWithin_of_le (h : (cells.filledWithin n c).cells = []) (hm : n ≤ m) :
    cells.filledWithin m c = cells.filledWithin n c := by
  induction m, hm using Nat.le_induction with
  | base => rfl
  | succ m _ ih => rw [filledWithin_succ (ih ▸ h), ih]

theorem filled_eq (h : (cells.filledWithin n c).cells = []) :
    cells.filled c = cells.filledWithin n c := by
  -- What grows with `n` is the set of the cells that are filled within `n` levels.
  have hfull : (cells.filledWithin cells.length c).cells = [] := by
    have hgrowth := of_bounded_growth (P := fun n c => (cells.filledWithin n c).cells = [])
      (B := Finset.range cells.length) (fun n d hd => ?_) (fun n d hd => ?_)
      (fun n hstill d hd => ?_) h
    · rwa [Finset.card_range] at hgrowth
    · obtain ⟨k, v, -, ⟨i, hi⟩, -⟩ := exists_of_filledWithin hd
      exact Finset.mem_range.mpr (lt_length_of_outcomeWithin hi)
    · rwa [filledWithin_succ hd]
    · obtain ⟨k, v, hk, hgives, -, hbelow⟩ := exists_of_filledWithin hd
      obtain rfl := Nat.succ.inj hk
      rw [filledWithin_of_gives _ hgives, Value.cells_subst_eq_nil_iff]
      exact fun e he => hstill e (hbelow e he)
  rcases Nat.le_total n cells.length with hle | hle
  · exact filledWithin_of_le h hle
  · exact (filledWithin_of_le hfull hle).symm

/-- A cell whose value is filled at some level has a value, whose cells are filled one level
below. -/
theorem exists_of_level (h : (cells.filledWithin n c).cells = []) :
    ∃ k v, n = k + 1 ∧ cells.Gives c (.ok v) ∧ cells.filled c = cells.fill v ∧
      ∀ d ∈ v.cells, (cells.filledWithin k d).cells = [] := by
  obtain ⟨k, v, hn, hgives, hfilled, hbelow⟩ := exists_of_filledWithin h
  refine ⟨k, v, hn, hgives, ?_, hbelow⟩
  rw [filled_eq h, hfilled, fill]
  exact Value.subst_congr v fun d hd => (filled_eq (hbelow d hd)).symm

/-- A cell that is filled has outcomes all the way. -/
theorem ends_of_filledWithin (h : (cells.filledWithin n c).cells = []) :
    Ends cells.uncached n c := by
  induction n generalizing c with
  | zero => cases h
  | succ n ih =>
    obtain ⟨k, v, hk, hgives, -, hbelow⟩ := exists_of_filledWithin h
    obtain rfl := Nat.succ.inj hk
    exact ⟨.ok v, uncached_eq_some_iff.mpr hgives, fun d hd => ih (hbelow d hd)⟩

/-- A reading that settles at what is computed without cells. -/
theorem settled_parallel (cells : Cells) : @Parallel Reading Id _ _ fun Q x a =>
    Q a ∧ cells.Settled x a where
  result ha := ⟨ha, .result _⟩
  sequence := by
    rintro _ _ _ _ x a f g ⟨ha, hx⟩ hf
    obtain ⟨hb, hg⟩ := hf a ha
    exact ⟨hb, hx.sequence hg⟩

theorem plain_fill (cells : Cells) (v : Value) :
    (cells.fill v).plain = v.textWith (m := Id) fun c => (cells.filled c).plain :=
  Value.textWith_subst _ _ v

theorem settled_cellText (h : (cells.filledWithin n c).cells = [])
    (hm : 2 * cells.length + n ≤ m) :
    cells.Settled (cellTextWithin m c) (cells.filled c).plain := by
  induction n generalizing c m with
  | zero => cases h
  | succ n ih =>
    obtain ⟨k, v, hk, hgives, hfilled, hbelow⟩ := exists_of_level h
    obtain rfl := Nat.succ.inj hk
    obtain ⟨m, rfl⟩ : ∃ m', m = m' + 1 := Nat.exists_eq_succ_of_ne_zero (by omega)
    rw [cellTextWithin, hfilled, plain_fill]
    refine (hgives.settled_within (by omega)).sequence ?_
    exact ((settled_parallel cells).textWith v fun d hd =>
      ⟨trivial, ih (hbelow d hd) (by omega)⟩).2

/-- The text of a value settles at that of the filled value. -/
theorem settled_text (h : (cells.fill v).cells = []) :
    cells.Settled v.text (cells.fill v).plain := by
  have hdepth := cells.lt_depth
  rw [plain_fill]
  refine .depth (f := fun n => v.textWith (cellTextWithin n)) ?_
  exact ((settled_parallel cells).textWith v fun d hd =>
    ⟨trivial, settled_cellText (Value.cells_subst_eq_nil_iff.mp h d hd) (by omega)⟩).2

end Cells
end LayeredSite
