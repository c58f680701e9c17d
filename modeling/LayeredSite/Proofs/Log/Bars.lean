import LayeredSite.Log.Progress
import Mathlib.Algebra.Ring.Nat

namespace LayeredSite

inductive WordFault
  | overflow
  | underflow
  | divisionByZero
deriving DecidableEq, Repr

namespace Word

variable {a b : UInt64}

def mul (a b : UInt64) : Except WordFault UInt64 :=
  if a.toNat * b.toNat < 2 ^ 64 then .ok (a * b) else .error .overflow

def div (a b : UInt64) : Except WordFault UInt64 :=
  if b = 0 then .error .divisionByZero else .ok (a / b)

def sub (a b : UInt64) : Except WordFault UInt64 :=
  if a < b then .error .underflow else .ok (a - b)

theorem mul_of_lt (h : a.toNat * b.toNat < 2 ^ 64) :
    ∃ c, mul a b = .ok c ∧ c.toNat = a.toNat * b.toNat := by
  refine ⟨a * b, by rw [mul, if_pos h], ?_⟩
  rw [UInt64.toNat_mul, Nat.mod_eq_of_lt h]

theorem mul_of_not_lt (h : ¬ a.toNat * b.toNat < 2 ^ 64) : mul a b = .error .overflow := by
  rw [mul, if_neg h]

theorem div_of_pos (h : 0 < b) : ∃ c, div a b = .ok c ∧ c.toNat = a.toNat / b.toNat := by
  refine ⟨a / b, ?_, UInt64.toNat_div a b⟩
  rw [div, if_neg]
  rintro rfl
  exact absurd h (by decide)

theorem sub_of_le (h : b.toNat ≤ a.toNat) :
    ∃ c, sub a b = .ok c ∧ c.toNat = a.toNat - b.toNat := by
  refine ⟨a - b, ?_, UInt64.toNat_sub_of_le a b (UInt64.le_iff_toNat_le.mpr h)⟩
  rw [sub, if_neg]
  rw [UInt64.lt_iff_toNat_lt]
  omega

theorem pos_iff : 0 < a ↔ 0 < a.toNat := UInt64.lt_iff_toNat_lt

theorem toNat_min (a b : UInt64) : (min a b).toNat = min a.toNat b.toNat := by
  rw [show min a b = if a ≤ b then a else b from rfl, Nat.min_def]
  simp only [UInt64.le_iff_toNat_le]
  split <;> rfl

end Word

namespace Progress

variable {current later total width n : ℕ}

def filledCells (cells : List Char) : ℕ := cells.count '█'

def FilledFirst (cells : List Char) : Prop :=
  ∃ filled empty, cells = List.replicate filled '█' ++ List.replicate empty '░'

/-- The test of the total makes no difference, as a division by zero gives zero. -/
theorem filled_eq (current total width : ℕ) :
    filled current total width = min current total * width / total := by
  rw [filled]
  split
  · rfl
  · rename_i hzero
    rw [Nat.eq_zero_of_not_pos hzero, Nat.div_zero]

/-- A cell is filled once its share of the total has been counted. -/
theorem le_filled_iff (h : 0 < total) :
    n ≤ filled current total width ↔ n * total ≤ min current total * width := by
  rw [filled_eq, Nat.le_div_iff_mul_le h]

theorem filled_le (current total width : ℕ) : filled current total width ≤ width := by
  rw [filled_eq]
  exact Nat.div_le_of_le_mul (Nat.mul_le_mul_right width (Nat.min_le_right current total))

theorem filled_mono (h : current ≤ later) (total width : ℕ) :
    filled current total width ≤ filled later total width := by
  have hmin : min current total ≤ min later total := by omega
  rw [filled_eq, filled_eq]
  exact Nat.div_le_div_right (Nat.mul_le_mul_right width hmin)

theorem filled_of_zero (h : current = 0 ∨ total = 0) (width : ℕ) :
    filled current total width = 0 := by
  rw [filled_eq]
  rcases h with rfl | rfl
  · rw [Nat.zero_min, Nat.zero_mul, Nat.zero_div]
  · exact Nat.div_zero _

/-- A bar is full once all has been counted, and not before. -/
theorem filled_eq_width_iff (h : 0 < width) :
    filled current total width = width ↔ 0 < total ∧ total ≤ current := by
  rcases Nat.eq_zero_or_pos total with hzero | htotal
  · rw [filled_of_zero (.inr hzero)]
    omega
  · calc filled current total width = width
        ↔ width ≤ filled current total width := by
          have := filled_le current total width
          omega
      _ ↔ total * width ≤ min current total * width := by
          rw [le_filled_iff htotal, Nat.mul_comm width]
      _ ↔ total ≤ min current total := Nat.mul_le_mul_right_iff h
      _ ↔ 0 < total ∧ total ≤ current := by omega

theorem length_bar (current total width : ℕ) : (bar current total width).length = width := by
  rw [bar, List.length_append, List.length_replicate, List.length_replicate]
  exact Nat.add_sub_cancel' (filled_le current total width)

theorem filledCells_bar (current total width : ℕ) :
    filledCells (bar current total width) = filled current total width := by
  rw [filledCells, bar, List.count_append, List.count_replicate_self, List.count_replicate,
    if_neg (by decide), Nat.add_zero]

section Words

variable {current total width : UInt64}

def filledInWords (current total width : UInt64) : Except WordFault UInt64 :=
  if 0 < total then do Word.div (← Word.mul (min current total) width) total else .ok 0

/-- The bar, computed in words. The memory that its text takes is not counted. -/
def barInWords (current total width : UInt64) : Except WordFault (List Char) := do
  let filled ← filledInWords current total width
  let empty ← Word.sub width filled
  return List.replicate filled.toNat '█' ++ List.replicate empty.toNat '░'

theorem filledInWords_of_lt (h : min current.toNat total.toNat * width.toNat < 2 ^ 64) :
    ∃ n, filledInWords current total width = .ok n ∧
      n.toNat = filled current.toNat total.toNat width.toNat := by
  by_cases htotal : 0 < total
  · rw [← Word.toNat_min] at h
    obtain ⟨product, hproduct, hproduct_toNat⟩ := Word.mul_of_lt h
    obtain ⟨n, hn, hn_toNat⟩ := Word.div_of_pos (a := product) htotal
    refine ⟨n, ?_, ?_⟩
    · rw [filledInWords, if_pos htotal, hproduct]
      exact hn
    · rw [hn_toNat, hproduct_toNat, Word.toNat_min, filled, if_pos (Word.pos_iff.mp htotal)]
  · refine ⟨0, by rw [filledInWords, if_neg htotal], ?_⟩
    rw [filled, if_neg (mt Word.pos_iff.mpr htotal)]
    rfl

theorem filledInWords_of_not_lt (h : ¬ min current.toNat total.toNat * width.toNat < 2 ^ 64) :
    filledInWords current total width = .error .overflow := by
  -- without a total nothing is multiplied
  have htotal : 0 < total := by
    refine Word.pos_iff.mpr (Nat.pos_of_ne_zero fun hzero => h ?_)
    rw [hzero, Nat.min_zero, Nat.zero_mul]
    exact Nat.two_pow_pos 64
  rw [← Word.toNat_min] at h
  rw [filledInWords, if_pos htotal, Word.mul_of_not_lt h]
  rfl

/-- Only the product can fail: no more is subtracted than there is, and a total of zero is no
divisor. -/
theorem barInWords_eq (current total width : UInt64) :
    barInWords current total width =
      if min current.toNat total.toNat * width.toNat < 2 ^ 64
      then .ok (bar current.toNat total.toNat width.toNat) else .error .overflow := by
  split
  · rename_i h
    obtain ⟨n, hn, hn_toNat⟩ := filledInWords_of_lt h
    have hle : n.toNat ≤ width.toNat := hn_toNat ▸ filled_le _ _ _
    -- The filled cells are no more than the width, so the subtraction cannot fail.
    obtain ⟨empty, hempty, hempty_toNat⟩ := Word.sub_of_le hle
    calc barInWords current total width
        = do
          let empty ← Word.sub width n
          return List.replicate n.toNat '█' ++ List.replicate empty.toNat '░' := by
            rw [barInWords, hn]
            rfl
      _ = .ok (List.replicate n.toNat '█' ++ List.replicate empty.toNat '░') := by
            rw [hempty]
            rfl
      _ = .ok (bar current.toNat total.toNat width.toNat) := by
            rw [bar, ← hn_toNat, hempty_toNat]
  · rename_i h
    rw [barInWords, filledInWords_of_not_lt h]
    rfl

/-- The product of the total and the width is the largest that a bar needs. -/
theorem barInWords_eq_ok_iff (total width : UInt64) :
    (∀ current, barInWords current total width =
      .ok (bar current.toNat total.toNat width.toNat)) ↔ total.toNat * width.toNat < 2 ^ 64 := by
  refine ⟨fun h => ?_, fun h current => ?_⟩
  · -- this product is taken when all has been counted
    have hfull := h total
    rw [barInWords_eq, Nat.min_self] at hfull
    split at hfull
    · assumption
    · cases hfull
  · have hle : min current.toNat total.toNat * width.toNat ≤ total.toNat * width.toNat :=
      Nat.mul_le_mul_right _ (Nat.min_le_right _ _)
    rw [barInWords_eq, if_pos (Nat.lt_of_le_of_lt hle h)]

end Words

theorem minWidth_le_barWidth (columns : ℕ) (channel count : String) :
    minWidth ≤ barWidth columns channel count :=
  Nat.le_max_left _ _

theorem barWidth_le_maxWidth (columns : ℕ) (channel count : String) :
    barWidth columns channel count ≤ maxWidth :=
  Nat.max_le.mpr ⟨by decide, Nat.min_le_left _ _⟩

/-- In words a bar can be computed at every count if and only if the product of the total and the
width is a word. It has as many cells as its width, the filled ones first, which are the share that
has been counted, rounded down; so they never become fewer, there is none in the beginning or
without a total, and all are filled exactly when all has been counted. A progress line shows a bar
of ten to forty cells, whatever the columns, the channel and the count. -/
theorem bar_well_formed :
    (∀ total width : UInt64, (∀ current, barInWords current total width =
      .ok (bar current.toNat total.toNat width.toNat)) ↔ total.toNat * width.toNat < 2 ^ 64) ∧
    (∀ current total width : ℕ,
      (bar current total width).length = width ∧ FilledFirst (bar current total width) ∧
      (0 < total → ∀ n, n ≤ filledCells (bar current total width) ↔
        n * total ≤ min current total * width) ∧
      (∀ later, current ≤ later →
        filledCells (bar current total width) ≤ filledCells (bar later total width)) ∧
      (current = 0 ∨ total = 0 → filledCells (bar current total width) = 0) ∧
      (0 < width → (filledCells (bar current total width) = width ↔
        0 < total ∧ total ≤ current))) ∧
    ∀ (columns : ℕ) (channel : String) (current total : ℕ), ∃ width, 10 ≤ width ∧ width ≤ 40 ∧
      display columns channel current total = clear ++ LogLine.head channel ++ " [" ++
        String.ofList (bar current total width) ++ "] " ++
          (toString current ++ "/" ++ toString total) := by
  refine ⟨barInWords_eq_ok_iff, fun current total width => ?_, fun columns channel current total =>
    ⟨_, minWidth_le_barWidth _ _ _, barWidth_le_maxWidth _ _ _, rfl⟩⟩
  simp only [filledCells_bar]
  exact ⟨length_bar current total width, ⟨_, _, rfl⟩, fun htotal n => le_filled_iff htotal,
    fun later h => filled_mono h total width, fun h => filled_of_zero h width,
    filled_eq_width_iff⟩

/-- One step before the end of a total of 2^58, the last of forty cells is empty. -/
theorem bar_of_large_total :
    let total : ℕ := 2 ^ 58
    let early := bar (total - 1) total 40
    ((UInt64.ofNat total).toNat * (40 : UInt64).toNat < 2 ^ 64 ∧
      barInWords (.ofNat (total - 1)) (.ofNat total) 40 = .ok (List.replicate 39 '█' ++ ['░'])) ∧
    (0 < total ∧ filledCells early = 39) ∧
    (total - 1 ≤ total ∧ filledCells early ≤ filledCells (bar total total 40)) ∧
    filledCells (bar 0 total 40) = 0 ∧ 0 < 40 ∧ filledCells (bar total total 40) = 40 := by
  intro total early
  obtain ⟨hwords, hcells, -⟩ := bar_well_formed
  obtain ⟨-, -, hshare, hmono, -, -⟩ := hcells (total - 1) total 40
  have hfits : (UInt64.ofNat total).toNat * (40 : UInt64).toNat < 2 ^ 64 := by decide +kernel
  have hpos : 0 < total := by decide +kernel
  have hle : total - 1 ≤ total := Nat.sub_le total 1
  have hsome : 39 ≤ filledCells early := (hshare hpos 39).mpr (by decide +kernel)
  have hrest : ¬ 40 ≤ filledCells early := mt (hshare hpos 40).mp (by decide +kernel)
  have hnone := (hcells 0 total 40).2.2.2.2.1 (.inl rfl)
  have hfull := ((hcells total total 40).2.2.2.2.2 (by decide)).mpr ⟨hpos, Nat.le_refl total⟩
  refine ⟨⟨hfits, ?_⟩, ⟨hpos, by omega⟩, ⟨hle, hmono total hle⟩, hnone, by decide, hfull⟩
  rw [(hwords _ _).mpr hfits]
  exact congrArg Except.ok (by decide +kernel)

end Progress
end LayeredSite
