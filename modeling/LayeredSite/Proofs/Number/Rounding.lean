import LayeredSite.Number.Binary64
import Mathlib.Data.Nat.Digits.Defs
import Mathlib.Tactic.FieldSimp
import Mathlib.Tactic.Positivity

namespace LayeredSite.Binary64

/-- The number with these bits of exponent and significand. The one of `notFinite` is `2 ^ 1024`,
which would be the next after the largest double. -/
def value (bits : ℕ) : ℚ :=
  if bits < 2 ^ 52 then bits * 2 ^ (-1074 : ℤ)
  else (2 ^ 52 + bits % 2 ^ 52 : ℕ) * 2 ^ ((bits / 2 ^ 52 : ℕ) - 1075 : ℤ)

/-- No double is nearer to a number than the one with these bits, and if another is as near, the
last bit of this one is zero. Numbers halfway to `2 ^ 1024` and beyond are infinite. -/
structure Nearest (x : ℚ) (bits : ℕ) : Prop where
  le : bits ≤ notFinite
  nearest : ∀ c ≤ notFinite, |x - value bits| ≤ |x - value c|
  even : ∀ c ≤ notFinite, |x - value bits| = |x - value c| → c ≠ bits → bits % 2 = 0

theorem two_zpow_add (a b : ℤ) : (2 : ℚ) ^ (a + b) = 2 ^ a * 2 ^ b := zpow_add₀ two_ne_zero a b

theorem two_zpow_pos (a : ℤ) : (0 : ℚ) < 2 ^ a := zpow_pos two_pos a

theorem value_eq {m e : ℕ} (hm : m ≤ 2 ^ 53) (h : e = 0 ∨ 2 ^ 52 ≤ m) :
    value (m + e * 2 ^ 52) = m * 2 ^ (e - 1074 : ℤ) := by
  unfold value
  rcases Nat.lt_or_ge m (2 ^ 52) with hsmall | hbig
  · obtain rfl : e = 0 := by omega
    rw [if_pos (by omega)]
    norm_num
  · rw [if_neg (by omega)]
    rcases Nat.lt_or_eq_of_le hm with hlt | rfl
    · have hexponent : (m + e * 2 ^ 52) / 2 ^ 52 = e + 1 := by omega
      have hsignificand : 2 ^ 52 + (m + e * 2 ^ 52) % 2 ^ 52 = m := by omega
      rw [hexponent, hsignificand]
      congr 2
      push_cast
      ring
    · -- The next binade begins here.
      have hexponent : (2 ^ 53 + e * 2 ^ 52) / 2 ^ 52 = e + 2 := by omega
      have hsignificand : (2 ^ 53 + e * 2 ^ 52) % 2 ^ 52 = 0 := by omega
      have hsplit : ((e + 2 : ℕ) - 1075 : ℤ) = 1 + (e - 1074) := by
        push_cast
        ring
      rw [hexponent, hsignificand, hsplit, two_zpow_add]
      norm_num
      ring

theorem exists_parts (bits : ℕ) :
    ∃ m e, bits = m + e * 2 ^ 52 ∧ m < 2 ^ 53 ∧ (e = 0 ∨ 2 ^ 52 ≤ m) := by
  rcases Nat.lt_or_ge bits (2 ^ 52) with hsmall | hbig
  · exact ⟨bits, 0, by omega, by omega, .inl rfl⟩
  · exact ⟨2 ^ 52 + bits % 2 ^ 52, bits / 2 ^ 52 - 1, by omega, by omega, .inr (by omega)⟩

theorem strictMono_value : StrictMono value := by
  refine strictMono_nat_of_lt_succ fun bits => ?_
  obtain ⟨m, e, rfl, hm, he⟩ := exists_parts bits
  have hnext : m + e * 2 ^ 52 + 1 = m + 1 + e * 2 ^ 52 := by ring
  rw [hnext, value_eq hm.le he, value_eq (m := m + 1) hm (he.imp_right Nat.le_succ_of_le)]
  exact mul_lt_mul_of_pos_right (by exact_mod_cast m.lt_succ_self) (two_zpow_pos _)

theorem value_notFinite : value notFinite = 2 ^ (1024 : ℤ) := by
  have hparts : notFinite = 2 ^ 52 + 2046 * 2 ^ 52 := by decide
  have hleast : ((2 ^ 52 : ℕ) : ℚ) = 2 ^ (52 : ℤ) := by norm_cast
  rw [hparts, value_eq (by norm_num) (.inr le_rfl), hleast, ← two_zpow_add]
  norm_num

/-- Between two nearest doubles there would be a third, which is nearer. -/
theorem Nearest.unique {x : ℚ} {a b : ℕ} (ha : Nearest x a) (hb : Nearest x b) : a = b := by
  wlog hab : a ≤ b
  · exact (this hb ha (by omega)).symm
  by_contra hne
  have hsame : |x - value a| = |x - value b| :=
    le_antisymm (ha.nearest b hb.le) (hb.nearest a ha.le)
  have heven := ha.even b hb.le hsame (Ne.symm hne)
  have heven' := hb.even a ha.le hsame.symm hne
  have hlow : value a < value (a + 1) := strictMono_value (by omega)
  have hhigh : value (a + 1) < value b := strictMono_value (by omega)
  have hbetween := ha.nearest (a + 1) (by have := hb.le; omega)
  rcases abs_cases (x - value a) with ⟨h₁, _⟩ | ⟨h₁, _⟩ <;>
    rcases abs_cases (x - value b) with ⟨h₂, _⟩ | ⟨h₂, _⟩ <;>
    rcases abs_cases (x - value (a + 1)) with ⟨h₃, _⟩ | ⟨h₃, _⟩ <;> linarith

theorem nearest_notFinite {x : ℚ} (h : 2 ^ (1024 : ℤ) ≤ x) : Nearest x notFinite := by
  rw [← value_notFinite] at h
  have hdistance (c : ℕ) (hc : c ≤ notFinite) : |x - value c| = x - value c :=
    abs_of_nonneg (by linarith [strictMono_value.monotone hc])
  refine ⟨le_rfl, fun c hc => ?_, fun c hc heq hne => ?_⟩
  · rw [hdistance c hc, hdistance _ le_rfl]
    linarith [strictMono_value.monotone hc]
  · rw [hdistance c hc, hdistance _ le_rfl] at heq
    exact absurd (strictMono_value.injective (by linarith)) hne

theorem value_zero : value 0 = 0 := by simp [value]

theorem nearest_zero {x : ℚ} (h₀ : 0 ≤ x) (h : x < 2 ^ (-1075 : ℤ)) : Nearest x 0 := by
  have hleast : value 1 = 2 * 2 ^ (-1075 : ℤ) := by
    have hsplit : (-1074 : ℤ) = 1 + -1075 := by norm_num
    rw [value, if_pos (by norm_num), hsplit, two_zpow_add]
    norm_num
  refine ⟨Nat.zero_le _, fun c _ => ?_, fun _ _ _ _ => rfl⟩
  rw [value_zero, sub_zero, abs_of_nonneg h₀]
  rcases Nat.eq_zero_or_pos c with rfl | hc
  · rw [value_zero, sub_zero, abs_of_nonneg h₀]
  · have hvalue := strictMono_value.monotone hc
    rw [abs_sub_comm]
    exact le_trans (by linarith) (le_abs_self _)

/-- An integer nearest to a number, the even one if the number lies between two. -/
structure Rounds (y : ℚ) (m : ℕ) : Prop where
  near : |y - m| ≤ 1 / 2
  even : |y - m| = 1 / 2 → m % 2 = 0

/-- Every other integer is at least a half away. -/
theorem Rounds.half_le {y : ℚ} {m j : ℕ} (h : Rounds y m) (hj : j ≠ m) : 1 / 2 ≤ |y - j| := by
  have hone : (1 : ℚ) ≤ |(m : ℚ) - j| := by
    have hint : (1 : ℤ) ≤ |(m : ℤ) - j| := Int.one_le_abs (by omega)
    exact_mod_cast hint
  have htriangle : |(m : ℚ) - j| ≤ |y - m| + |y - j| := by
    rw [abs_sub_comm y m]
    exact abs_sub_le (m : ℚ) y j
  linarith [h.near]

theorem Rounds.le {y : ℚ} {m : ℕ} (h : Rounds y m) (j : ℕ) : |y - m| ≤ |y - j| := by
  rcases eq_or_ne j m with rfl | hj
  · exact le_rfl
  · exact h.near.trans (h.half_le hj)

theorem Rounds.even_of_eq {y : ℚ} {m j : ℕ} (h : Rounds y m) (heq : |y - m| = |y - j|)
    (hj : j ≠ m) : m % 2 = 0 :=
  h.even (le_antisymm h.near (heq ▸ h.half_le hj))

theorem Rounds.le_of_le {y : ℚ} {m n : ℕ} (h : Rounds y m) (hy : y ≤ n) : m ≤ n := by
  by_contra hlt
  have hcast : (n + 1 : ℚ) ≤ m := by exact_mod_cast not_le.mp hlt
  have hnear := (abs_le.mp h.near).1
  linarith

theorem Rounds.ge_of_ge {y : ℚ} {m n : ℕ} (h : Rounds y m) (hy : n ≤ y) : n ≤ m := by
  by_contra hlt
  have hcast : (m + 1 : ℚ) ≤ n := by exact_mod_cast not_le.mp hlt
  have hnear := (abs_le.mp h.near).2
  linarith

theorem rounds_down {q : ℕ} {t : ℚ} (ht : 0 ≤ t) (h : t ≤ 1 / 2) (heven : t = 1 / 2 → q % 2 = 0) :
    Rounds (q + t) q := by
  have hdistance : |(q : ℚ) + t - q| = t := by rw [add_sub_cancel_left, abs_of_nonneg ht]
  exact ⟨hdistance.trans_le h, fun hhalf => heven (hdistance.symm.trans hhalf)⟩

theorem rounds_up {q : ℕ} {t : ℚ} (ht : t ≤ 1) (h : 1 / 2 ≤ t) (heven : t = 1 / 2 → q % 2 = 1) :
    Rounds (q + t) (q + 1) := by
  have hdistance : |(q : ℚ) + t - (q + 1 : ℕ)| = 1 - t := by
    rw [abs_sub_comm, abs_of_nonneg] <;> push_cast <;> linarith
  refine ⟨by linarith, fun hhalf => ?_⟩
  have hodd := heven (by linarith)
  omega

theorem rounds_divNearest (num : ℕ) {den : ℕ} (hden : 0 < den) :
    Rounds (num / den) (divNearest num den) := by
  have hpos : (0 : ℚ) < den := by exact_mod_cast hden
  -- The quotient is a whole number and a part t of one, and t decides the direction.
  obtain ⟨t, ht, ht₀, ht₁⟩ :
      ∃ t : ℚ, t * den = (num % den : ℕ) ∧ 0 ≤ t ∧ t < 1 := by
    refine ⟨(num % den : ℕ) / den, by field_simp, by positivity, (div_lt_one hpos).mpr ?_⟩
    exact_mod_cast Nat.mod_lt num hden
  have hquotient : (num / den : ℚ) = (num / den : ℕ) + t := by
    have hdivision : (num : ℚ) = den * (num / den : ℕ) + (num % den : ℕ) := by
      exact_mod_cast (Nat.div_add_mod num den).symm
    rw [div_eq_iff hpos.ne', hdivision, ← ht]
    ring
  have hcompare : 2 * ((num % den : ℕ) : ℚ) = 2 * t * den := by rw [← ht, mul_assoc]
  rw [divNearest, hquotient]
  generalize num / den = q
  generalize num % den = r at hcompare
  rcases lt_trichotomy (2 * r) den with h | h | h
  · rw [if_pos h]
    have hless : 2 * t * den < 1 * den := by
      rw [← hcompare, one_mul]
      exact_mod_cast h
    have hhalf := lt_of_mul_lt_mul_right hless hpos.le
    exact rounds_down ht₀ (by linarith) fun _ => by linarith
  · rw [if_neg h.not_lt, if_neg h.not_gt]
    have hequal : 2 * t * den = 1 * den := by
      rw [← hcompare, one_mul]
      exact_mod_cast h
    have hhalf := mul_right_cancel₀ hpos.ne' hequal
    rcases Nat.mod_two_eq_zero_or_one q with heven | hodd
    · rw [heven]
      exact rounds_down ht₀ (by linarith) fun _ => heven
    · rw [hodd]
      exact rounds_up ht₁.le (by linarith) fun _ => hodd
  · rw [if_neg h.not_gt, if_pos h]
    have hless : 1 * (den : ℚ) < 2 * t * den := by
      rw [← hcompare, one_mul]
      exact_mod_cast h
    have hhalf := lt_of_mul_lt_mul_right hless hpos.le
    exact rounds_up ht₁.le (by linarith) fun _ => by linarith

theorem two_zpow_of_nonneg {k : ℤ} (hk : ¬ k < 0) : (2 : ℚ) ^ k = pow2 k.natAbs := by
  obtain ⟨n, rfl⟩ := Int.eq_ofNat_of_zero_le (not_lt.mp hk)
  rw [zpow_natCast]
  exact_mod_cast rfl

theorem two_zpow_of_neg {k : ℤ} (hk : k < 0) : (2 : ℚ) ^ k = (pow2 k.natAbs : ℚ)⁻¹ := by
  rw [← Int.natAbs_neg, ← two_zpow_of_nonneg (by omega), ← zpow_neg, neg_neg]

theorem pow2_pos (n : ℕ) : (0 : ℚ) < pow2 n := by
  exact_mod_cast Nat.two_pow_pos n

/-- A comparison with a power of two, whatever its sign. -/
theorem below_iff (num : ℕ) {den : ℕ} (hden : 0 < den) (k : ℤ) :
    (if k < 0 then num * pow2 k.natAbs < den else num < den * pow2 k.natAbs) ↔
      (num / den : ℚ) < 2 ^ k := by
  have hpos : (0 : ℚ) < den := by exact_mod_cast hden
  rw [div_lt_iff₀ hpos]
  split
  · rename_i hk
    rw [two_zpow_of_neg hk, inv_mul_eq_div, lt_div_iff₀ (pow2_pos _)]
    exact_mod_cast Iff.rfl
  · rename_i hk
    rw [two_zpow_of_nonneg hk, mul_comm]
    exact_mod_cast Iff.rfl

theorem log2Ratio_spec {num den : ℕ} (hnum : 0 < num) (hden : 0 < den) :
    (2 : ℚ) ^ log2Ratio num den ≤ num / den ∧ (num / den : ℚ) < 2 ^ (log2Ratio num den + 1) := by
  have hpos : (0 : ℚ) < den := by exact_mod_cast hden
  -- The logarithms of the two parts leave two candidates, between which one comparison decides.
  have hlow : (2 : ℚ) ^ (num.log2 : ℤ) ≤ num := by
    rw [zpow_natCast]
    exact_mod_cast Nat.log2_self_le hnum.ne'
  have hhigh : (num : ℚ) < 2 ^ (num.log2 + 1 : ℤ) := by
    exact_mod_cast Nat.lt_log2_self
  have hlow' : (2 : ℚ) ^ (den.log2 : ℤ) ≤ den := by
    rw [zpow_natCast]
    exact_mod_cast Nat.log2_self_le hden.ne'
  have hhigh' : (den : ℚ) < 2 ^ (den.log2 + 1 : ℤ) := by
    exact_mod_cast Nat.lt_log2_self
  have hbelow : (num / den : ℚ) < 2 ^ ((num.log2 : ℤ) - den.log2 + 1) := by
    rw [div_lt_iff₀ hpos]
    calc (num : ℚ) < 2 ^ (num.log2 + 1 : ℤ) := hhigh
      _ = 2 ^ ((num.log2 : ℤ) - den.log2 + 1) * 2 ^ (den.log2 : ℤ) := by
        rw [← two_zpow_add]
        congr 1
        omega
      _ ≤ 2 ^ ((num.log2 : ℤ) - den.log2 + 1) * den :=
        mul_le_mul_of_nonneg_left hlow' (two_zpow_pos _).le
  have habove : (2 : ℚ) ^ ((num.log2 : ℤ) - den.log2 - 1) ≤ num / den := by
    rw [le_div_iff₀ hpos]
    calc (2 : ℚ) ^ ((num.log2 : ℤ) - den.log2 - 1) * den
        ≤ 2 ^ ((num.log2 : ℤ) - den.log2 - 1) * 2 ^ (den.log2 + 1 : ℤ) :=
          mul_le_mul_of_nonneg_left hhigh'.le (two_zpow_pos _).le
      _ = 2 ^ (num.log2 : ℤ) := by
        rw [← two_zpow_add]
        congr 1
        omega
      _ ≤ num := hlow
  simp only [log2Ratio, below_iff num hden]
  split
  · rename_i h
    exact ⟨habove, by rwa [Int.sub_add_cancel]⟩
  · rename_i h
    exact ⟨not_lt.mp h, hbelow⟩

/-- The quotient that `bitsOfRatio` rounds is the ratio scaled to the unit of its last bit. -/
theorem rounds_scaled (num : ℕ) {den : ℕ} (hden : 0 < den) (q : ℤ) :
    Rounds (num / den / 2 ^ q) (if q < 0 then divNearest (num * pow2 q.natAbs) den
      else divNearest num (den * pow2 q.natAbs)) := by
  split
  · rename_i hq
    have hscaled : (num / den / 2 ^ q : ℚ) = (num * pow2 q.natAbs : ℕ) / den := by
      rw [two_zpow_of_neg hq, div_inv_eq_mul, Nat.cast_mul, div_mul_eq_mul_div]
    rw [hscaled]
    exact rounds_divNearest _ hden
  · rename_i hq
    have hscaled : (num / den / 2 ^ q : ℚ) = num / (den * pow2 q.natAbs : ℕ) := by
      rw [two_zpow_of_nonneg hq, Nat.cast_mul, div_div]
    rw [hscaled]
    exact rounds_divNearest _ (Nat.mul_pos hden (Nat.two_pow_pos _))

/-- A double is a multiple of the unit of a binade, or below the binade. -/
theorem value_cases (c e : ℕ) : (∃ j : ℕ, value c = j * 2 ^ (e - 1074 : ℤ)) ∨
    e ≠ 0 ∧ value c < 2 ^ 52 * 2 ^ (e - 1074 : ℤ) := by
  obtain ⟨m, e', rfl, hm, he'⟩ := exists_parts c
  rw [value_eq hm.le he']
  rcases Nat.lt_or_ge e' e with hlt | hge
  · obtain ⟨d, rfl⟩ := Nat.exists_eq_add_of_lt hlt
    have hsplit : ((e' + d + 1 : ℕ) - 1074 : ℤ) = 1 + d + (e' - 1074) := by
      push_cast
      ring
    refine .inr ⟨by omega, ?_⟩
    rw [hsplit, two_zpow_add, ← mul_assoc]
    refine mul_lt_mul_of_pos_right ?_ (two_zpow_pos _)
    calc (m : ℚ) < 2 ^ 52 * 2 := by exact_mod_cast hm
      _ ≤ 2 ^ 52 * 2 ^ (1 + d : ℤ) := by
        refine mul_le_mul_of_nonneg_left ?_ (by positivity)
        exact_mod_cast Nat.le_self_pow (by omega : 1 + d ≠ 0) 2
  · obtain ⟨d, rfl⟩ := Nat.exists_eq_add_of_le hge
    have hsplit : ((e + d : ℕ) - 1074 : ℤ) = d + (e - 1074) := by
      push_cast
      ring
    refine .inl ⟨m * 2 ^ d, ?_⟩
    rw [hsplit, two_zpow_add, zpow_natCast, Nat.cast_mul, mul_assoc]
    push_cast
    rfl

theorem abs_sub_mul_unit (x y : ℚ) {unit : ℚ} (h : 0 < unit) :
    |x - y * unit| = |x / unit - y| * unit := by
  rw [← abs_of_pos h, ← abs_mul, abs_of_pos h, sub_mul, div_mul_cancel₀ _ h.ne']

/-- Doubles below the binade of a number are farther away from it than its beginning. -/
theorem nearer_or_multiple {x : ℚ} {m e : ℕ} (h : Rounds (x / 2 ^ (e - 1074 : ℤ)) m)
    (hge : e = 0 ∨ 2 ^ 52 * 2 ^ (e - 1074 : ℤ) ≤ x) (c : ℕ) :
    |x - m * 2 ^ (e - 1074 : ℤ)| < |x - value c| ∨
      ∃ j : ℕ, value c = j * 2 ^ (e - 1074 : ℤ) := by
  have hunit := two_zpow_pos (e - 1074)
  rcases value_cases c e with hj | ⟨he, hc⟩
  · exact .inr hj
  · refine .inl ?_
    have hx := hge.resolve_left he
    have hfirst : |x - m * 2 ^ (e - 1074 : ℤ)| ≤ |x - 2 ^ 52 * 2 ^ (e - 1074 : ℤ)| := by
      rw [abs_sub_mul_unit x _ hunit, abs_sub_mul_unit x _ hunit]
      refine mul_le_mul_of_nonneg_right ?_ hunit.le
      exact_mod_cast h.le (2 ^ 52)
    refine hfirst.trans_lt ?_
    rw [abs_of_nonneg (by linarith), abs_of_nonneg (by linarith)]
    linarith

/-- The significand is rounded in the binade of the number, where doubles are multiples of one
unit. -/
theorem nearest_of_rounds {x : ℚ} {m e : ℕ} (h : Rounds (x / 2 ^ (e - 1074 : ℤ)) m)
    (hlt : x < 2 ^ 53 * 2 ^ (e - 1074 : ℤ)) (hge : e = 0 ∨ 2 ^ 52 * 2 ^ (e - 1074 : ℤ) ≤ x) :
    Nearest x (min (m + e * 2 ^ 52) notFinite) := by
  have hunit := two_zpow_pos (e - 1074)
  have hm : m ≤ 2 ^ 53 := h.le_of_le (by
    rw [div_le_iff₀ hunit]
    exact_mod_cast hlt.le)
  have hm' : e = 0 ∨ 2 ^ 52 ≤ m := hge.imp_right fun hx => h.ge_of_ge (by
    rw [le_div_iff₀ hunit]
    exact_mod_cast hx)
  have hvalue := value_eq hm hm'
  rcases le_or_gt (m + e * 2 ^ 52) notFinite with hfinite | hover
  · rw [min_eq_left hfinite]
    -- Another double is a multiple of the unit too, or it is further away than this one.
    refine ⟨hfinite, fun c _ => ?_, fun c _ heq hne => ?_⟩
    · rw [hvalue]
      rcases nearer_or_multiple h hge c with hless | ⟨j, hj⟩
      · exact hless.le
      · rw [hj, abs_sub_mul_unit x _ hunit, abs_sub_mul_unit x _ hunit]
        exact mul_le_mul_of_nonneg_right (h.le j) hunit.le
    · rw [hvalue] at heq
      rcases nearer_or_multiple h hge c with hless | ⟨j, hj⟩
      · exact absurd heq hless.ne
      · have hother : j ≠ m := by
          rintro rfl
          exact hne (strictMono_value.injective (hj.trans hvalue.symm))
        rw [hj, abs_sub_mul_unit x _ hunit, abs_sub_mul_unit x _ hunit] at heq
        have heven := h.even_of_eq (mul_right_cancel₀ hunit.ne' heq) hother
        omega
  · rw [min_eq_right hover.le]
    have he : 2046 ≤ e := by
      have hbits : notFinite = 2047 * 2 ^ 52 := rfl
      omega
    refine nearest_notFinite (le_trans ?_ (hge.resolve_left (by omega)))
    calc (2 : ℚ) ^ (1024 : ℤ) ≤ 2 ^ (52 + (e - 1074) : ℤ) :=
          zpow_le_zpow_right₀ one_le_two (by omega)
      _ = 2 ^ 52 * 2 ^ (e - 1074 : ℤ) := two_zpow_add _ _

theorem nearest_bitsOfRatio {num den : ℕ} (hnum : 0 < num) (hden : 0 < den) :
    Nearest (num / den) (bitsOfRatio num den) := by
  obtain ⟨hlow, hhigh⟩ := log2Ratio_spec hnum hden
  rw [bitsOfRatio]
  -- The last bit is 52 places behind the leading one, or the least one of all doubles.
  generalize hq : max (log2Ratio num den - 52) (-1074) = q
  obtain ⟨e, rfl⟩ : ∃ e : ℕ, q = e - 1074 := ⟨(q + 1074).toNat, by omega⟩
  have hexponent : ((e - 1074 : ℤ) + 1074).toNat = e := by omega
  rw [hexponent]
  refine nearest_of_rounds (rounds_scaled num hden _) (hhigh.trans_le ?_) ?_
  · calc (2 : ℚ) ^ (log2Ratio num den + 1) ≤ 2 ^ (53 + (e - 1074) : ℤ) :=
          zpow_le_zpow_right₀ one_le_two (by omega)
      _ = 2 ^ 53 * 2 ^ (e - 1074 : ℤ) := two_zpow_add _ _
  · rcases Nat.eq_zero_or_pos e with rfl | he
    · exact .inl rfl
    · refine .inr (le_trans (le_of_eq ?_) hlow)
      have hk : log2Ratio num den = 52 + (e - 1074) := by omega
      rw [hk, two_zpow_add]
      rfl

theorem lt_ten_zpow_length (n : ℕ) : (n : ℚ) < 10 ^ ((Nat.toDigits 10 n).length : ℤ) := by
  rw [zpow_natCast]
  exact_mod_cast (Nat.length_toDigits_le_iff (by norm_num) Nat.length_toDigits_pos).mp le_rfl

theorem ten_zpow_length_le {n : ℕ} (hn : 0 < n) :
    (10 : ℚ) ^ ((Nat.toDigits 10 n).length - 1 : ℤ) ≤ n := by
  obtain ⟨k, hk⟩ : ∃ k, (Nat.toDigits 10 n).length = k + 1 :=
    Nat.exists_eq_add_one_of_ne_zero Nat.length_toDigits_pos.ne'
  rw [hk, Nat.cast_succ, add_sub_cancel_right, zpow_natCast]
  rcases Nat.eq_zero_or_pos k with rfl | hpos
  · exact_mod_cast hn
  · have hmore : ¬ (Nat.toDigits 10 n).length ≤ k := by omega
    rw [Nat.length_toDigits_le_iff (by norm_num) hpos] at hmore
    exact_mod_cast not_lt.mp hmore

theorem two_zpow_le_ten_zpow : (2 : ℚ) ^ (1024 : ℤ) ≤ 10 ^ (310 : ℤ) := by
  have h : 2 ^ 1024 ≤ 10 ^ 310 := by decide +kernel
  exact_mod_cast h

theorem ten_zpow_lt_two_zpow : (10 : ℚ) ^ (-331 : ℤ) < 2 ^ (-1075 : ℤ) := by
  have h : 2 ^ 1075 < 10 ^ 331 := by decide +kernel
  rw [zpow_neg, zpow_neg, inv_lt_inv₀ (zpow_pos (by norm_num) _) (two_zpow_pos _)]
  exact_mod_cast h

/-- A decimal is read as the nearest double, the even one of two. -/
theorem ofDecimal_nearest (negative : Bool) (n : ℕ) (e : ℤ) :
    ∃ bits, ofDecimal negative n e = ofBits negative bits ∧ Nearest (n * 10 ^ e) bits := by
  have hten (k : ℤ) : (0 : ℚ) < 10 ^ k := zpow_pos (by norm_num) k
  refine ⟨_, rfl, ?_⟩
  split
  · rename_i hn
    rw [hn, Nat.cast_zero, zero_mul]
    exact nearest_zero le_rfl (two_zpow_pos _)
  rename_i hn
  have hpositive : 0 < n := Nat.pos_of_ne_zero hn
  split
  -- Too many digits in front of the point for any double.
  · refine nearest_notFinite ?_
    calc (2 : ℚ) ^ (1024 : ℤ) ≤ 10 ^ (310 : ℤ) := two_zpow_le_ten_zpow
      _ ≤ 10 ^ ((Nat.toDigits 10 n).length - 1 + e : ℤ) :=
        zpow_le_zpow_right₀ (by norm_num) (by omega)
      _ = 10 ^ ((Nat.toDigits 10 n).length - 1 : ℤ) * 10 ^ e := zpow_add₀ (by norm_num) _ _
      _ ≤ n * 10 ^ e := mul_le_mul_of_nonneg_right (ten_zpow_length_le hpositive) (hten e).le
  split
  -- Too many zeros behind the point: less than half of the smallest double.
  · refine nearest_zero (mul_nonneg n.cast_nonneg (hten e).le) ?_
    calc (n : ℚ) * 10 ^ e ≤ 10 ^ ((Nat.toDigits 10 n).length : ℤ) * 10 ^ e :=
          mul_le_mul_of_nonneg_right (lt_ten_zpow_length n).le (hten e).le
      _ = 10 ^ ((Nat.toDigits 10 n).length + e : ℤ) := (zpow_add₀ (by norm_num) _ _).symm
      _ ≤ 10 ^ (-331 : ℤ) := zpow_le_zpow_right₀ (by norm_num) (by omega)
      _ < 2 ^ (-1075 : ℤ) := ten_zpow_lt_two_zpow
  split
  · rename_i hsign
    have hratio : (n * 10 ^ e : ℚ) = n / (pow10 e.natAbs : ℕ) := by
      obtain ⟨k, rfl⟩ := Int.eq_negSucc_of_lt_zero hsign
      rw [zpow_negSucc, div_eq_mul_inv]
      exact_mod_cast rfl
    rw [hratio]
    exact nearest_bitsOfRatio hpositive (Nat.pow_pos (by norm_num))
  · rename_i hsign
    have hratio : (n * 10 ^ e : ℚ) = (n * pow10 e.natAbs : ℕ) / (1 : ℕ) := by
      obtain ⟨k, rfl⟩ := Int.eq_ofNat_of_zero_le (not_lt.mp hsign)
      rw [zpow_natCast, Nat.cast_one, div_one]
      exact_mod_cast rfl
    rw [hratio]
    exact nearest_bitsOfRatio (Nat.mul_pos hpositive (Nat.pow_pos (by norm_num))) Nat.one_pos

end LayeredSite.Binary64
