import LayeredSite.Template.Form
import Mathlib.Data.List.Induction
import Mathlib.Data.Nat.Digits.Defs

namespace LayeredSite.Spelling

def Digits (cs : List Char) : Prop := ∀ c ∈ cs, Number.isDigit c = true

def value (cs : List Char) : ℕ := Nat.ofDigits 10 (cs.reverse.map Number.digitValue)

/-- An optional sign; true is for the minus. -/
inductive Sign : Bool → List Char → Prop
  | none : Sign false []
  | plus : Sign false ['+']
  | minus : Sign true ['-']

def signed (negative : Bool) (n : ℕ) : ℤ := if negative then -n else n

inductive Decimal : List Char → ℤ → Prop
  | mk {negative : Bool} {sign ds : List Char} : Sign negative sign → ds ≠ [] → Digits ds →
      Decimal (sign ++ ds) (signed negative (value ds))

inductive Fraction : List Char → List Char → Prop
  | none : Fraction [] []
  | point {ds : List Char} : Digits ds → Fraction ('.' :: ds) ds

inductive Exponent : List Char → ℤ → Prop
  | none : Exponent [] 0
  | mark {c : Char} {cs : List Char} {e : ℤ} : c = 'e' ∨ c = 'E' → Decimal cs e →
      Exponent (c :: cs) e

/-- A floating-point literal that begins with a digit or a sign and a digit, and the double nearest
to the number it stands for. -/
inductive FloatLiteral : List Char → Float → Prop
  | mk {negative : Bool} {sign whole point fraction exponent : List Char} {e : ℤ} :
      Sign negative sign → whole ≠ [] → Digits whole → Fraction point fraction →
      Exponent exponent e →
      FloatLiteral (sign ++ (whole ++ (point ++ exponent)))
        (Binary64.ofDecimal negative (value (whole ++ fraction)) (e - fraction.length))

/-- What an atom denotes. A decimal in the range of 64 bits is an integer and not a float, and
whatever is nothing else is a symbol. -/
inductive Denotes : List Char → Leaf → Prop
  | nil : Denotes ['n', 'i', 'l'] (.literal .nil)
  | true : Denotes ['t', 'r', 'u', 'e'] (.literal (.bool Bool.true))
  | false : Denotes ['f', 'a', 'l', 's', 'e'] (.literal (.bool Bool.false))
  | int {cs : List Char} {n : Int64} : Decimal cs n.toInt → Denotes cs (.literal (.int n))
  | float {cs : List Char} {f : Float} : FloatLiteral cs f → (∀ n : Int64, ¬ Decimal cs n.toInt) →
      Denotes cs (.literal (.float f))
  | symbol {cs : List Char} : (∀ n : Int64, ¬ Decimal cs n.toInt) → (∀ f, ¬ FloatLiteral cs f) →
      cs ≠ ['n', 'i', 'l'] → cs ≠ ['t', 'r', 'u', 'e'] → cs ≠ ['f', 'a', 'l', 's', 'e'] →
      Denotes cs (.symbol (String.ofList cs))

theorem ofDigits_eq_value (cs : List Char) : Number.ofDigits cs = value cs := by
  induction cs using List.reverseRecOn with
  | nil => rfl
  | append_singleton cs c ih =>
    have hfold : Number.ofDigits (cs ++ [c]) = 10 * Number.ofDigits cs + Number.digitValue c := by
      simp [Number.ofDigits]
    rw [hfold, ih, value, value, List.reverse_append, List.reverse_singleton, List.singleton_append,
      List.map_cons, Nat.ofDigits_cons, Nat.add_comm]

theorem isDigit_ne {c d : Char} (h : Number.isDigit c = true) (hd : Number.isDigit d = false) :
    c ≠ d := by
  rintro rfl
  simp [h] at hd

theorem splitSign_sign {negative : Bool} {sign rest : List Char} (h : Sign negative sign)
    {c : Char} (hc : Number.isDigit c = true) :
    Number.splitSign (sign ++ c :: rest) = (negative, c :: rest) := by
  cases h with
  | none =>
    have hminus : c ≠ '-' := isDigit_ne hc (by decide)
    have hplus : c ≠ '+' := isDigit_ne hc (by decide)
    rw [List.nil_append]
    unfold Number.splitSign
    split
    · simp_all
    · simp_all
    · rfl
  | plus => rfl
  | minus => rfl

theorem exists_sign (cs : List Char) :
    ∃ sign, Sign (Number.splitSign cs).1 sign ∧ cs = sign ++ (Number.splitSign cs).2 := by
  unfold Number.splitSign
  split
  · exact ⟨['-'], .minus, rfl⟩
  · exact ⟨['+'], .plus, rfl⟩
  · exact ⟨[], .none, rfl⟩

theorem integer?_eq_some_iff {cs : List Char} {i : ℤ} :
    Number.integer? cs = some i ↔ Decimal cs i := by
  constructor
  · intro h
    obtain ⟨sign, hsign, hcs⟩ := exists_sign cs
    simp only [Number.integer?] at h
    split at h
    · simp at h
    · rename_i hdigits
      simp only [Bool.or_eq_true, not_or, List.isEmpty_iff, Bool.not_eq_true', Bool.not_eq_false,
        List.all_eq_true] at hdigits
      rw [ofDigits_eq_value] at h
      have hi : i = signed (Number.splitSign cs).1 (value (Number.splitSign cs).2) :=
        (Option.some.inj h).symm
      rw [hcs, hi, ← hcs]
      nth_rewrite 1 [hcs]
      exact .mk hsign hdigits.1 hdigits.2
  · rintro ⟨hsign, hne, hdigits⟩
    rename_i negative sign ds
    obtain ⟨c, ds, rfl⟩ := List.exists_cons_of_ne_nil hne
    have hall : (c :: ds).all Number.isDigit = true := List.all_eq_true.mpr hdigits
    rw [Number.integer?, splitSign_sign hsign (hdigits c List.mem_cons_self)]
    simp [hall, ofDigits_eq_value, signed]

theorem span_digits {ds rest : List Char} (h : Digits ds)
    (hr : ∀ c, rest.head? = some c → Number.isDigit c = false) :
    (ds ++ rest).takeWhile Number.isDigit = ds ∧ (ds ++ rest).dropWhile Number.isDigit = rest := by
  rw [List.takeWhile_append_of_pos h, List.dropWhile_append_of_pos h]
  cases rest with
  | nil => simp
  | cons c rest => simp [hr c rfl]

theorem Exponent.head_not_digit {cs : List Char} {e : ℤ} (h : Exponent cs e) {c : Char}
    (hc : cs.head? = some c) : Number.isDigit c = false := by
  cases h with
  | none => simp at hc
  | mark hm _ =>
    obtain rfl := Option.some.inj hc
    rcases hm with rfl | rfl <;> decide

theorem Exponent.head_ne_point {cs : List Char} {e : ℤ} (h : Exponent cs e) (rest : List Char) :
    cs ≠ '.' :: rest := by
  rintro rfl
  cases h with
  | mark hm _ => simp at hm

theorem Fraction.head_not_digit {point fraction exponent : List Char} {e : ℤ}
    (hf : Fraction point fraction) (he : Exponent exponent e) {c : Char}
    (hc : (point ++ exponent).head? = some c) : Number.isDigit c = false := by
  cases hf with
  | none => exact he.head_not_digit hc
  | point _ =>
    obtain rfl := Option.some.inj hc
    decide

/-- The end of a literal: nothing, or an exponent. -/
theorem exponent_iff {whole fraction exponent : List Char} {s : Number.Scientific}
    (hw : whole ≠ []) :
    (if whole.isEmpty && fraction.isEmpty then none
      else match exponent with
        | [] => some (⟨whole, fraction, 0⟩ : Number.Scientific)
        | c :: rest =>
          if c = 'e' || c = 'E' then
            (Number.integer? rest).map fun e => (⟨whole, fraction, e⟩ : Number.Scientific)
          else none) = some s ↔
      s.whole = whole ∧ s.fraction = fraction ∧ Exponent exponent s.exponent := by
  obtain ⟨w, f, e⟩ := s
  constructor
  · intro h
    split at h
    · simp at h
    · split at h
      · obtain ⟨rfl, rfl, rfl⟩ := Number.Scientific.mk.inj (Option.some.inj h)
        exact ⟨rfl, rfl, .none⟩
      · split at h
        · rename_i hm
          obtain ⟨e', he, hs⟩ := Option.map_eq_some_iff.mp h
          obtain ⟨rfl, rfl, rfl⟩ := Number.Scientific.mk.inj hs
          exact ⟨rfl, rfl, .mark (by simpa using hm) (integer?_eq_some_iff.mp he)⟩
        · simp at h
  · rintro ⟨rfl, rfl, he⟩
    have hwhole : (w.isEmpty && f.isEmpty) = false := by simp [List.isEmpty_eq_false_iff.mpr hw]
    rw [hwhole, if_neg Bool.false_ne_true]
    cases he with
    | none => rfl
    | @mark c cs e hm hd =>
      have hm' : (decide (c = 'e') || decide (c = 'E')) = true := by simpa using hm
      simp [hm', integer?_eq_some_iff.mpr hd]

theorem digits_takeWhile (cs : List Char) : Digits (cs.takeWhile Number.isDigit) :=
  List.all_eq_true.mp List.all_takeWhile

theorem scientific?_eq_some_iff {c : Char} {cs : List Char} {s : Number.Scientific}
    (hc : Number.isDigit c = true) :
    Number.scientific? (c :: cs) = some s ↔
      ∃ point exponent, c :: cs = s.whole ++ (point ++ exponent) ∧ s.whole ≠ [] ∧
        Digits s.whole ∧ Fraction point s.fraction ∧ Exponent exponent s.exponent := by
  constructor
  · intro h
    have hcs := (List.takeWhile_append_dropWhile (p := Number.isDigit) (l := c :: cs)).symm
    have hwhole := digits_takeWhile (c :: cs)
    have hne : (c :: cs).takeWhile Number.isDigit ≠ [] := by simp [hc]
    -- Of the runs of digits only that they are longest matters from here on.
    unfold Number.scientific? at h
    generalize (c :: cs).takeWhile Number.isDigit = whole at h hcs hwhole hne
    generalize (c :: cs).dropWhile Number.isDigit = rest at h hcs
    dsimp only at h
    split at h
    · rename_i rest
      obtain ⟨hw, hf, he⟩ := (exponent_iff hne).mp h
      refine ⟨'.' :: s.fraction, rest.dropWhile Number.isDigit, ?_, hw ▸ hne, hw ▸ hwhole,
        .point (hf ▸ digits_takeWhile rest), he⟩
      rw [hcs, hw, hf, List.cons_append, List.takeWhile_append_dropWhile]
    · obtain ⟨hw, hf, he⟩ := (exponent_iff hne).mp h
      exact ⟨[], rest, by rw [hcs, hw]; rfl, hw ▸ hne, hw ▸ hwhole, hf ▸ .none, he⟩
  · rintro ⟨point, exponent, hcs, hw, hd, hf, he⟩
    obtain ⟨whole, fraction, e⟩ := s
    dsimp only at hw hd hf he hcs
    obtain ⟨htake, hdrop⟩ := span_digits hd fun c => hf.head_not_digit he
    rw [hcs]
    unfold Number.scientific?
    rw [htake, hdrop]
    cases hf with
    | none =>
      dsimp only [List.nil_append]
      split
      · exact absurd rfl (he.head_ne_point _)
      · exact (exponent_iff hw).mpr ⟨rfl, rfl, he⟩
    | point hds =>
      obtain ⟨htake, hdrop⟩ := span_digits hds fun c => he.head_not_digit
      simp only [List.cons_append, htake, hdrop]
      exact (exponent_iff hw).mpr ⟨rfl, rfl, he⟩

theorem toLower_digit {c : Char} (hc : Number.isDigit c = true) : c.toLower = c := by
  simp only [Number.isDigit, Bool.and_eq_true, decide_eq_true_eq] at hc
  have h9 : c.val ≤ '9'.val := hc.2
  unfold Char.toLower
  exact dif_neg fun h => absurd (UInt32.le_trans h.1 h9) (by decide)

/-- A word that begins with a digit is not one of the named doubles. -/
theorem ofList_digit_ne {c : Char} (hc : Number.isDigit c = true) (cs : List Char) {d : Char}
    (hd : Number.isDigit d = false) (ds : List Char) :
    String.ofList ((c :: cs).map Char.toLower) ≠ String.ofList (d :: ds) := by
  intro h
  have hl := congrArg String.toList h
  simp only [String.toList_ofList, List.map_cons, toLower_digit hc, List.cons.injEq] at hl
  exact isDigit_ne hc hd hl.1

theorem parseFloat_digit {negative : Bool} {sign cs : List Char} {c : Char}
    (hs : Sign negative sign) (hc : Number.isDigit c = true) :
    Number.parseFloat (sign ++ c :: cs) =
      (Number.scientific? (c :: cs)).map (·.toFloat negative) := by
  have hinf := ofList_digit_ne hc cs (d := 'i') (by decide) ['n', 'f']
  have hinfinity := ofList_digit_ne hc cs (d := 'i') (by decide) ['n', 'f', 'i', 'n', 'i', 't', 'y']
  have hnan := ofList_digit_ne hc cs (d := 'n') (by decide) ['a', 'n']
  rw [Number.parseFloat, splitSign_sign hs hc]
  dsimp only
  have hword (w : String) (h : w ≠ String.ofList ['i', 'n', 'f'])
      (h' : w ≠ String.ofList ['i', 'n', 'f', 'i', 'n', 'i', 't', 'y']) :
      ¬ (decide (w = "inf") || decide (w = "infinity")) = true := by
    rw [Bool.or_eq_true, decide_eq_true_eq, decide_eq_true_eq]
    exact not_or.mpr ⟨h, h'⟩
  rw [if_neg (hword _ hinf hinfinity), if_neg hnan]

theorem startsNumber_iff {cs : List Char} :
    startsNumber cs = true ↔ ∃ negative sign c rest, Sign negative sign ∧
      Number.isDigit c = true ∧ cs = sign ++ c :: rest := by
  constructor
  · intro h
    unfold startsNumber at h
    split at h
    · rename_i c d rest
      simp only [Bool.or_eq_true, Bool.and_eq_true, beq_iff_eq] at h
      rcases h with hc | ⟨rfl | rfl, hd⟩
      · exact ⟨false, [], c, d :: rest, .none, hc, rfl⟩
      · exact ⟨true, ['-'], d, rest, .minus, hd, rfl⟩
      · exact ⟨false, ['+'], d, rest, .plus, hd, rfl⟩
    · rename_i c
      exact ⟨false, [], c, [], .none, h, rfl⟩
    · simp at h
  · rintro ⟨negative, sign, c, rest, hs, hc, rfl⟩
    cases hs with
    | none => cases rest <;> simp [startsNumber, hc]
    | plus => simp [startsNumber, hc]
    | minus => simp [startsNumber, hc]

theorem FloatLiteral.startsNumber {cs : List Char} {f : Float} (h : FloatLiteral cs f) :
    startsNumber cs = true := by
  cases h with
  | @mk negative sign whole point fraction exponent e hs hne hd hf he =>
    obtain ⟨c, whole, rfl⟩ := List.exists_cons_of_ne_nil hne
    exact startsNumber_iff.mpr
      ⟨negative, sign, c, whole ++ (point ++ exponent), hs, hd c List.mem_cons_self, rfl⟩

theorem Decimal.startsNumber {cs : List Char} {i : ℤ} (h : Decimal cs i) :
    startsNumber cs = true := by
  cases h with
  | @mk negative sign ds hs hne hd =>
    obtain ⟨c, ds, rfl⟩ := List.exists_cons_of_ne_nil hne
    exact startsNumber_iff.mpr ⟨negative, sign, c, ds, hs, hd c List.mem_cons_self, rfl⟩

theorem parseFloat_eq_some_iff {cs : List Char} {f : Float} (hn : startsNumber cs = true) :
    Number.parseFloat cs = some f ↔ FloatLiteral cs f := by
  constructor
  · intro h
    obtain ⟨negative, sign, c, rest, hs, hc, rfl⟩ := startsNumber_iff.mp hn
    rw [parseFloat_digit hs hc] at h
    obtain ⟨s, hsci, rfl⟩ := Option.map_eq_some_iff.mp h
    obtain ⟨point, exponent, hcs, hw, hd, hf, he⟩ := (scientific?_eq_some_iff hc).mp hsci
    rw [hcs, Number.Scientific.toFloat, ofDigits_eq_value]
    exact .mk hs hw hd hf he
  · rintro ⟨hs, hne, hd, hf, he⟩
    rename_i negative sign whole point fraction exponent e
    obtain ⟨c, whole, rfl⟩ := List.exists_cons_of_ne_nil hne
    have hc := hd c List.mem_cons_self
    have hsci : Number.scientific? (c :: (whole ++ (point ++ exponent))) =
        some ⟨c :: whole, fraction, e⟩ :=
      (scientific?_eq_some_iff hc).mpr ⟨point, exponent, rfl, hne, hd, hf, he⟩
    rw [List.cons_append, parseFloat_digit hs hc, hsci, Option.map_some,
      Number.Scientific.toFloat, ofDigits_eq_value]

theorem parseInt64_eq_some_iff {cs : List Char} {n : Int64} :
    Number.parseInt64 cs = some n ↔ Decimal cs n.toInt := by
  constructor
  · intro h
    obtain ⟨i, hi, hn⟩ := Option.bind_eq_some_iff.mp h
    rw [Number.int64?_toInt hn]
    exact integer?_eq_some_iff.mp hi
  · intro h
    have hrange : Number.int64? n.toInt = some n := by
      rw [Number.int64?, if_pos ⟨n.minValue_le_toInt, n.toInt_le⟩, Int64.ofInt_toInt]
    exact Option.bind_eq_some_iff.mpr ⟨n.toInt, integer?_eq_some_iff.mpr h, hrange⟩

theorem number?_int {cs : List Char} {n : Int64} (h : Decimal cs n.toInt) :
    number? cs = some (.int n) := by
  rw [number?, if_pos h.startsNumber, parseInt64_eq_some_iff.mpr h]

theorem parseInt64_eq_none {cs : List Char} (h : ∀ n : Int64, ¬ Decimal cs n.toInt) :
    Number.parseInt64 cs = none :=
  Option.eq_none_iff_forall_ne_some.mpr fun n hn => h n (parseInt64_eq_some_iff.mp hn)

theorem number?_float {cs : List Char} {f : Float} (h : FloatLiteral cs f)
    (hi : ∀ n : Int64, ¬ Decimal cs n.toInt) : number? cs = some (.float f) := by
  rw [number?, if_pos h.startsNumber, parseInt64_eq_none hi]
  simp [(parseFloat_eq_some_iff h.startsNumber).mpr h]

theorem number?_none {cs : List Char} (hi : ∀ n : Int64, ¬ Decimal cs n.toInt)
    (hf : ∀ f, ¬ FloatLiteral cs f) : number? cs = none := by
  unfold number?
  split
  · rename_i hn
    rw [parseInt64_eq_none hi]
    have hnone : Number.parseFloat cs = none :=
      Option.eq_none_iff_forall_ne_some.mpr fun f h => hf f ((parseFloat_eq_some_iff hn).mp h)
    simp [hnone]
  · rfl

theorem ofList_ne {cs ds : List Char} (h : cs ≠ ds) : String.ofList cs ≠ String.ofList ds :=
  fun he => h (by simpa using congrArg String.toList he)

theorem ofSpelling_of_denotes {cs : List Char} {l : Leaf} (h : Denotes cs l) :
    Leaf.ofSpelling cs = l := by
  cases h with
  | nil => rfl
  | true => rfl
  | false => rfl
  | int h => rw [Leaf.ofSpelling, number?_int h]
  | float h hi => rw [Leaf.ofSpelling, number?_float h hi]
  | symbol hi hf hn ht hfa =>
    rw [Leaf.ofSpelling, number?_none hi hf]
    dsimp only
    rw [if_neg (ofList_ne hn), if_neg (ofList_ne ht), if_neg (ofList_ne hfa)]

theorem exists_denotes (cs : List Char) : ∃ l, Denotes cs l := by
  -- Integers come before floats, and a symbol is what remains.
  by_cases hi : ∃ n : Int64, Decimal cs n.toInt
  · obtain ⟨n, h⟩ := hi
    exact ⟨_, .int h⟩
  by_cases hf : ∃ f, FloatLiteral cs f
  · obtain ⟨f, h⟩ := hf
    exact ⟨_, .float h fun n hn => hi ⟨n, hn⟩⟩
  by_cases hn : cs = ['n', 'i', 'l']
  · subst hn
    exact ⟨_, .nil⟩
  by_cases ht : cs = ['t', 'r', 'u', 'e']
  · subst ht
    exact ⟨_, .true⟩
  by_cases hfa : cs = ['f', 'a', 'l', 's', 'e']
  · subst hfa
    exact ⟨_, .false⟩
  exact ⟨_, .symbol (fun n h => hi ⟨n, h⟩) (fun f h => hf ⟨f, h⟩) hn ht hfa⟩

theorem ofSpelling_eq_iff {cs : List Char} {l : Leaf} :
    Leaf.ofSpelling cs = l ↔ Denotes cs l := by
  constructor
  · rintro rfl
    obtain ⟨l, h⟩ := exists_denotes cs
    exact ofSpelling_of_denotes h ▸ h
  · exact ofSpelling_of_denotes

end LayeredSite.Spelling
