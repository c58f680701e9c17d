import LayeredSite.Proofs.Evaluation.Application
import Mathlib.Algebra.Order.Ring.Rat
import Mathlib.Algebra.Order.Field.Basic
import Mathlib.Tactic.FieldSimp
import Mathlib.Tactic.Linarith
import Mathlib.Tactic.NormNum

namespace LayeredSite

open Call

variable {p : Position} {m n : Num} {f : Builtin} {a b : Int64} {bs : List Int64} {vs : List Value}

def Number.Fits (i : Int) : Prop := -2 ^ 63 ≤ i ∧ i < 2 ^ 63

namespace Number

instance : DecidablePred Fits := fun i => inferInstanceAs (Decidable (-2 ^ 63 ≤ i ∧ i < 2 ^ 63))

theorem fits_toInt (n : Int64) : Fits n.toInt := ⟨n.le_toInt, n.toInt_lt⟩

theorem int64?_isSome_iff {i : Int} : (int64? i).isSome ↔ Fits i := by
  have hmin : Int64.minValue.toInt = -2 ^ 63 := by decide
  have hmax : Int64.maxValue.toInt = 2 ^ 63 - 1 := by decide
  rw [int64?, Fits, hmin, hmax]
  split <;> simp <;> omega

end Number

open Number (Fits)

namespace Num

theorem exact_of_fits {i : Int} (h : Fits i) :
    ∃ n : Int64, n.toInt = i ∧ exact i = .ok (int n) := by
  obtain ⟨n, hn⟩ := Option.isSome_iff_exists.mp (Number.int64?_isSome_iff.mpr h)
  exact ⟨n, Number.int64?_toInt hn, by rw [exact, hn]⟩

theorem exact_of_not_fits {i : Int} (h : ¬ Fits i) : exact i = .error .overflow := by
  rw [exact, Option.not_isSome_iff_eq_none.mp (mt Number.int64?_isSome_iff.mp h)]

end Num

namespace Call

def numberOf (v : Value) : Except EvalFault Num :=
  match Num.ofValue? v with
  | some n => .ok n
  | none => .error (.notNumber v.kind)

/-- Numbers combined from the left, without the place where that is asked for. -/
def folded (op : Num → Num → Except EvalFault Num) (acc : Num) :
    List Value → Except EvalFault Num
  | [] => .ok acc
  | v :: rest => do folded op (← op acc (← numberOf v)) rest

def answer (f : Builtin) (vs : List Value) : Except EvalFault Num :=
  match f, vs with
  | .add, vs => folded Num.add (.int 0) vs
  | .mul, vs => folded Num.mul (.int 1) vs
  | .sub, [v] => numberOf v >>= Num.sub (.int 0)
  | .sub, v :: w :: rest => numberOf v >>= fun n => folded Num.sub n (w :: rest)
  | .div, v :: w :: rest => numberOf v >>= fun n => folded Num.div n (w :: rest)
  | f, _ => .error (.usage f)

def answered (p : Position) (r : Except EvalFault Num) : Eval Value :=
  Num.toValue <$> arithmetic p r

theorem number_eq (p : Position) (v : Value) : number p v = arithmetic p (numberOf v) := by
  rw [number, numberOf]
  cases Num.ofValue? v <;> rfl

theorem arithmetic_bind (p : Position) (r : Except EvalFault Num)
    (k : Num → Except EvalFault Num) :
    arithmetic p (r >>= k) = arithmetic p r >>= fun n => arithmetic p (k n) := by
  cases r <;> rfl

theorem fold_eq (p : Position) (op : Num → Num → Except EvalFault Num) (acc : Num)
    (vs : List Value) : fold p op acc vs = arithmetic p (folded op acc vs) := by
  induction vs generalizing acc with
  | nil => rfl
  | cons v vs ih =>
    rw [fold, folded, number_eq, arithmetic_bind]
    simp only [arithmetic_bind, ih]

theorem apply_eq_answered (h : f ∈ [Builtin.add, .mul, .sub, .div]) (vs : List Value)
    (p : Position) : apply f vs p = answered p (answer f vs) := by
  simp only [List.mem_cons, List.not_mem_nil, or_false] at h
  rcases h with rfl | rfl | rfl | rfl
  · rw [apply, fold_eq]
    rfl
  · rw [apply, fold_eq]
    rfl
  · rcases vs with _ | ⟨v, _ | ⟨w, rest⟩⟩
    · rfl
    · rw [apply, number_eq, answered, answer, arithmetic_bind, map_bind]
    · simp only [apply, number_eq, answered, answer, arithmetic_bind, map_bind, fold_eq]
  · rcases vs with _ | ⟨v, _ | ⟨w, rest⟩⟩
    · rfl
    · rfl
    · simp only [apply, number_eq, answered, answer, arithmetic_bind, map_bind, fold_eq]

@[simp]
theorem answered_int (p : Position) (n : Int64) : answered p (.ok (.int n)) = pure (.int n) := rfl

@[simp]
theorem answered_float (p : Position) (x : Float) :
    answered p (.ok (.float x)) = pure (.float x) := rfl

@[simp]
theorem answered_error (p : Position) (e : EvalFault) :
    answered p (.error e) = Eval.fail p e := rfl

/-- An integer is given only where the answer is this integer. -/
theorem answered_eq_pure_int {r : Except EvalFault Num} {n : Int64} :
    answered p r = pure (.int n) ↔ r = .ok (.int n) := by
  refine ⟨fun h => ?_, fun h => by rw [h, answered_int]⟩
  have hrun : answered p r [] [] = some ((.ok (.int n), []), []) := by rw [h]; rfl
  rcases r with e | n' | x
  · cases hrun
  · cases hrun
    rfl
  · cases hrun

theorem numberOf_int_bind (n : Int64) (k : Num → Except EvalFault Num) :
    numberOf (.int n) >>= k = k (.int n) := rfl

theorem answered_ne_pure_int {r : Except EvalFault Num} {n : Int64} (h : r ≠ .ok (.int n)) :
    answered p r ≠ pure (.int n) := mt answered_eq_pure_int.mp h

theorem folded_cons_int (op : Num → Num → Except EvalFault Num) (acc : Num) (n : Int64)
    (ns : List Int64) :
    folded op acc ((n :: ns).map .int) =
      op acc (.int n) >>= fun acc' => folded op acc' (ns.map .int) := rfl

end Call

/-- The computation gives the exact result if the partial results are all integers of 64 bits, and
fails where one of them is not. -/
structure ExactOrRefused (p : Position) (partials : List Int) (result : Int) (x : Eval Value) :
    Prop where
  exact : (∀ i ∈ partials, Fits i) → ∃ n : Int64, n.toInt = result ∧ x = pure (.int n)
  refused : (∃ i ∈ partials, ¬ Fits i) → x = Eval.fail p .overflow

/-- A checked operation folded over integers is the unbounded one, while that has 64 bits. -/
theorem exactOrRefused_folded {op : Num → Num → Except EvalFault Num} {g : Int → Int → Int}
    (hop : ∀ a b : Int64, op (.int a) (.int b) = Num.exact (g a.toInt b.toInt)) (p : Position)
    (acc : Int64) (ns : List Int64) :
    ExactOrRefused p ((ns.map Int64.toInt).scanl g acc.toInt)
      ((ns.map Int64.toInt).foldl g acc.toInt)
      (answered p (folded op (.int acc) (ns.map .int))) := by
  induction ns generalizing acc with
  | nil => exact ⟨fun _ => ⟨acc, rfl, rfl⟩, by simp [Number.fits_toInt]⟩
  | cons n ns ih =>
    rw [folded_cons_int, hop, List.map_cons, List.scanl_cons, List.foldl_cons]
    by_cases hfits : Fits (g acc.toInt n.toInt)
    · obtain ⟨acc', hacc, hexact⟩ := Num.exact_of_fits hfits
      rw [hexact, ← hacc]
      refine ⟨fun h => (ih acc').exact fun i hi => h i (List.mem_cons_of_mem _ hi), ?_⟩
      rintro ⟨i, hi, hnot⟩
      rcases List.mem_cons.mp hi with rfl | hi
      · exact absurd (Number.fits_toInt acc) hnot
      · exact (ih acc').refused ⟨i, hi, hnot⟩
    · rw [Num.exact_of_not_fits hfits]
      refine ⟨fun h => absurd (h _ (List.mem_cons_of_mem _ ?_)) hfits, fun _ => rfl⟩
      cases ns <;> simp

theorem foldl_sub (a : Int) (bs : List Int) : bs.foldl (· - ·) a = a - bs.sum := by
  induction bs generalizing a with
  | nil => simp
  | cons b bs ih =>
    rw [List.foldl_cons, ih, List.sum_cons]
    omega

theorem callNamed_ints (f : Builtin) {name : String} (hname : Builtin.ofName? name = some f)
    (hf : f ∈ [Builtin.add, .mul, .sub, .div]) (ns : List Int64) (p : Position) :
    callNamed name (ns.map .int) p = answered p (answer f (ns.map .int)) := by
  have hresolved : Eval.resolveAll (ns.map .int) p = pure (ns.map .int) :=
    Eval.resolveAll_of_kind (by simp [Value.kind]) p
  rw [callNamed, hresolved, pure_bind, hname]
  exact apply_eq_answered hf _ p

theorem exactOrRefused_add (ns : List Int64) (p : Position) :
    ExactOrRefused p ((ns.map Int64.toInt).scanl (· + ·) 0) (ns.map Int64.toInt).sum
      (callNamed "+" (ns.map .int) p) := by
  rw [callNamed_ints .add rfl (by decide), List.sum_eq_foldl]
  exact exactOrRefused_folded (fun _ _ => rfl) p 0 ns

theorem exactOrRefused_mul (ns : List Int64) (p : Position) :
    ExactOrRefused p ((ns.map Int64.toInt).scanl (· * ·) 1) (ns.map Int64.toInt).prod
      (callNamed "*" (ns.map .int) p) := by
  rw [callNamed_ints .mul rfl (by decide), List.prod_eq_foldl]
  exact exactOrRefused_folded (fun _ _ => rfl) p 1 ns

theorem exactOrRefused_neg (n : Int64) (p : Position) :
    ExactOrRefused p [-n.toInt] (-n.toInt) (callNamed "-" [.int n] p) := by
  have hcall : callNamed "-" [.int n] p = answered p (Num.exact (-n.toInt)) := by
    rw [← Int.zero_sub]
    exact callNamed_ints .sub rfl (by decide) [n] p
  rw [hcall]
  refine ⟨fun h => ?_, ?_⟩
  · obtain ⟨m, hm, hexact⟩ := Num.exact_of_fits (h _ (List.mem_singleton_self _))
    exact ⟨m, hm, by rw [hexact, answered_int]⟩
  · rintro ⟨i, hi, hnot⟩
    obtain rfl := List.mem_singleton.mp hi
    rw [Num.exact_of_not_fits hnot, answered_error]

theorem exactOrRefused_sub (a b : Int64) (ns : List Int64) (p : Position) :
    ExactOrRefused p (((b :: ns).map Int64.toInt).scanl (· - ·) a.toInt)
      (a.toInt - ((b :: ns).map Int64.toInt).sum)
      (callNamed "-" ((a :: b :: ns).map .int) p) := by
  have hanswer : answer .sub ((a :: b :: ns).map .int) =
      folded Num.sub (.int a) ((b :: ns).map .int) := by
    rw [List.map_cons, List.map_cons, answer, numberOf_int_bind]
  rw [callNamed_ints .sub rfl (by decide), hanswer, ← foldl_sub]
  exact exactOrRefused_folded (fun _ _ => rfl) p a (b :: ns)

/-- The quotients of division from the left, the dividend first. Behind a divisor 0 they are 0. -/
def quotients (q : ℚ) (bs : List Int64) : List ℚ := bs.scanl (fun q b => q / b.toInt) q

def Whole (q : ℚ) : Prop := ∃ n : Int64, (n.toInt : ℚ) = q

theorem not_whole_pow : ¬ Whole (2 ^ 63) := by
  rintro ⟨n, hn⟩
  have hn : n.toInt = 2 ^ 63 := by exact_mod_cast hn
  exact absurd hn n.toInt_lt.ne

theorem pow_notMem_quotients {q : ℚ} (h : |q| < 2 ^ 63) (bs : List Int64) :
    2 ^ 63 ∉ quotients q bs := by
  induction bs generalizing q with
  | nil =>
    rw [quotients, List.scanl_nil, List.mem_singleton]
    rintro rfl
    norm_num at h
  | cons b bs ih =>
    rw [quotients, List.scanl_cons, List.mem_cons, not_or]
    constructor
    · rintro rfl
      norm_num at h
    · refine ih (lt_of_le_of_lt ?_ h)
      rw [abs_div]
      by_cases hb : b.toInt = 0
      · simp [hb]
      · have hone : (1 : ℚ) ≤ |(b.toInt : ℚ)| := by exact_mod_cast Int.one_le_abs hb
        exact div_le_self (abs_nonneg q) hone

/-- Behind a quotient that is not exact only a divisor 0 is refused. -/
theorem folded_div_float (x : Float) (bs : List Int64) :
    (0 ∈ bs ∧ folded Num.div (.float x) (bs.map .int) = .error .divisionByZero) ∨
      0 ∉ bs ∧ ∃ y, folded Num.div (.float x) (bs.map .int) = .ok (.float y) := by
  induction bs generalizing x with
  | nil => exact .inr ⟨List.not_mem_nil, x, rfl⟩
  | cons b bs ih =>
    rw [folded_cons_int, Num.div]
    by_cases hb : b = 0
    · rw [if_pos hb]
      exact .inl ⟨hb ▸ List.mem_cons_self, rfl⟩
    · rw [if_neg hb]
      rcases ih (x / b.toFloat) with ⟨hmem, hrun⟩ | ⟨hmem, y, hrun⟩
      · exact .inl ⟨List.mem_cons_of_mem b hmem, hrun⟩
      · exact .inr ⟨by simp [Ne.symm hb, hmem], y, hrun⟩

inductive Divided (a : Int64) (bs : List Int64) : Except EvalFault Num → Prop
  | exact {q : Int64} : 0 ∉ bs → (∀ r ∈ quotients a.toInt bs, Whole r) →
      a.toInt = q.toInt * (bs.map Int64.toInt).prod → Divided a bs (.ok (.int q))
  | overflow : 2 ^ 63 ∈ quotients a.toInt bs → Divided a bs (.error .overflow)
  | zero : 0 ∈ bs → 2 ^ 63 ∉ quotients a.toInt bs → Divided a bs (.error .divisionByZero)
  | inexact {x : Float} : 0 ∉ bs → 2 ^ 63 ∉ quotients a.toInt bs →
      (∃ r ∈ quotients a.toInt bs, ¬ Whole r) → Divided a bs (.ok (.float x))

theorem quotients_cons (a b : Int64) (bs : List Int64) :
    quotients a.toInt (b :: bs) = (a.toInt : ℚ) :: quotients (a.toInt / b.toInt) bs :=
  List.scanl_cons

theorem toInt_ne_pow (a : Int64) : (2 ^ 63 : ℚ) ≠ a.toInt := by
  intro h
  have hpow : (2 ^ 63 : Int) = a.toInt := by exact_mod_cast h
  exact absurd hpow.symm a.toInt_lt.ne

/-- Division by the first divisor is exact with quotient `n`, and the others divide `n`. -/
theorem Divided.cons {a b n : Int64} {bs : List Int64} {r : Except EvalFault Num}
    (hdiv : n.toInt * b.toInt = a.toInt) (hb : b ≠ 0) (h : Divided n bs r) :
    Divided a (b :: bs) r := by
  have hb' : (b.toInt : ℚ) ≠ 0 := by
    exact_mod_cast fun hzero => hb (Int64.toInt_inj.mp hzero)
  have hquotient : (a.toInt : ℚ) / b.toInt = n.toInt := by
    rw [div_eq_iff hb']
    exact_mod_cast hdiv.symm
  have hquotients : quotients a.toInt (b :: bs) = (a.toInt : ℚ) :: quotients n.toInt bs := by
    rw [quotients_cons, hquotient]
  have hpow : (2 ^ 63 : ℚ) ∈ quotients a.toInt (b :: bs) ↔ 2 ^ 63 ∈ quotients n.toInt bs := by
    rw [hquotients, List.mem_cons, or_iff_right (toInt_ne_pow a)]
  have hzero : 0 ∈ b :: bs ↔ 0 ∈ bs := by
    rw [List.mem_cons, or_iff_right (Ne.symm hb)]
  cases h with
  | @exact q hbs hwhole hproduct =>
    refine .exact (mt hzero.mp hbs) ?_ ?_
    · rw [hquotients]
      exact List.forall_mem_cons.mpr ⟨⟨a, rfl⟩, hwhole⟩
    · rw [List.map_cons, List.prod_cons, mul_left_comm, ← hproduct, mul_comm, hdiv]
  | overflow hmem => exact .overflow (hpow.mpr hmem)
  | zero hbs hmem => exact .zero (hzero.mpr hbs) (mt hpow.mp hmem)
  | inexact hbs hmem hwhole =>
    refine .inexact (mt hzero.mp hbs) (mt hpow.mp hmem) ?_
    obtain ⟨r, hr, hnot⟩ := hwhole
    exact ⟨r, hquotients ▸ List.mem_cons_of_mem _ hr, hnot⟩

/-- The one exact quotient of integers of 64 bits that has more than 64. -/
theorem quotient_eq_pow {q : Int} (hdiv : q * b.toInt = a.toInt) (hb : b.toInt ≠ 0)
    (hq : ¬ Fits q) : q = 2 ^ 63 := by
  have hle : |q| ≤ |a.toInt| := by
    rw [← hdiv, abs_mul]
    exact le_mul_of_one_le_right (abs_nonneg q) (Int.one_le_abs hb)
  have hfits : Fits a.toInt := Number.fits_toInt a
  unfold Fits at hq hfits
  rw [abs_le] at hle
  -- The quotient is no larger than the dividend, so only one end of the range can be left.
  rcases abs_cases a.toInt with ⟨habs, _⟩ | ⟨habs, _⟩ <;> omega

/-- A divisor that leaves a remainder is not 1 or -1. -/
theorem abs_inexact_lt (hdvd : ¬ b.toInt ∣ a.toInt) (hb : b.toInt ≠ 0) :
    |(a.toInt : ℚ) / b.toInt| < 2 ^ 63 := by
  have hdivisor : 1 < |b.toInt| := by
    refine lt_of_le_of_ne (Int.one_le_abs hb) fun hone => hdvd ?_
    exact (abs_dvd _ _).mp (hone ▸ one_dvd _)
  have hdividend : |a.toInt| ≤ 2 ^ 63 := by
    have hfits : Fits a.toInt := Number.fits_toInt a
    exact abs_le.mpr ⟨hfits.1, hfits.2.le⟩
  have hpos : (0 : ℚ) < |(b.toInt : ℚ)| := by exact_mod_cast abs_pos.mpr hb
  rw [abs_div, div_lt_iff₀ hpos]
  have hlt : |a.toInt| < 2 ^ 63 * |b.toInt| := by omega
  exact_mod_cast hlt

theorem not_whole_div (hdvd : ¬ b.toInt ∣ a.toInt) (hb : b.toInt ≠ 0) :
    ¬ Whole ((a.toInt : ℚ) / b.toInt) := by
  have hbq : (b.toInt : ℚ) ≠ 0 := by exact_mod_cast hb
  rintro ⟨n, hn⟩
  rw [eq_div_iff hbq] at hn
  have hdiv : n.toInt * b.toInt = a.toInt := by exact_mod_cast hn
  exact hdvd ⟨n.toInt, by rw [← hdiv, mul_comm]⟩

theorem div_mem_quotients (a b : Int64) (bs : List Int64) :
    (a.toInt : ℚ) / b.toInt ∈ quotients a.toInt (b :: bs) := by
  rw [quotients_cons]
  refine List.mem_cons_of_mem _ ?_
  cases bs <;> simp [quotients]

theorem pow_notMem_quotients_cons (h : |(a.toInt : ℚ) / b.toInt| < 2 ^ 63) :
    2 ^ 63 ∉ quotients a.toInt (b :: bs) := by
  rw [quotients_cons, List.mem_cons, not_or]
  exact ⟨toInt_ne_pow a, pow_notMem_quotients h bs⟩

theorem Divided.by_zero (a : Int64) (bs : List Int64) :
    Divided a (0 :: bs) (.error .divisionByZero) :=
  .zero List.mem_cons_self (pow_notMem_quotients_cons (by simp))

theorem Divided.beyond {q : Int} (hdiv : q * b.toInt = a.toInt) (hb : b.toInt ≠ 0)
    (hq : ¬ Fits q) : Divided a (b :: bs) (.error .overflow) := by
  have hpow : (a.toInt : ℚ) / b.toInt = 2 ^ 63 := by
    rw [quotient_eq_pow hdiv hb hq] at hdiv
    rw [div_eq_iff (by exact_mod_cast hb)]
    exact_mod_cast hdiv.symm
  exact .overflow (hpow ▸ div_mem_quotients a b bs)

theorem Divided.remainder (hdvd : ¬ b.toInt ∣ a.toInt) (hb : b ≠ 0) (x : Float) :
    Divided a (b :: bs) (folded Num.div (.float x) (bs.map .int)) := by
  have hb' : b.toInt ≠ 0 := fun hzero => hb (Int64.toInt_inj.mp hzero)
  have hpow : 2 ^ 63 ∉ quotients a.toInt (b :: bs) :=
    pow_notMem_quotients_cons (abs_inexact_lt hdvd hb')
  rcases folded_div_float x bs with ⟨hbs, hrun⟩ | ⟨hbs, y, hrun⟩
  · rw [hrun]
    exact .zero (List.mem_cons_of_mem b hbs) hpow
  · rw [hrun]
    exact .inexact (by simp [Ne.symm hb, hbs]) hpow
      ⟨_, div_mem_quotients a b bs, not_whole_div hdvd hb'⟩

/-- As long as the quotients are exact the accumulator stays an integer. The first one that is not
decides how the division ends. -/
theorem divided (a : Int64) (bs : List Int64) :
    Divided a bs (folded Num.div (.int a) (bs.map .int)) := by
  induction bs generalizing a with
  | nil => exact .exact List.not_mem_nil (by simp [quotients, Whole]) (by simp)
  | cons b bs ih =>
    rw [folded_cons_int, Num.div]
    by_cases hb : b = 0
    · subst hb
      rw [if_pos rfl]
      exact .by_zero a bs
    rw [if_neg hb]
    by_cases hdvd : b.toInt ∣ a.toInt
    · have hdiv : a.toInt.tdiv b.toInt * b.toInt = a.toInt := Int.tdiv_mul_cancel hdvd
      rw [if_pos (Int.dvd_iff_tmod_eq_zero.mp hdvd)]
      by_cases hfits : Fits (a.toInt.tdiv b.toInt)
      · obtain ⟨n, hn, hok⟩ := Num.exact_of_fits hfits
        rw [hok]
        exact (ih n).cons (hn ▸ hdiv) hb
      · rw [Num.exact_of_not_fits hfits]
        exact .beyond hdiv (fun hzero => hb (Int64.toInt_inj.mp hzero)) hfits
    · rw [if_neg (mt Int.dvd_iff_tmod_eq_zero.mpr hdvd)]
      exact .remainder hdvd hb _

/-- What `x`, the division of `a` by the integers `bs` from the left, gives at `p`. -/
structure Quotient (p : Position) (a : Int64) (bs : List Int64) (x : Eval Value) : Prop where
  int_iff : (∃ q : Int64, x = pure (.int q)) ↔ 0 ∉ bs ∧ ∀ r ∈ quotients a.toInt bs, Whole r
  product : ∀ q : Int64, x = pure (.int q) → a.toInt = q.toInt * (bs.map Int64.toInt).prod
  zero : 0 ∈ bs → x = Eval.fail p .divisionByZero ∨ x = Eval.fail p .overflow
  overflow : 2 ^ 63 ∈ quotients a.toInt bs → x = Eval.fail p .overflow
  float : 0 ∉ bs → 2 ^ 63 ∉ quotients a.toInt bs → (∃ r ∈ quotients a.toInt bs, ¬ Whole r) →
    ∃ y : Float, x = pure (.float y)

theorem Divided.quotient {r : Except EvalFault Num} (h : Divided a bs r) (p : Position) :
    Quotient p a bs (answered p r) := by
  have hpow : 2 ^ 63 ∈ quotients a.toInt bs → ¬ ∀ r ∈ quotients a.toInt bs, Whole r :=
    fun hmem hwhole => not_whole_pow (hwhole _ hmem)
  cases h with
  | @exact q hbs hwhole hproduct =>
    refine ⟨⟨fun _ => ⟨hbs, hwhole⟩, fun _ => ⟨q, rfl⟩⟩, fun q' hq' => ?_,
      fun hmem => absurd hmem hbs, fun hmem => absurd hwhole (hpow hmem), ?_⟩
    · cases answered_eq_pure_int.mp hq'
      exact hproduct
    · rintro - - ⟨r, hr, hnot⟩
      exact absurd (hwhole r hr) hnot
  | overflow hmem =>
    have hint (q : Int64) : answered p (.error .overflow) ≠ pure (.int q) :=
      answered_ne_pure_int nofun
    exact ⟨⟨fun ⟨q, hq⟩ => absurd hq (hint q), fun h => absurd h.2 (hpow hmem)⟩,
      fun q hq => absurd hq (hint q), fun _ => .inr rfl, fun _ => rfl,
      fun _ hnot => absurd hmem hnot⟩
  | zero hbs hmem =>
    have hint (q : Int64) : answered p (.error .divisionByZero) ≠ pure (.int q) :=
      answered_ne_pure_int nofun
    exact ⟨⟨fun ⟨q, hq⟩ => absurd hq (hint q), fun h => absurd hbs h.1⟩,
      fun q hq => absurd hq (hint q), fun _ => .inl rfl, fun h => absurd h hmem,
      fun hnot => absurd hbs hnot⟩
  | @inexact y hbs hmem hnot =>
    have hint (q : Int64) : answered p (.ok (.float y)) ≠ pure (.int q) :=
      answered_ne_pure_int nofun
    obtain ⟨r, hr, hnot⟩ := hnot
    exact ⟨⟨fun ⟨q, hq⟩ => absurd hq (hint q), fun h => absurd (h.2 r hr) hnot⟩,
      fun q hq => absurd hq (hint q), fun h => absurd h hbs, fun h => absurd h hmem,
      fun _ _ _ => ⟨y, rfl⟩⟩

theorem quotient_div (a b : Int64) (ns : List Int64) (p : Position) :
    Quotient p a (b :: ns) (callNamed "/" ((a :: b :: ns).map .int) p) := by
  have hanswer : answer .div ((a :: b :: ns).map .int) =
      folded Num.div (.int a) ((b :: ns).map .int) := by
    rw [List.map_cons, List.map_cons, answer, numberOf_int_bind]
  rw [callNamed_ints .div rfl (by decide), hanswer]
  exact (divided a (b :: ns)).quotient p

inductive Answers (f : Builtin) (vs : List Value) : Except EvalFault Num → Prop
  /-- An integer, and all arguments are integers. -/
  | int {ns : List Int64} {n : Int64} : vs = ns.map .int → Answers f vs (.ok (.int n))
  | float {x : Float} : Answers f vs (.ok (.float x))
  | overflow : Answers f vs (.error .overflow)
  | divisionByZero : Answers f vs (.error .divisionByZero)
  | notNumber {v : Value} : v ∈ vs → Num.ofValue? v = none →
      Answers f vs (.error (.notNumber v.kind))
  | usage : Answers f vs (.error (.usage f))

/-- An operation on two numbers that gives an integer only from integers. -/
inductive Operated (m n : Num) : Except EvalFault Num → Prop
  | int {a b c : Int64} : m = .int a → n = .int b → Operated m n (.ok (.int c))
  | float {x : Float} : Operated m n (.ok (.float x))
  | overflow : Operated m n (.error .overflow)
  | divisionByZero : Operated m n (.error .divisionByZero)

theorem Operated.exact (a b : Int64) (i : Int) : Operated (.int a) (.int b) (Num.exact i) := by
  by_cases hfits : Fits i
  · obtain ⟨n, -, hok⟩ := Num.exact_of_fits hfits
    exact hok ▸ .int rfl rfl
  · exact Num.exact_of_not_fits hfits ▸ .overflow

theorem operated_add (m n : Num) : Operated m n (Num.add m n) := by
  rcases m with a | _ <;> rcases n with b | _
  · exact .exact a b _
  all_goals exact .float

theorem operated_mul (m n : Num) : Operated m n (Num.mul m n) := by
  rcases m with a | _ <;> rcases n with b | _
  · exact .exact a b _
  all_goals exact .float

theorem operated_sub (m n : Num) : Operated m n (Num.sub m n) := by
  rcases m with a | _ <;> rcases n with b | _
  · exact .exact a b _
  all_goals exact .float

theorem operated_div (m n : Num) : Operated m n (Num.div m n) := by
  rcases n with b | y
  · by_cases hb : b = 0
    · subst hb
      exact .divisionByZero
    · rcases m with a | x
      · rw [Num.div, if_neg hb]
        split
        · exact .exact a b _
        · exact .float
      · rw [Num.div, if_neg hb]
        exact .float
  · exact .float

theorem numberOf_cases (v : Value) :
    (∃ n : Num, v = n.toValue ∧ numberOf v = .ok n) ∨
      Num.ofValue? v = none ∧ numberOf v = .error (.notNumber v.kind) := by
  cases v with
  | int a => exact .inl ⟨.int a, rfl, rfl⟩
  | float x => exact .inl ⟨.float x, rfl, rfl⟩
  | _ => exact .inr ⟨rfl, rfl⟩

/-- The numbers of an operation in the place of its result. -/
theorem Operated.answers {k : Num} {r : Except EvalFault Num} (h : Operated m n (.ok k))
    (hr : Answers f (k.toValue :: vs) r) : Answers f (m.toValue :: n.toValue :: vs) r := by
  cases hr with
  | @int ns c hints =>
    rcases ns with _ | ⟨d, ns⟩
    · cases hints
    · obtain ⟨hd, rfl⟩ := List.cons.inj hints
      cases h with
      | @int a b _ hm hn =>
        subst hm hn
        exact @Answers.int _ _ (a :: b :: ns) _ rfl
      | float => cases hd
  | float => exact .float
  | overflow => exact .overflow
  | divisionByZero => exact .divisionByZero
  | notNumber hmem hnone =>
    rcases List.mem_cons.mp hmem with rfl | hmem
    · cases k <;> cases hnone
    · exact .notNumber (List.mem_cons_of_mem _ (List.mem_cons_of_mem _ hmem)) hnone
  | usage => exact .usage

/-- An integer is folded only from integers, the accumulator among them. -/
theorem answers_folded {op : Num → Num → Except EvalFault Num}
    (hop : ∀ m n, Operated m n (op m n)) (f : Builtin) (acc : Num) (vs : List Value) :
    Answers f (acc.toValue :: vs) (folded op acc vs) := by
  induction vs generalizing acc with
  | nil =>
    cases acc with
    | int a => exact @Answers.int _ _ [a] _ rfl
    | float x => exact .float
  | cons v vs ih =>
    rw [folded]
    rcases numberOf_cases v with ⟨n, rfl, hnumber⟩ | ⟨hnone, hnumber⟩
    · have hoperated : Operated acc n (op acc n) := hop acc n
      rw [hnumber]
      change Answers f (acc.toValue :: n.toValue :: vs) (op acc n >>= fun k => folded op k vs)
      generalize op acc n = r at hoperated ⊢
      rcases r with e | k
      · cases hoperated with
        | overflow => exact .overflow
        | divisionByZero => exact .divisionByZero
      · exact hoperated.answers (ih k)
    · rw [hnumber]
      exact .notNumber (List.mem_cons_of_mem _ List.mem_cons_self) hnone

theorem Answers.of_int_cons {r : Except EvalFault Num} (h : Answers f (.int a :: vs) r) :
    Answers f vs r := by
  cases h with
  | @int ns n hints =>
    rcases ns with _ | ⟨b, ns⟩
    · cases hints
    · exact .int (List.cons.inj hints).2
  | float => exact .float
  | overflow => exact .overflow
  | divisionByZero => exact .divisionByZero
  | notNumber hmem hnone =>
    rcases List.mem_cons.mp hmem with rfl | hmem
    · cases hnone
    · exact .notNumber hmem hnone
  | usage => exact .usage

theorem answers_numberOf_bind {op : Num → Num → Except EvalFault Num}
    (hop : ∀ m n, Operated m n (op m n)) (f : Builtin) (v : Value) (vs : List Value) :
    Answers f (v :: vs) (numberOf v >>= fun n => folded op n vs) := by
  rcases numberOf_cases v with ⟨n, rfl, hnumber⟩ | ⟨hnone, hnumber⟩
  · rw [hnumber]
    exact answers_folded hop f n vs
  · rw [hnumber]
    exact .notNumber List.mem_cons_self hnone

theorem answers_answer (h : f ∈ [Builtin.add, .mul, .sub, .div]) (vs : List Value) :
    Answers f vs (answer f vs) := by
  simp only [List.mem_cons, List.not_mem_nil, or_false] at h
  rcases h with rfl | rfl | rfl | rfl
  · exact (answers_folded operated_add .add (.int 0) vs).of_int_cons
  · exact (answers_folded operated_mul .mul (.int 1) vs).of_int_cons
  · rcases vs with _ | ⟨v, _ | ⟨w, rest⟩⟩
    · exact .usage
    · have hanswer : answer .sub [v] = folded Num.sub (.int 0) [v] := by
        simp only [answer, folded]
        cases numberOf v with
        | error e => rfl
        | ok n => exact (bind_pure (Num.sub (.int 0) n)).symm
      rw [hanswer]
      exact (answers_folded operated_sub .sub (.int 0) [v]).of_int_cons
    · exact answers_numberOf_bind operated_sub .sub v (w :: rest)
  · rcases vs with _ | ⟨v, _ | ⟨w, rest⟩⟩
    · exact .usage
    · exact .usage
    · exact answers_numberOf_bind operated_div .div v (w :: rest)

/-- Sums, products and differences of integers are exact or refused, and so is a negation. A
division of integers is an integer if it has no divisor 0 and every quotient on the way is one; it
fails where a divisor is 0 or a quotient is one above the largest integer, and gives a float in all
other cases. Of any arguments the four functions answer with an integer, if all are integers, or
with a float, or fail. -/
theorem integer_arithmetic (p : Position) :
    (∀ ns : List Int64,
      ExactOrRefused p ((ns.map Int64.toInt).scanl (· + ·) 0) (ns.map Int64.toInt).sum
        (callNamed "+" (ns.map .int) p)) ∧
    (∀ ns : List Int64,
      ExactOrRefused p ((ns.map Int64.toInt).scanl (· * ·) 1) (ns.map Int64.toInt).prod
        (callNamed "*" (ns.map .int) p)) ∧
    (∀ n : Int64, ExactOrRefused p [-n.toInt] (-n.toInt) (callNamed "-" [.int n] p)) ∧
    (∀ (a b : Int64) (ns : List Int64),
      ExactOrRefused p (((b :: ns).map Int64.toInt).scanl (· - ·) a.toInt)
        (a.toInt - ((b :: ns).map Int64.toInt).sum) (callNamed "-" ((a :: b :: ns).map .int) p)) ∧
    (∀ (a b : Int64) (ns : List Int64),
      Quotient p a (b :: ns) (callNamed "/" ((a :: b :: ns).map .int) p)) ∧
    (∀ function ∈ [("+", Builtin.add), ("*", .mul), ("-", .sub), ("/", .div)],
      (∀ args, callNamed function.1 args p =
        Eval.resolveAll args p >>= fun vs => answered p (answer function.2 vs)) ∧
      ∀ vs, Answers function.2 vs (answer function.2 vs)) ∧
    EvalFault.overflow.message = "integer overflow" ∧
    EvalFault.divisionByZero.message = "division by zero" := by
  refine ⟨fun ns => exactOrRefused_add ns p, fun ns => exactOrRefused_mul ns p,
    fun n => exactOrRefused_neg n p, fun a b ns => exactOrRefused_sub a b ns p,
    fun a b ns => quotient_div a b ns p, ?_, rfl, rfl⟩
  rintro ⟨name, f⟩ hmem
  have hname : Builtin.ofName? name = some f ∧ f ∈ [Builtin.add, .mul, .sub, .div] := by
    simp only [List.mem_cons, List.not_mem_nil, or_false, Prod.mk.injEq] at hmem
    rcases hmem with ⟨rfl, rfl⟩ | ⟨rfl, rfl⟩ | ⟨rfl, rfl⟩ | ⟨rfl, rfl⟩ <;> exact ⟨rfl, by decide⟩
  refine ⟨fun args => ?_, answers_answer hname.2⟩
  rw [callNamed, hname.1]
  exact bind_congr fun vs => apply_eq_answered hname.2 vs p

/-- At the edges of the 64-bit integers. -/
theorem integer_arithmetic_edges :
    callNamed "+" [.int Int64.maxValue, .int 1, .int (-1)] ⟨1, 1⟩ =
      Eval.fail ⟨1, 1⟩ .overflow ∧
    (∃ n : Int64, n.toInt = 6 ∧ callNamed "*" [.int 2, .int 3] ⟨1, 1⟩ = pure (.int n)) ∧
    callNamed "-" [.int Int64.minValue] ⟨1, 1⟩ = Eval.fail ⟨1, 1⟩ .overflow ∧
    callNamed "/" [.int Int64.minValue, .int (-1)] ⟨1, 1⟩ = Eval.fail ⟨1, 1⟩ .overflow ∧
    (callNamed "/" [.int 7, .int 2, .int 0] ⟨1, 1⟩ = Eval.fail ⟨1, 1⟩ .divisionByZero ∨
      callNamed "/" [.int 7, .int 2, .int 0] ⟨1, 1⟩ = Eval.fail ⟨1, 1⟩ .overflow) := by
  obtain ⟨hadd, hmul, hneg, -, hdiv, -⟩ := integer_arithmetic ⟨1, 1⟩
  refine ⟨(hadd [Int64.maxValue, 1, -1]).refused ⟨2 ^ 63, ?_, by decide⟩,
    (hmul [2, 3]).exact ?_, (hneg Int64.minValue).refused ⟨2 ^ 63, by decide, by decide⟩,
    (hdiv Int64.minValue (-1) []).overflow ?_, (hdiv 7 2 [0]).zero (by decide)⟩
  · have hmax : Int64.maxValue.toInt = 2 ^ 63 - 1 := by decide
    simp [hmax]
  · have hproduct : Int64.toInt 2 = 2 ∧ Int64.toInt 3 = 3 := by decide
    simp [hproduct]
    decide
  · have hquotient : Int64.minValue.toInt = -2 ^ 63 ∧ Int64.toInt (-1) = -1 := by decide
    norm_num [quotients, hquotient]

end LayeredSite
