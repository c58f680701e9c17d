import LayeredSite.Date.Text
import LayeredSite.Proofs.Text.Cutting
import Mathlib.Algebra.Ring.Nat
import Mathlib.Data.List.Induction

namespace LayeredSite.Date

variable {n width max : ℕ} {ds rest : List Char}

theorem isDigit_of_mem_padded {c : Char} (h : c ∈ padded width n) : Number.isDigit c = true := by
  rcases List.mem_append.mp h with hzero | hdigit
  · rw [(List.mem_replicate.mp hzero).2]
    rfl
  · have hchar := Nat.isDigit_of_mem_toDigits (by decide) (by decide) hdigit
    exact hchar

/-- A written date has no other characters. -/
theorem of_mem_formatChars {d : Date} {c : Char} (h : c ∈ d.formatChars) :
    Number.isDigit c = true ∨ c = '-' ∨ c = '+' := by
  have hyear (h : c ∈ yearText d.year) : Number.isDigit c = true ∨ c = '-' ∨ c = '+' := by
    unfold yearText at h
    split_ifs at h
    · exact (List.mem_cons.mp h).elim (fun hc => .inr (.inl hc)) fun hc =>
        .inl (isDigit_of_mem_padded hc)
    · exact (List.mem_cons.mp h).elim (fun hc => .inr (.inr hc)) fun hc =>
        .inl (isDigit_of_mem_padded hc)
    · exact .inl (isDigit_of_mem_padded h)
  simp only [formatChars, List.mem_append, List.mem_cons] at h
  rcases h with h | hdash | h | hdash | h
  · exact hyear h
  · exact .inr (.inl hdash)
  · exact .inl (isDigit_of_mem_padded h)
  · exact .inr (.inl hdash)
  · exact .inl (isDigit_of_mem_padded h)

theorem ofDigits_padded (width n : ℕ) : Number.ofDigits (padded width n) = n := by
  have hzeros : ∀ k, (List.replicate k '0').foldl
      (fun n c => 10 * n + Number.digitValue c) 0 = 0 := by
    intro k
    induction k with
    | zero => rfl
    | succ k ih => exact ih
  rw [padded, Number.ofDigits, List.foldl_append, hzeros]
  exact Nat.ofDigitChars_toDigits (by decide) (by decide)

theorem length_padded (h : (Nat.toDigits 10 n).length ≤ width) :
    (padded width n).length = width := by
  simp only [padded, List.length_append, List.length_replicate]
  omega

theorem padded_ne_nil (width n : ℕ) : padded width n ≠ [] :=
  List.append_ne_nil_of_right_ne_nil _ Nat.toDigits_ne_nil

/-- A number ends where its place is full, or where no digit follows. -/
theorem digits?_append (hne : ds ≠ []) (hds : ∀ c ∈ ds, Number.isDigit c = true)
    (hmax : ds.length ≤ max)
    (hnext : ∀ c ∈ (rest.take (max - ds.length)).head?, Number.isDigit c = false) :
    digits? max (ds ++ rest) = some (Number.ofDigits ds, rest) := by
  have htake : ((ds ++ rest).take max).takeWhile Number.isDigit = ds := by
    rw [List.take_append, List.take_of_length_le hmax, Text.takeWhile_append hds hnext]
  rw [digits?]
  simp only [htake, List.isEmpty_eq_false_iff.mpr hne, List.drop_left]
  rfl

/-- A number that fills its place is read whatever follows. -/
theorem digits?_padded (h : (Nat.toDigits 10 n).length ≤ width) (rest : List Char) :
    digits? width (padded width n ++ rest) = some (n, rest) := by
  have hlen := length_padded h
  rw [digits?_append (padded_ne_nil _ _) (fun c => isDigit_of_mem_padded) hlen.le (by simp [hlen]),
    ofDigits_padded]

theorem range_of_isDigit {c : Char} (h : Number.isDigit c = true) :
    48 ≤ c.toNat ∧ c.toNat ≤ 57 := by
  simpa [Number.isDigit, Char.le_def, UInt32.le_iff_toNat_le] using h

theorem not_isBlank_of_isDigit {c : Char} (h : Number.isDigit c = true) :
    Text.isBlank c = false := by
  obtain ⟨hlow, hhigh⟩ := range_of_isDigit h
  simp only [Text.isBlank, Bool.or_eq_false_iff, Bool.and_eq_false_iff, decide_eq_false_iff_not,
    beq_eq_false_iff_ne]
  omega

theorem trimStart_padded (width n : ℕ) (rest : List Char) :
    Text.trimStart (padded width n ++ rest) = padded width n ++ rest := by
  obtain ⟨c, cs, hcs⟩ := List.exists_cons_of_ne_nil (padded_ne_nil width n)
  have hdigit := isDigit_of_mem_padded (hcs ▸ List.mem_cons_self : c ∈ padded width n)
  rw [hcs, Text.trimStart, List.cons_append,
    List.dropWhile_cons_of_neg (by simp [not_isBlank_of_isDigit hdigit])]

theorem field?_padded (h : n < 100) (rest : List Char) :
    field? (padded 2 n ++ rest) = some (n, rest) := by
  have hdigits := (Nat.length_toDigits_le_iff (by decide : 1 < 10) (by decide : 0 < 2)).mpr h
  rw [field?, trimStart_padded, digits?_padded hdigits]

/-- A year with a sign has all the digits up to the dash; one without has four. -/
theorem year?_yearText (year : ℤ) (rest : List Char) :
    year? (yearText year ++ '-' :: rest) = some (year, '-' :: rest) := by
  have hsigned : digits? (padded 4 year.natAbs ++ '-' :: rest).length
      (padded 4 year.natAbs ++ '-' :: rest) = some (year.natAbs, '-' :: rest) := by
    rw [digits?_append (padded_ne_nil _ _) (fun c => isDigit_of_mem_padded) (by simp),
      ofDigits_padded]
    simp [show Number.isDigit '-' = false from rfl]
  have htrim {c : Char} (h : Text.isBlank c = false) (cs : List Char) :
      Text.trimStart (c :: cs) = c :: cs := by simp [Text.trimStart, h]
  unfold yearText
  split
  · have hyear : -(year.natAbs : ℤ) = year := by omega
    rw [List.cons_append, year?, htrim (by decide)]
    simp only [hsigned, Option.map_some, hyear]
  · split
    · have hyear : (year.natAbs : ℤ) = year := by omega
      rw [List.cons_append, year?, htrim (by decide)]
      simp only [hsigned, Option.map_some, hyear]
    · have hlen := (Nat.length_toDigits_le_iff (by decide : 1 < 10) (by decide : 0 < 4)).mpr
        (by omega : year.natAbs < 10000)
      have hfour := digits?_padded hlen ('-' :: rest)
      have hdigits : ∀ c ∈ padded 4 year.natAbs, Number.isDigit c = true := fun c =>
        isDigit_of_mem_padded
      obtain ⟨c, cs, hcs⟩ := List.exists_cons_of_ne_nil (padded_ne_nil 4 year.natAbs)
      rw [year?, trimStart_padded]
      rw [hcs] at hfour hdigits ⊢
      have hdigit := hdigits c List.mem_cons_self
      split
      · rename_i heq
        cases heq
        exact absurd hdigit (by decide)
      · rename_i heq
        cases heq
        exact absurd hdigit (by decide)
      · have hyear : (year.natAbs : ℤ) = year := by omega
        simp only [hfour, Option.map_some, hyear]

theorem month_day_lt (d : Date) : d.month < 100 ∧ d.day < 100 := by
  have hvalid := d.valid
  have hdays : Calendar.daysInMonth d.year d.month ≤ 31 := by
    unfold Calendar.daysInMonth
    split
    · split <;> decide
    · split <;> decide
  simp only [Calendar.isDate, Bool.and_eq_true, decide_eq_true_eq] at hvalid
  omega

/-- A written date is read as itself. -/
theorem parseChars_formatChars (d : Date) : parseChars d.formatChars = some d := by
  obtain ⟨hmonth, hday⟩ := month_day_lt d
  have hlast := field?_padded hday []
  rw [List.append_nil] at hlast
  rw [parseChars, formatChars, year?_yearText]
  simp only [Option.bind_eq_bind, Option.bind_some, dash?, field?_padded hmonth, hlast]
  exact of?_self d

end LayeredSite.Date

namespace LayeredSite.Date

variable {n width year month day : ℕ} {ds es cs rest : List Char} {d : Date}

theorem digitValue_add {c : Char} (h : Number.isDigit c = true) :
    Number.digitValue c + 48 = c.toNat := by
  have hzero : '0'.toNat = 48 := rfl
  have hrange := range_of_isDigit h
  rw [Number.digitValue, hzero]
  omega

theorem ofDigits_append_singleton (ds : List Char) (c : Char) :
    Number.ofDigits (ds ++ [c]) = 10 * Number.ofDigits ds + Number.digitValue c := by
  simp [Number.ofDigits]

theorem ofDigits_lt (h : ∀ c ∈ ds, Number.isDigit c = true) :
    Number.ofDigits ds < 10 ^ ds.length := by
  induction ds using List.reverseRecOn with
  | nil => decide
  | append_singleton ds c ih =>
    obtain ⟨hds, hc⟩ := List.forall_mem_append.mp h
    have hlast := hc c (List.mem_singleton_self c)
    have hvalue := digitValue_add hlast
    have hrange := range_of_isDigit hlast
    have hfront := ih hds
    rw [ofDigits_append_singleton, List.length_append, List.length_singleton, Nat.pow_succ]
    omega

/-- Digits are told by their number if it is known how many there are. -/
theorem ofDigits_injective (h : ∀ c ∈ ds, Number.isDigit c = true)
    (h' : ∀ c ∈ es, Number.isDigit c = true) (hlength : ds.length = es.length)
    (heq : Number.ofDigits ds = Number.ofDigits es) : ds = es := by
  induction ds using List.reverseRecOn generalizing es with
  | nil => exact (List.length_eq_zero_iff.mp hlength.symm).symm
  | append_singleton ds c ih =>
    obtain ⟨es, c', rfl⟩ : ∃ es' c', es = es' ++ [c'] :=
      (List.eq_nil_or_concat' es).resolve_left (by rintro rfl; simp at hlength)
    obtain ⟨hds, hc⟩ := List.forall_mem_append.mp h
    obtain ⟨hes, hc'⟩ := List.forall_mem_append.mp h'
    have hlast := hc c (List.mem_singleton_self c)
    have hlast' := hc' c' (List.mem_singleton_self c')
    have hvalue := digitValue_add hlast
    have hvalue' := digitValue_add hlast'
    have hrange := range_of_isDigit hlast
    have hrange' := range_of_isDigit hlast'
    rw [ofDigits_append_singleton, ofDigits_append_singleton] at heq
    have hfront : ds = es := ih hds hes (by simpa using hlength) (by omega)
    have hchar : c = c' := Char.toNat_inj.mp (by omega)
    rw [hfront, hchar]

theorem padded_ofDigits (hne : ds ≠ []) (h : ∀ c ∈ ds, Number.isDigit c = true) :
    padded ds.length (Number.ofDigits ds) = ds := by
  have hdigits := (Nat.length_toDigits_le_iff (by decide : 1 < 10)
    (List.length_pos_iff.mpr hne)).mpr (ofDigits_lt h)
  exact ofDigits_injective (fun c => isDigit_of_mem_padded) h (length_padded hdigits)
    (ofDigits_padded _ _)

/-- A number of a fixed width is read exactly where it is written with zeros in front. -/
theorem fixed?_eq_some_iff (hwidth : 0 < width) :
    fixed? width cs = some (n, rest) ↔ n < 10 ^ width ∧ cs = padded width n ++ rest := by
  constructor
  · intro h
    rw [fixed?] at h
    split at h
    · rename_i hds
      obtain ⟨hlength, hdigits⟩ := hds
      cases h
      have hne : cs.take width ≠ [] := List.ne_nil_of_length_pos (by omega)
      have hpadded := padded_ofDigits hne (List.all_eq_true.mp hdigits)
      rw [hlength] at hpadded
      have hlt := ofDigits_lt (List.all_eq_true.mp hdigits)
      rw [hlength] at hlt
      exact ⟨hlt, by rw [hpadded, List.take_append_drop]⟩
    · cases h
  · rintro ⟨hlt, rfl⟩
    have hlength := length_padded ((Nat.length_toDigits_le_iff (by decide) hwidth).mpr hlt)
    have htake : (padded width n ++ rest).take width = padded width n := List.take_left' hlength
    have hdrop : (padded width n ++ rest).drop width = rest := List.drop_left' hlength
    have hdigits : (padded width n).all Number.isDigit = true :=
      List.all_eq_true.mpr fun c => isDigit_of_mem_padded
    rw [fixed?, htake, hdrop, if_pos ⟨hlength, hdigits⟩, ofDigits_padded]

theorem dash?_eq_some_iff : dash? cs = some rest ↔ cs = '-' :: rest := by
  constructor
  · intro h
    unfold dash? at h
    split at h
    · rw [Option.some.inj h]
    · cases h
  · rintro rfl
    rfl

theorem of?_eq_some_iff {year : ℤ} : of? year month day = some d ↔
    d.year = year ∧ d.month = month ∧ d.day = day := by
  refine ⟨of?_eq_some, ?_⟩
  rintro ⟨rfl, rfl, rfl⟩
  exact of?_self d

/-- A year of four digits is written without a sign. -/
theorem formatChars_of_year (h : d.year = (year : ℤ)) (hlt : year < 10000) : d.formatChars =
    padded 4 year ++ '-' :: (padded 2 d.month ++ '-' :: padded 2 d.day) := by
  rw [formatChars, h, yearText, if_neg (by omega), if_neg (by omega), Int.natAbs_natCast]

/-- A date is found exactly where it is written with a year of four digits, and a dash and some more
text in one line follow. -/
theorem dated?_eq_some_iff : dated? cs = some (d, rest) ↔
    (0 ≤ d.year ∧ d.year ≤ 9999) ∧ rest ≠ [] ∧ '\n' ∉ rest ∧ cs = d.formatChars ++ '-' :: rest := by
  have hrest : ∀ d' rest', (if (rest'.isEmpty || rest'.contains '\n') = true then none
      else some (d', rest')) = some (d, rest) ↔
        (d' = d ∧ rest' = rest) ∧ rest' ≠ [] ∧ '\n' ∉ rest' := by
    intro d' rest'
    rw [Option.ite_none_left_eq_some, Option.some_inj, Prod.mk.injEq, and_comm]
    simp
  simp only [dated?, Option.bind_eq_bind, Option.bind_eq_some_iff, Prod.exists,
    fixed?_eq_some_iff (by decide : 0 < 4), fixed?_eq_some_iff (by decide : 0 < 2),
    dash?_eq_some_iff, of?_eq_some_iff, hrest]
  constructor
  · rintro ⟨year, _, ⟨hlt, rfl⟩, _, rfl, _, _, ⟨-, rfl⟩, _, rfl, _, _, ⟨-, rfl⟩, _, rfl, _,
      ⟨hyear, rfl, rfl⟩, ⟨rfl, rfl⟩, hne, hline⟩
    refine ⟨by omega, hne, hline, ?_⟩
    rw [formatChars_of_year hyear hlt]
    simp
  · rintro ⟨⟨hlow, hhigh⟩, hne, hline, rfl⟩
    obtain ⟨year, hyear⟩ := Int.eq_ofNat_of_zero_le hlow
    obtain ⟨hmonth, hday⟩ := month_day_lt d
    have hlt : year < 10000 := by omega
    rw [formatChars_of_year hyear hlt]
    exact ⟨year, _, ⟨hlt, by simp⟩, _, rfl, d.month, _, ⟨hmonth, rfl⟩, _, rfl, d.day, _,
      ⟨hday, rfl⟩, rest, rfl, d, ⟨hyear, rfl, rfl⟩, ⟨rfl, rfl⟩, hne, hline⟩

/-- A file name that is a date with a year of four digits, a dash and some more text in one line. -/
structure Dated (stem : String) (d : Date) (rest : String) : Prop where
  year : 0 ≤ d.year ∧ d.year ≤ 9999
  nonempty : rest ≠ ""
  oneLine : '\n' ∉ rest.toList
  spelled : stem = d.format ++ "-" ++ rest

theorem dated_iff {stem rest : String} :
    Dated stem d rest ↔ dated? stem.toList = some (d, rest.toList) := by
  have hne : rest.toList ≠ [] ↔ rest ≠ "" := not_congr String.toList_eq_nil_iff
  have hspelled : stem.toList = d.formatChars ++ '-' :: rest.toList ↔
      stem = d.format ++ "-" ++ rest := by
    rw [← String.toList_inj, format]
    simp
  rw [dated?_eq_some_iff, hne, hspelled]
  exact ⟨fun h => ⟨h.year, h.nonempty, h.oneLine, h.spelled⟩,
    fun ⟨hyear, hrest, hline, hstem⟩ => ⟨hyear, hrest, hline, hstem⟩⟩

theorem splitStem_eq_iff {stem rest : String} :
    splitStem stem = (some d, rest) ↔ Dated stem d rest := by
  rw [dated_iff, splitStem]
  rcases dated? stem.toList with - | ⟨d', rest'⟩
  · simp
  · rw [Prod.mk.injEq, Option.some_inj, Option.some_inj, Prod.mk.injEq, ← String.toList_inj,
      String.toList_ofList]

/-- A file name is split into a date and the text behind it exactly if it is the date as it is
written, a dash and the text; every other file name is its own rest. -/
theorem splitStem_decodes (stem : String) :
    (∀ d rest, splitStem stem = (some d, rest) ↔ Dated stem d rest) ∧
    (splitStem stem = (none, stem) ↔ ∀ d rest, ¬ Dated stem d rest) := by
  refine ⟨fun d rest => splitStem_eq_iff, fun hnone d rest hdated => ?_, fun h => ?_⟩
  · rw [splitStem_eq_iff.mpr hdated] at hnone
    cases hnone
  · have hundated : dated? stem.toList = none := by
      refine Option.eq_none_iff_forall_ne_some.mpr fun p hp => h p.1 (String.ofList p.2) ?_
      rw [dated_iff, hp, String.toList_ofList]
    rw [splitStem, hundated]

example : splitStem "2023-02-29-x" = (none, "2023-02-29-x") := by decide

end LayeredSite.Date
