import LayeredSite.Proofs.Site.TagCounts
import LayeredSite.Proofs.Text.ByteOrder
import Mathlib.Algebra.BigOperators.Group.List.Lemmas
import Mathlib.Data.List.Dedup

namespace LayeredSite.Tags

open Fields

variable {names others more : List String} {name : String} {a b : Fields ℕ}

/-- Goes through two tallies at once and adds the counts of the names that both have. -/
def combine : Fields ℕ → Fields ℕ → Fields ℕ
  | [], b => b
  | e :: a, [] => e :: a
  | (k, m) :: a, (l, n) :: b =>
    if k < l then (k, m) :: combine a ((l, n) :: b)
    else if k = l then (k, m + n) :: combine a b
    else (l, n) :: combine ((k, m) :: a) b
termination_by a b => a.length + b.length

theorem lt_of_mem_keys {k l : String} {n : ℕ} (hb : Sorted ((l, n) :: b)) (h : k < l) :
    ∀ name ∈ keys ((l, n) :: b), k < name := by
  intro name hmem
  rcases List.mem_cons.mp hmem with rfl | hmem
  · exact h
  · exact String.lt_trans h ((List.pairwise_cons.mp hb).1 name hmem)

/-- A key in front of all keys has nothing under it. -/
theorem get?_of_lt {k l : String} {n : ℕ} (hb : Sorted ((l, n) :: b)) (h : k < l) :
    get? ((l, n) :: b) k = none :=
  get?_eq_none fun hmem => String.lt_irrefl _ (lt_of_mem_keys hb h k hmem)

theorem get?_combine (ha : Sorted a) (hb : Sorted b) (name : String) :
    get? (combine a b) name = Option.merge (· + ·) (get? a name) (get? b name) := by
  fun_induction combine a b with
  | case1 b => cases get? b name <;> rfl
  | case2 e a => cases get? (e :: a) name <;> rfl
  | case3 k m a l n b hlt ih =>
    by_cases hname : name = k
    · rw [hname, get?_cons_self, get?_cons_self, get?_of_lt hb hlt]
      rfl
    · rw [get?_cons_of_ne hname, get?_cons_of_ne hname, ih (List.pairwise_cons.mp ha).2 hb]
  | case4 m a l n b hlt ih =>
    by_cases hname : name = l
    · rw [hname, get?_cons_self, get?_cons_self, get?_cons_self]
      rfl
    · rw [get?_cons_of_ne hname, get?_cons_of_ne hname, get?_cons_of_ne hname,
        ih (List.pairwise_cons.mp ha).2 (List.pairwise_cons.mp hb).2]
  | case5 k m a l n b hlt hne ih =>
    have hgt : l < k := Std.lt_of_le_of_ne (String.not_lt.mp hlt) (Ne.symm hne)
    by_cases hname : name = l
    · rw [hname, get?_cons_self, get?_cons_self, get?_of_lt ha hgt]
      rfl
    · rw [get?_cons_of_ne hname, get?_cons_of_ne hname, ih ha (List.pairwise_cons.mp hb).2]

theorem mem_keys_combine (ha : Sorted a) (hb : Sorted b) :
    name ∈ keys (combine a b) ↔ name ∈ keys a ∨ name ∈ keys b := by
  rw [mem_keys_iff, mem_keys_iff, mem_keys_iff, get?_combine ha hb]
  cases get? a name <;> cases get? b name <;> simp [Option.merge]

theorem sorted_combine (ha : Sorted a) (hb : Sorted b) : Sorted (combine a b) := by
  fun_induction combine a b with
  | case1 b => exact hb
  | case2 e a => exact ha
  | case3 k m a l n b hlt ih =>
    obtain ⟨hk, ha'⟩ := List.pairwise_cons.mp ha
    refine List.pairwise_cons.mpr ⟨fun name hmem => ?_, ih ha' hb⟩
    exact ((mem_keys_combine ha' hb).mp hmem).elim (hk name) (lt_of_mem_keys hb hlt name)
  | case4 m a l n b hlt ih =>
    obtain ⟨hk, ha'⟩ := List.pairwise_cons.mp ha
    obtain ⟨hl, hb'⟩ := List.pairwise_cons.mp hb
    refine List.pairwise_cons.mpr ⟨fun name hmem => ?_, ih ha' hb'⟩
    exact ((mem_keys_combine ha' hb').mp hmem).elim (hk name) (hl name)
  | case5 k m a l n b hlt hne ih =>
    have hgt : l < k := Std.lt_of_le_of_ne (String.not_lt.mp hlt) (Ne.symm hne)
    obtain ⟨hl, hb'⟩ := List.pairwise_cons.mp hb
    refine List.pairwise_cons.mpr ⟨fun name hmem => ?_, ih ha hb'⟩
    exact ((mem_keys_combine ha hb').mp hmem).elim (lt_of_mem_keys ha hgt name) (hl name)

theorem mem_countAll {n : ℕ} :
    (name, n) ∈ countAll names ↔ name ∈ names ∧ n = names.count name := by
  rw [mem_iff_get? (sorted_countAll names), get?_countAll]
  by_cases hmem : name ∈ names <;> simp [hmem, eq_comm]

/-- The tallies of two lists are the same exactly if the lists differ in their order only. -/
theorem countAll_eq_iff : countAll others = countAll names ↔ others.Perm names := by
  constructor
  · intro heq
    refine List.perm_iff_count.mpr fun name => ?_
    have hcount : ∀ names : List String,
        (get? (countAll names) name).getD 0 = names.count name := by
      intro names
      rw [get?_countAll]
      by_cases hmem : name ∈ names <;> simp [hmem, List.count_eq_zero_of_not_mem]
    rw [← hcount, ← hcount, heq]
  · intro hperm
    refine (sorted_countAll others).ext (sorted_countAll names) fun name => ?_
    rw [get?_countAll, get?_countAll, hperm.count_eq]
    simp only [hperm.mem_iff]

theorem countAll_append (names more : List String) :
    countAll (names ++ more) = combine (countAll names) (countAll more) := by
  have hnames := sorted_countAll names
  have hmore := sorted_countAll more
  refine (sorted_countAll _).ext (sorted_combine hnames hmore) fun name => ?_
  rw [get?_combine hnames hmore, get?_countAll, get?_countAll, get?_countAll, List.count_append]
  by_cases hmem : name ∈ names <;> by_cases hmem' : name ∈ more <;>
    simp [hmem, hmem', List.count_eq_zero_of_not_mem, Option.merge]

/-- Every name of the list is counted. -/
theorem sum_countAll (names : List String) :
    ((countAll names).map Prod.snd).sum = names.length := by
  have hcounts : (countAll names).map Prod.snd = (keys (countAll names)).map (names.count ·) := by
    rw [keys, List.map_map]
    exact List.map_congr_left fun e he => (mem_countAll.mp he).2
  have hnodup : (keys (countAll names)).Nodup := (sorted_countAll names).imp String.ne_of_lt
  have hkeys : (keys (countAll names)).Perm names.dedup :=
    (List.perm_ext_iff_of_nodup hnodup names.nodup_dedup).mpr fun name => by
      rw [mem_keys_countAll, List.mem_dedup]
  rw [hcounts, (hkeys.map _).sum_nat, List.sum_map_count_dedup_eq_length]

/-- A tally has exactly the names that occur, in strictly increasing order of their bytes, each with
the number of its occurrences, and these numbers add up to the length of the list. Two lists have
the same tally exactly if one is a permutation of the other, and the tally of two lists together is
that of the one combined with that of the other. -/
theorem countAll_tallies (names : List String) :
    (keys (countAll names)).Pairwise (fun k l => Text.bytes k < Text.bytes l) ∧
    (∀ name n, (name, n) ∈ countAll names ↔ name ∈ names ∧ n = names.count name) ∧
    ((countAll names).map Prod.snd).sum = names.length ∧
    (∀ others, countAll others = countAll names ↔ others.Perm names) ∧
    ∀ more, countAll (names ++ more) = combine (countAll names) (countAll more) :=
  ⟨(sorted_countAll names).imp Text.bytes_lt_of_lt, fun _ _ => mem_countAll, sum_countAll names,
    fun _ => countAll_eq_iff, countAll_append names⟩

end LayeredSite.Tags
