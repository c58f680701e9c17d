import LayeredSite.Fields
import Mathlib.Data.List.Basic
import Mathlib.Order.Defs.LinearOrder

namespace LayeredSite.Fields

variable {α : Type}

theorem get?_cons_self (key : String) (value : α) (rest : Fields α) :
    get? ((key, value) :: rest) key = some value := by
  simp [get?]

theorem get?_cons_of_ne {key other : String} (h : other ≠ key) (value : α) (rest : Fields α) :
    get? ((key, value) :: rest) other = rest.get? other := by
  rw [get?, List.lookup_cons, beq_eq_false_iff_ne.mpr h, get?]

theorem mem_of_get? {fields : Fields α} {key : String} {value : α}
    (h : fields.get? key = some value) : (key, value) ∈ fields := by
  obtain ⟨before, behind, rfl, -⟩ := List.lookup_eq_some_iff.mp h
  exact List.mem_append_right _ List.mem_cons_self

theorem mem_insert {key : String} {value : α} {fields : Fields α} {e : String × α}
    (h : e ∈ fields.insert key value) : e = (key, value) ∨ e ∈ fields := by
  induction fields with
  | nil => exact .inl (List.mem_singleton.mp h)
  | cons first rest ih =>
    unfold insert at h
    split at h
    · exact List.mem_cons.mp h
    · split at h
      · exact (List.mem_cons.mp h).imp_right (List.mem_cons_of_mem _)
      · rcases List.mem_cons.mp h with rfl | h
        · exact .inr List.mem_cons_self
        · exact (ih h).imp_right (List.mem_cons_of_mem _)

theorem mem_keys_insert {key k : String} {value : α} {fields : Fields α}
    (h : k ∈ (fields.insert key value).keys) : k = key ∨ k ∈ fields.keys := by
  induction fields with
  | nil => simpa [insert, keys] using h
  | cons e rest ih =>
    obtain ⟨k', v⟩ := e
    simp only [keys, List.map_cons, List.mem_cons] at ih ⊢
    unfold insert at h
    split at h
    · simpa [keys] using h
    · split at h
      · rename_i he
        subst he
        simp only [keys, List.map_cons, List.mem_cons] at h
        exact h.elim .inl fun hr => .inr (.inr hr)
      · simp only [keys, List.map_cons, List.mem_cons] at h
        rcases h with h | h
        · exact .inr (.inl h)
        · exact (ih h).elim .inl fun hr => .inr (.inr hr)

theorem sorted_insert (key : String) (value : α) {fields : Fields α} (h : fields.Sorted) :
    (fields.insert key value).Sorted := by
  induction fields with
  | nil => simp [Sorted, insert, keys]
  | cons e rest ih =>
    obtain ⟨k, v⟩ := e
    obtain ⟨hk, hr⟩ := List.pairwise_cons.mp h
    unfold insert
    split
    · rename_i hlt
      refine List.pairwise_cons.mpr ⟨?_, h⟩
      intro k' hk'
      rcases List.mem_cons.mp hk' with rfl | hk'
      · exact hlt
      · exact String.lt_trans hlt (hk k' hk')
    · split
      · rename_i he
        exact List.pairwise_cons.mpr ⟨he ▸ hk, hr⟩
      · rename_i hlt hne
        refine List.pairwise_cons.mpr ⟨?_, ih hr⟩
        intro k' hk'
        rcases mem_keys_insert hk' with rfl | hk'
        · exact Std.lt_of_le_of_ne (String.not_lt.mp hlt) (Ne.symm hne)
        · exact hk k' hk'

theorem sorted_merge {fields : Fields α} (entries : List (String × α)) (h : fields.Sorted) :
    (fields.merge entries).Sorted := by
  induction entries generalizing fields with
  | nil => exact h
  | cons e rest ih => exact ih (sorted_insert e.1 e.2 h)

theorem sorted_ofList (entries : List (String × α)) : (ofList entries).Sorted :=
  sorted_merge entries List.Pairwise.nil

theorem get?_eq_none {fields : Fields α} {key : String} (h : key ∉ fields.keys) :
    fields.get? key = none := by
  rw [get?, List.lookup_eq_none_iff]
  intro e he
  have hne : key ≠ e.1 := fun hk => h (hk ▸ List.mem_map_of_mem he)
  simpa using hne

theorem mem_keys_iff {fields : Fields α} {key : String} :
    key ∈ fields.keys ↔ ∃ value, fields.get? key = some value := by
  constructor
  · intro h
    obtain ⟨e, he, rfl⟩ := List.mem_map.mp h
    refine Option.ne_none_iff_exists'.mp fun hnone => ?_
    rw [get?, List.lookup_eq_none_iff] at hnone
    simpa using hnone e he
  · rintro ⟨value, h⟩
    exact List.mem_map_of_mem (mem_of_get? h)

/-- Sorted entries have a key once. -/
theorem get?_of_mem {fields : Fields α} (h : fields.Sorted) {key : String} {value : α}
    (hmem : (key, value) ∈ fields) : fields.get? key = some value := by
  induction fields with
  | nil => exact absurd hmem List.not_mem_nil
  | cons e rest ih =>
    obtain ⟨hfirst, hrest⟩ := List.pairwise_cons.mp h
    rcases List.mem_cons.mp hmem with rfl | hmem
    · simp [get?]
    · have hne : key ≠ e.1 := by
        rintro rfl
        exact String.lt_irrefl _ (hfirst e.1 (List.mem_map.mpr ⟨_, hmem, rfl⟩))
      rw [get?, List.lookup_cons, beq_eq_false_iff_ne.mpr hne]
      exact ih hrest hmem

theorem mem_iff_get? {fields : Fields α} (h : fields.Sorted) {key : String} {value : α} :
    (key, value) ∈ fields ↔ fields.get? key = some value :=
  ⟨get?_of_mem h, mem_of_get?⟩

theorem Sorted.nodup {fields : Fields α} (h : fields.Sorted) : fields.Nodup :=
  (List.pairwise_map.mp h).imp fun hlt => ne_of_apply_ne Prod.fst (String.ne_of_lt hlt)

/-- Sorted entries are told by what is under each key. -/
theorem Sorted.ext {fields others : Fields α} (h : fields.Sorted) (h' : others.Sorted)
    (hget : ∀ key, fields.get? key = others.get? key) : fields = others := by
  have hmem : ∀ e, e ∈ fields ↔ e ∈ others := fun e => by
    rw [mem_iff_get? h, mem_iff_get? h', hget]
  have hperm := (List.perm_ext_iff_of_nodup h.nodup h'.nodup).mpr hmem
  refine hperm.eq_of_pairwise (fun e e' _ _ hlt hgt => ?_) (List.pairwise_map.mp h)
    (List.pairwise_map.mp h')
  exact absurd (String.lt_trans hlt hgt) (String.lt_irrefl _)

/-- Entries with other keys do not change what is under a key. -/
theorem get?_merge_of_ne {entries : List (String × α)} {key : String}
    (h : ∀ e ∈ entries, key ≠ e.1) (fields : Fields α) :
    (fields.merge entries).get? key = fields.get? key := by
  induction entries generalizing fields with
  | nil => rfl
  | cons e rest ih =>
    obtain ⟨he, hrest⟩ := List.forall_mem_cons.mp h
    have hmerge : fields.merge (e :: rest) = (fields.insert e.1 e.2).merge rest := rfl
    rw [hmerge, ih hrest, get?_insert_of_ne he]

/-- Merging sorted entries looks a key up in them before it looks in the map. -/
theorem get?_merge {entries : Fields α} (h : entries.Sorted) (fields : Fields α) (key : String) :
    (fields.merge entries).get? key = (entries.get? key).or (fields.get? key) := by
  induction entries generalizing fields with
  | nil => rfl
  | cons e rest ih =>
    obtain ⟨k, v⟩ := e
    obtain ⟨hk, hr⟩ := List.pairwise_cons.mp h
    -- Sorted entries have a key once, so a later entry does not undo this one.
    have hmerge : fields.merge ((k, v) :: rest) = (fields.insert k v).merge rest := rfl
    rw [hmerge, ih hr]
    by_cases he : key = k
    · subst he
      have hnone : get? rest key = none := get?_eq_none fun hm => String.lt_irrefl _ (hk key hm)
      rw [hnone, get?_insert_self]
      simp [get?]
    · rw [get?_insert_of_ne he]
      simp [get?, List.lookup_cons, beq_eq_false_iff_ne.mpr he]

section Map

variable {β : Type} (f : α → β)

/-- A function on the values changes no key. -/
theorem get?_map (fields : Fields α) (key : String) :
    get? (fields.map fun e => (e.1, f e.2)) key = (fields.get? key).map f := by
  induction fields with
  | nil => rfl
  | cons e rest ih =>
    unfold get? at ih ⊢
    rw [List.map_cons, List.lookup_cons, List.lookup_cons, ih]
    cases key == e.1 <;> rfl

theorem insert_map (key : String) (value : α) (fields : Fields α) :
    insert key (f value) (fields.map fun e => (e.1, f e.2)) =
      (fields.insert key value).map fun e => (e.1, f e.2) := by
  induction fields with
  | nil => rfl
  | cons e rest ih =>
    rw [List.map_cons, insert, insert, ih]
    split
    · rfl
    · split <;> rfl

end Map

end LayeredSite.Fields
