namespace LayeredSite

abbrev Fields (α : Type) := List (String × α)

namespace Fields

variable {α β : Type}

def get? (fields : Fields α) (key : String) : Option α := fields.lookup key

def insert (key : String) (value : α) : Fields α → Fields α
  | [] => [(key, value)]
  | (k, v) :: rest =>
    if key < k then (key, value) :: (k, v) :: rest
    else if key = k then (key, value) :: rest
    else (k, v) :: insert key value rest

/-- Adds entries one after another; the last of equal keys wins. -/
def merge (fields : Fields α) (entries : List (String × α)) : Fields α :=
  entries.foldl (fun acc (k, v) => acc.insert k v) fields

def ofList (entries : List (String × α)) : Fields α := merge [] entries

def keys (fields : Fields α) : List String := fields.map Prod.fst

def Sorted (fields : Fields α) : Prop := fields.keys.Pairwise (· < ·)

theorem get?_insert_self (key : String) (value : α) (fields : Fields α) :
    (fields.insert key value).get? key = some value := by
  induction fields with
  | nil => simp [insert, get?]
  | cons e rest ih =>
    obtain ⟨k, v⟩ := e
    unfold insert
    split
    · simp [get?]
    · split
      · simp [get?]
      · rename_i h
        simp only [get?, List.lookup_cons, beq_eq_false_iff_ne.mpr h]
        exact ih

theorem get?_insert_of_ne {key other : String} (h : other ≠ key) (value : α) (fields : Fields α) :
    (fields.insert key value).get? other = fields.get? other := by
  induction fields with
  | nil => simp [insert, get?, List.lookup_cons, beq_eq_false_iff_ne.mpr h]
  | cons e rest ih =>
    obtain ⟨k, v⟩ := e
    unfold insert
    split
    · simp [get?, List.lookup_cons, beq_eq_false_iff_ne.mpr h]
    · split
      · rename_i hk
        simp [get?, List.lookup_cons, ← hk, beq_eq_false_iff_ne.mpr h]
      · simp only [get?, List.lookup_cons]
        split
        · rfl
        · exact ih

end Fields
end LayeredSite
