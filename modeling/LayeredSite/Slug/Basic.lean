import LayeredSite.Slug.Spelling

namespace LayeredSite.Slug

def isSlugChar (c : Char) : Bool := ('a' ≤ c && c ≤ 'z') || ('0' ≤ c && c ≤ '9')

/-- ASCII characters stand for themselves; one without a spelling is a dash. -/
def asciiOf (c : Char) : List Char :=
  if c.toNat < 128 then [c] else ((spelling? c).map String.toList).getD ['-']

/-- Turns every run of other characters into one dash; `open_` says whether a dash may stand
here. -/
def dashed (open_ : Bool) : List Char → List Char
  | [] => []
  | c :: rest =>
    let d := c.toLower
    if isSlugChar d then d :: dashed true rest
    else if open_ then '-' :: dashed false rest
    else dashed false rest

def trimDash (cs : List Char) : List Char :=
  if cs.getLast? == some '-' then cs.dropLast else cs

def ofChars (cs : List Char) : List Char := trimDash (dashed false (cs.flatMap asciiOf))

def ofText (s : String) : String := String.ofList (ofChars s.toList)

theorem mem_dashed {c : Char} {cs : List Char} (open_ : Bool) (h : c ∈ dashed open_ cs) :
    isSlugChar c = true ∨ c = '-' := by
  fun_induction dashed open_ cs with
  | case1 => simp at h
  | case2 _ _ _ d hd ih =>
    rcases List.mem_cons.mp h with rfl | h
    · exact .inl hd
    · exact ih h
  | case3 _ _ _ _ ih =>
    rcases List.mem_cons.mp h with rfl | h
    · exact .inr rfl
    · exact ih h
  | case4 _ _ _ _ _ _ ih => exact ih h

theorem mem_ofChars {c : Char} {cs : List Char} (h : c ∈ ofChars cs) :
    isSlugChar c = true ∨ c = '-' := by
  unfold ofChars trimDash at h
  split at h
  · exact mem_dashed false (List.dropLast_subset _ h)
  · exact mem_dashed false h

end LayeredSite.Slug
