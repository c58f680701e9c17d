namespace LayeredSite.Text

/-- As many characters as fit in `limit` bytes. -/
def cutChars : Nat → List Char → List Char
  | _, [] => []
  | limit, c :: rest =>
    if c.utf8Size ≤ limit then c :: cutChars (limit - c.utf8Size) rest else []

def cut (limit : Nat) (s : String) : String := String.ofList (cutChars limit s.toList)

def byteCount : List Char → Nat
  | [] => 0
  | c :: rest => c.utf8Size + byteCount rest

/-- What stands in front of an offset and behind it; the offset must not be beyond the end or inside
a character. -/
def splitAtByte? : Nat → List Char → Option (List Char × List Char)
  | 0, cs => some ([], cs)
  | _ + 1, [] => none
  | offset + 1, c :: rest =>
    if c.utf8Size ≤ offset + 1 then
      (splitAtByte? (offset + 1 - c.utf8Size) rest).map fun (front, behind) => (c :: front, behind)
    else none

theorem byteCount_cutChars_le (limit : Nat) (cs : List Char) :
    byteCount (cutChars limit cs) ≤ limit := by
  induction cs generalizing limit with
  | nil => simp [cutChars, byteCount]
  | cons c rest ih =>
    unfold cutChars
    split
    · have := ih (limit - c.utf8Size)
      simp only [byteCount]
      omega
    · simp [byteCount]

theorem cutChars_isPrefix (limit : Nat) (cs : List Char) : cutChars limit cs <+: cs := by
  induction cs generalizing limit with
  | nil => exact List.prefix_rfl
  | cons c rest ih =>
    unfold cutChars
    split
    · exact List.cons_prefix_cons.mpr ⟨rfl, ih _⟩
    · exact List.nil_prefix

theorem splitAtByte?_append (front behind : List Char) :
    splitAtByte? (byteCount front) (front ++ behind) = some (front, behind) := by
  induction front with
  | nil => simp [byteCount, splitAtByte?]
  | cons c front ih =>
    obtain ⟨n, hn⟩ : ∃ n, byteCount (c :: front) = n + 1 :=
      Nat.exists_eq_add_one.mpr (Nat.add_pos_left c.utf8Size_pos _)
    have hrest : n + 1 - c.utf8Size = byteCount front := by rw [← hn, byteCount]; omega
    have hle : c.utf8Size ≤ n + 1 := by rw [← hn, byteCount]; omega
    rw [hn, List.cons_append, splitAtByte?, if_pos hle, hrest, ih]
    rfl

theorem splitAtByte?_eq_some_iff {offset : Nat} {cs front behind : List Char} :
    splitAtByte? offset cs = some (front, behind) ↔
      cs = front ++ behind ∧ offset = byteCount front := by
  constructor
  · intro h
    induction cs generalizing offset front with
    | nil =>
      cases offset with
      | zero => cases h; exact ⟨rfl, rfl⟩
      | succ offset => cases h
    | cons c rest ih =>
      cases offset with
      | zero => cases h; exact ⟨rfl, rfl⟩
      | succ offset =>
        unfold splitAtByte? at h
        split at h
        · obtain ⟨⟨a, b⟩, hab, heq⟩ := Option.map_eq_some_iff.mp h
          cases heq
          obtain ⟨rfl, hcount⟩ := ih hab
          exact ⟨rfl, by rw [byteCount]; omega⟩
        · cases h
  · rintro ⟨rfl, rfl⟩
    exact splitAtByte?_append front behind

end LayeredSite.Text
