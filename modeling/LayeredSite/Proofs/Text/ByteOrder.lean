import Mathlib.Algebra.Order.Ring.Nat
import Mathlib.Data.List.Basic
import Mathlib.Data.String.Basic

namespace LayeredSite.Text

variable {v w : ℕ} {xs ys : List UInt8} {c d : Char} {s t : String}

def bytes (s : String) : List UInt8 := s.toUTF8.data.toList

theorem bytes_eq_flatMap (s : String) : bytes s = s.toList.flatMap String.utf8EncodeChar := by
  have hbytes := String.toByteArray_ofList (l := s.toList)
  rw [String.ofList_toList] at hbytes
  rw [bytes, String.toUTF8, hbytes, List.utf8Encode, List.data_toByteArray]

def lead (v : ℕ) : ℕ :=
  if v ≤ 127 then v
  else if v ≤ 2047 then v / 64 + 192
  else if v ≤ 65535 then v / 4096 + 224
  else v / 262144 + 240

def behind (v : ℕ) : ℕ :=
  if v ≤ 127 then 0 else if v ≤ 2047 then 1 else if v ≤ 65535 then 2 else 3

/-- The last digits of a code point to the base 64, marked as continuation bytes. -/
def continuation : ℕ → ℕ → List UInt8
  | 0, _ => []
  | k + 1, v => UInt8.ofNat (v / 64 ^ k % 64 + 128) :: continuation k v

theorem codePoint_lt (c : Char) : c.toNat < 1114112 := by
  have hvalid := c.valid
  rw [UInt32.isValidChar, Nat.isValidChar] at hvalid
  change c.val.toNat < 1114112
  omega

theorem utf8EncodeChar_eq (c : Char) : String.utf8EncodeChar c =
    UInt8.ofNat (lead c.toNat) :: continuation (behind c.toNat) c.toNat := by
  have hbound := codePoint_lt c
  have hval : c.val.toNat = c.toNat := rfl
  rw [String.utf8EncodeChar, lead, behind]
  rw [hval]
  split_ifs with h1 h2 h3
  · rfl
  · rw [Nat.mod_eq_of_lt (by omega : c.toNat / 64 < 32)]
    simp [continuation]
  · rw [Nat.mod_eq_of_lt (by omega : c.toNat / 4096 < 16)]
    simp [continuation]
  · rw [Nat.mod_eq_of_lt (by omega : c.toNat / 262144 < 8)]
    simp [continuation]

/-- A smaller code point has a smaller first byte, or the same one and smaller digits behind it. -/
theorem lead_lt_or (h : v < w) : lead v < lead w ∨
    lead v = lead w ∧ behind v = behind w ∧ v % 64 ^ behind w < w % 64 ^ behind w := by
  unfold lead behind
  split_ifs <;> omega

theorem ofNat_cons_lt {a b : ℕ} (hb : b < 256) (h : a < b ∨ a = b ∧ xs < ys) :
    UInt8.ofNat a :: xs < UInt8.ofNat b :: ys := by
  rw [List.cons_lt_cons_iff, UInt8.lt_iff_toNat_lt]
  rcases h with h | ⟨rfl, h⟩
  · rw [UInt8.toNat_ofNat', UInt8.toNat_ofNat', Nat.mod_eq_of_lt (by omega), Nat.mod_eq_of_lt hb]
    exact .inl h
  · exact .inr ⟨rfl, h⟩

theorem continuation_append_lt {k : ℕ} (h : v % 64 ^ k < w % 64 ^ k) (xs ys : List UInt8) :
    continuation k v ++ xs < continuation k w ++ ys := by
  induction k with
  | zero =>
    rw [Nat.pow_zero, Nat.mod_one, Nat.mod_one] at h
    exact absurd h (Nat.lt_irrefl 0)
  | succ k ih =>
    rw [Nat.pow_succ, Nat.mod_mul, Nat.mod_mul] at h
    have hrest : v % 64 ^ k < 64 ^ k := Nat.mod_lt _ (Nat.pow_pos (by decide))
    have hrest' : w % 64 ^ k < 64 ^ k := Nat.mod_lt _ (Nat.pow_pos (by decide))
    have hdigit : w / 64 ^ k % 64 < 64 := Nat.mod_lt _ (by decide)
    refine ofNat_cons_lt (by omega) ?_
    rcases lt_trichotomy (v / 64 ^ k % 64) (w / 64 ^ k % 64) with hlt | heq | hgt
    · exact .inl (by omega)
    · rw [heq] at h
      exact .inr ⟨by rw [heq], ih (by omega)⟩
    · have hmore := Nat.mul_le_mul_left (64 ^ k) (Nat.succ_le_of_lt hgt)
      rw [Nat.mul_succ] at hmore
      omega

theorem utf8EncodeChar_append_lt (h : c < d) (xs ys : List UInt8) :
    String.utf8EncodeChar c ++ xs < String.utf8EncodeChar d ++ ys := by
  have hbound := codePoint_lt d
  have hlead : lead d.toNat < 256 := by
    unfold lead
    split_ifs <;> omega
  have hcode : c.toNat < d.toNat := h
  rw [utf8EncodeChar_eq, utf8EncodeChar_eq, List.cons_append, List.cons_append]
  refine ofNat_cons_lt hlead ((lead_lt_or hcode).imp_right ?_)
  rintro ⟨heq, hbehind, hlt⟩
  rw [hbehind]
  exact ⟨heq, continuation_append_lt hlt xs ys⟩

theorem bytes_lt_of_lt (h : s < t) : bytes s < bytes t := by
  rw [bytes_eq_flatMap, bytes_eq_flatMap]
  have hlex : s.toList < t.toList := h
  generalize s.toList = cs at hlex
  generalize t.toList = ds at hlex
  induction cs generalizing ds with
  | nil =>
    cases ds with
    | nil => exact absurd hlex (List.not_lt_nil _)
    | cons d ds =>
      rw [List.flatMap_nil, List.flatMap_cons, utf8EncodeChar_eq, List.cons_append]
      exact List.nil_lt_cons _ _
  | cons c cs ih =>
    cases ds with
    | nil => exact absurd hlex (List.not_lt_nil _)
    | cons d ds =>
      rw [List.flatMap_cons, List.flatMap_cons]
      rcases List.cons_lt_cons_iff.mp hlex with hlt | ⟨rfl, hrest⟩
      · exact utf8EncodeChar_append_lt hlt _ _
      · exact List.append_left_lt (ih _ hrest)

end LayeredSite.Text
