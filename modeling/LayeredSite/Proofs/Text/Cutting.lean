import LayeredSite.Text.Blank
import LayeredSite.Text.Cut
import Mathlib.Data.List.DropRight

namespace LayeredSite.Text

variable {c : Char} {cs blanks : List Char}

theorem byteCount_toList (s : String) : byteCount s.toList = s.utf8ByteSize := by
  have hcount : ∀ cs : List Char, byteCount cs = (String.ofList cs).utf8ByteSize := by
    intro cs
    induction cs with
    | nil => rfl
    | cons c rest ih =>
      rw [byteCount, ih, String.ofList_cons, String.utf8ByteSize_append,
        String.utf8ByteSize_singleton]
  rw [hcount, String.ofList_toList]

/-- A run ends where the next character is not of its class. -/
theorem takeWhile_append {p : Char → Bool} {front behind : List Char} (h : ∀ c ∈ front, p c = true)
    (hnext : ∀ c ∈ behind.head?, p c = false) : (front ++ behind).takeWhile p = front := by
  have hnone : behind.takeWhile p = [] := by
    cases behind with
    | nil => rfl
    | cons c behind => exact List.takeWhile_cons_of_neg (by simp [hnext c rfl])
  rw [List.takeWhile_append_of_pos h, hnone, List.append_nil]

theorem splitOn_ne_nil (p : Char → Bool) (cs : List Char) : splitOn p cs ≠ [] := by
  cases cs with
  | nil => simp [splitOn]
  | cons c cs =>
    rw [splitOn]
    split
    · simp
    · split <;> simp

theorem splitOn_cons {p : Char → Bool} {piece : List Char} {more : List (List Char)}
    (hc : p c = false) (h : splitOn p cs = piece :: more) :
    splitOn p (c :: cs) = (c :: piece) :: more := by
  rw [splitOn, if_neg (by simp [hc]), h]

/-- A text is cut at a character of the class whatever stands in front of it. -/
theorem splitOn_append {p : Char → Bool} (hc : p c = true) (front behind : List Char) :
    splitOn p (front ++ c :: behind) = splitOn p front ++ splitOn p behind := by
  induction front with
  | nil => simp [splitOn, hc]
  | cons d front ih =>
    cases hd : p d
    · obtain ⟨piece, more, hpiece⟩ := List.exists_cons_of_ne_nil (splitOn_ne_nil p front)
      rw [hpiece, List.cons_append] at ih
      rw [List.cons_append, splitOn_cons hd ih, splitOn_cons hd hpiece, List.cons_append]
    · rw [List.cons_append, splitOn, if_pos hd, ih, splitOn, if_pos hd, List.cons_append]

theorem splitOn_of_forall {p : Char → Bool} (h : ∀ c ∈ cs, p c = false) : splitOn p cs = [cs] := by
  induction cs with
  | nil => rfl
  | cons c cs ih =>
    obtain ⟨hc, hcs⟩ := List.forall_mem_cons.mp h
    exact splitOn_cons hc (ih hcs)

theorem splitOn_append_cons {p : Char → Bool} (h : ∀ c ∈ cs, p c = false) (hc : p c = true)
    (rest : List Char) : splitOn p (cs ++ c :: rest) = cs :: splitOn p rest := by
  rw [splitOn_append hc, splitOn_of_forall h, List.singleton_append]

theorem trimStart_append_blank (h : ∀ c ∈ blanks, isBlank c = true) (cs : List Char) :
    trimStart (blanks ++ cs) = trimStart cs :=
  List.dropWhile_append_of_pos h

theorem trimEnd_append_blank (h : ∀ c ∈ blanks, isBlank c = true) (cs : List Char) :
    trimEnd (cs ++ blanks) = trimEnd cs := by
  have hreverse : ∀ c ∈ blanks.reverse, isBlank c = true := fun c hc =>
    h c (List.mem_reverse.mp hc)
  rw [trimEnd, List.reverse_append, List.dropWhile_append_of_pos hreverse, trimEnd]

theorem exists_trimEnd_append (s : List Char) :
    ∃ blanks, (∀ c ∈ blanks, isBlank c = true) ∧ trimEnd s ++ blanks = s := by
  refine ⟨(s.reverse.takeWhile isBlank).reverse, fun c hc => ?_, ?_⟩
  · exact List.mem_takeWhile_imp (List.mem_reverse.mp hc)
  · rw [trimEnd, ← List.reverse_append, List.takeWhile_append_dropWhile, List.reverse_reverse]

/-- The end of a text is seen behind its first character. -/
theorem trimEnd_cons (c : Char) (s : List Char) : trimEnd (c :: s) = trimEnd (c :: trimEnd s) := by
  obtain ⟨blanks, hblanks, hsplit⟩ := exists_trimEnd_append s
  conv_lhs => rw [← hsplit, ← List.cons_append, trimEnd_append_blank hblanks]

theorem trimStart_append_cons (h : isBlank c = false) (front behind : List Char) :
    trimStart (front ++ c :: behind) = trimStart front ++ c :: behind := by
  induction front with
  | nil => simp [trimStart, h]
  | cons d front ih =>
    rw [trimStart] at ih ⊢
    rw [List.cons_append, List.dropWhile_cons, ih, trimStart, trimStart, List.dropWhile_cons]
    split <;> rfl

theorem reverse_trimStart (cs : List Char) : (trimStart cs).reverse = trimEnd cs.reverse := by
  rw [trimEnd, List.reverse_reverse, trimStart]

theorem trimEnd_append_cons (h : isBlank c = false) (front behind : List Char) :
    trimEnd (front ++ c :: behind) = front ++ c :: trimEnd behind := by
  have hreverse := trimStart_append_cons h behind.reverse front.reverse
  have hsplit : front ++ c :: behind = (behind.reverse ++ c :: front.reverse).reverse := by simp
  rw [hsplit, ← reverse_trimStart, hreverse]
  simp [trimEnd, trimStart]

theorem trim_append_cons (h : isBlank c = false) (front behind : List Char) :
    trim (front ++ c :: behind) = trimStart front ++ c :: trimEnd behind := by
  rw [trim, trimStart_append_cons h, trimEnd_append_cons h]

theorem trim_subset (cs : List Char) : trim cs ⊆ cs := by
  intro c hc
  have hstart := (List.dropWhile_sublist isBlank).subset (List.mem_reverse.mp hc)
  exact (List.dropWhile_sublist isBlank).subset (List.mem_reverse.mp hstart)

/-- A text is blank, or it has a character that is not. -/
theorem blank_or_exists (cs : List Char) : (∀ c ∈ cs, isBlank c = true) ∨
    ∃ front c behind, cs = front ++ c :: behind ∧ isBlank c = false := by
  by_cases hall : cs.all isBlank = true
  · exact .inl (List.all_eq_true.mp hall)
  · obtain ⟨c, hc, hblank⟩ := List.all_eq_false.mp (Bool.not_eq_true _ ▸ hall)
    obtain ⟨front, behind, rfl⟩ := List.append_of_mem hc
    exact .inr ⟨front, c, behind, rfl, Bool.not_eq_true _ ▸ hblank⟩

theorem trim_of_blank (h : ∀ c ∈ cs, isBlank c = true) : trim cs = [] := by
  have hstart := trimStart_append_blank h []
  rw [List.append_nil] at hstart
  rw [trim, hstart]
  rfl

theorem trim_append_blank (h : ∀ c ∈ blanks, isBlank c = true) (cs : List Char) :
    trim (cs ++ blanks) = trim cs := by
  rcases blank_or_exists cs with hcs | ⟨front, c, behind, rfl, hc⟩
  · rw [trim_of_blank hcs, trim_of_blank fun c hc => (List.mem_append.mp hc).elim (hcs c) (h c)]
  · rw [List.append_assoc, List.cons_append, trim_append_cons hc, trim_append_cons hc,
      trimEnd_append_blank h]

theorem trim_trimStart (cs : List Char) : trim (trimStart cs) = trim cs := by
  rw [trim, trimStart, trimStart, List.dropWhile_idempotent, trim, trimStart]

theorem trim_trimEnd (cs : List Char) : trim (trimEnd cs) = trim cs := by
  rcases blank_or_exists cs with hcs | ⟨front, c, behind, rfl, hc⟩
  · have hend := trimEnd_append_blank hcs []
    rw [List.nil_append] at hend
    rw [hend, trim_of_blank hcs]
    rfl
  · rw [trimEnd_append_cons hc, trim_append_cons hc, trim_append_cons hc]
    exact congrArg (trimStart front ++ c :: ·) (List.rdropWhile_idempotent isBlank behind)

/-- A text that neither begins nor ends with a blank stays whole. -/
theorem trim_eq_self (hhead : ∀ c ∈ cs.head?, isBlank c = false)
    (hlast : ∀ c ∈ cs.getLast?, isBlank c = false) : trim cs = cs := by
  have hstart : ∀ cs : List Char, (∀ c ∈ cs.head?, isBlank c = false) →
      cs.dropWhile isBlank = cs := by
    intro cs h
    cases cs with
    | nil => rfl
    | cons c cs => exact List.dropWhile_cons_of_neg (by simp [h c rfl])
  rw [← List.head?_reverse] at hlast
  rw [trim, trimStart, hstart cs hhead, trimEnd, hstart _ hlast, List.reverse_reverse]

section Parts

variable {α β : Type} {f g : α → List β} {as : List α}

theorem length_flatMap_le (h : ∀ a ∈ as, (f a).length ≤ (g a).length) :
    (as.flatMap f).length ≤ (as.flatMap g).length := by
  induction as with
  | nil => exact le_rfl
  | cons a as ih =>
    obtain ⟨ha, has⟩ := List.forall_mem_cons.mp h
    rw [List.flatMap_cons, List.flatMap_cons, List.length_append, List.length_append]
    exact Nat.add_le_add ha (ih has)

/-- Where one map never gives more than another, the whole is the same only if each part is. -/
theorem flatMap_eq_iff (h : ∀ a ∈ as, (f a).length ≤ (g a).length) :
    as.flatMap f = as.flatMap g ↔ ∀ a ∈ as, f a = g a := by
  refine ⟨fun heq => ?_, List.flatMap_congr⟩
  induction as with
  | nil => simp
  | cons a as ih =>
    obtain ⟨ha, has⟩ := List.forall_mem_cons.mp h
    rw [List.flatMap_cons, List.flatMap_cons] at heq
    have hlength := congrArg List.length heq
    have hmore := length_flatMap_le has
    rw [List.length_append, List.length_append] at hlength
    obtain ⟨hfirst, hrest⟩ := List.append_inj heq (by omega)
    exact List.forall_mem_cons.mpr ⟨hfirst, ih has hrest⟩

end Parts

end LayeredSite.Text
