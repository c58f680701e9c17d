import LayeredSite.Template.Error
import Mathlib.Data.List.Basic
import Mathlib.Data.List.Induction
import Mathlib.Data.Prod.Lex

namespace LayeredSite.Position

def advance (p : Position) (cs : List Char) : Position := cs.foldl Position.after p

theorem advance_line (p : Position) (cs : List Char) :
    (p.advance cs).line = p.line + cs.count '\n' := by
  induction cs generalizing p with
  | nil => rfl
  | cons c cs ih =>
    have hrest := ih (p.after c)
    rw [advance] at hrest ⊢
    rw [List.foldl_cons, hrest, after, List.count_cons]
    by_cases hc : c = '\n'
    · simp only [hc, if_true, BEq.rfl]
      omega
    · simp [hc]

/-- Behind a newline stands the first column of the next line. -/
theorem after_newline (p : Position) (cs : List Char) :
    (p.advance cs).after '\n' = ⟨p.line + cs.count '\n' + 1, 1⟩ := by
  rw [after, if_pos rfl, advance_line]

/-- The position behind a text that begins on a line, by its newlines and by the characters behind
the last of them. -/
def behind (n : ℕ) (before : List Char) : Position :=
  ⟨n + before.count '\n', 1 + (before.reverse.takeWhile (· ≠ '\n')).length⟩

/-- One more character in front moves a place as it moves the position. -/
def Follows (place : List Char → Position) : Prop :=
  ∀ before c, place (before ++ [c]) = (place before).after c

theorem follows_advance (p : Position) : Follows p.advance := by
  intro before c
  rw [advance, List.foldl_append]
  rfl

theorem follows_behind (n : ℕ) : Follows (behind n) := by
  intro before c
  rw [behind, behind, after, List.reverse_append, List.reverse_singleton, List.singleton_append,
    List.count_append]
  by_cases hc : c = '\n'
  · subst hc
    simp [Nat.add_assoc]
  · simp [hc, Nat.add_comm]

/-- Positions in reading order: by line, and by column within a line. -/
instance : LinearOrder Position :=
  LinearOrder.lift' (fun p => toLex (p.line, p.column)) fun p q h => by
    obtain ⟨hline, hcolumn⟩ := Prod.mk.inj (toLex.injective h)
    cases p
    cases q
    congr

theorem lt_iff {p q : Position} :
    p < q ↔ p.line < q.line ∨ p.line = q.line ∧ p.column < q.column :=
  Prod.Lex.lt_iff

theorem lt_after (p : Position) (c : Char) : p < p.after c := by
  rw [lt_iff, after]
  split
  · exact .inl (Nat.lt_succ_self _)
  · exact .inr ⟨rfl, Nat.lt_succ_self _⟩

/-- More text in front is a later place. -/
theorem Follows.lt {place : List Char → Position} (h : Follows place) (front : List Char)
    {cs : List Char} (hne : cs ≠ []) : place front < place (front ++ cs) := by
  induction cs using List.reverseRecOn with
  | nil => exact absurd rfl hne
  | append_singleton cs c ih =>
    rw [← List.append_assoc, h]
    have hlast := lt_after (place (front ++ cs)) c
    by_cases hcs : cs = []
    · subst hcs
      rwa [List.append_nil] at hlast ⊢
    · exact (ih hcs).trans hlast

theorem Follows.le {place : List Char → Position} (h : Follows place) (front cs : List Char) :
    place front ≤ place (front ++ cs) := by
  by_cases hcs : cs = []
  · rw [hcs, List.append_nil]
  · exact (h.lt front hcs).le

end LayeredSite.Position
