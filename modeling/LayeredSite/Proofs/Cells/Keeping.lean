import LayeredSite.Proofs.Cells.Loaded
import LayeredSite.Proofs.Cells.Stored

namespace LayeredSite

variable {s t u : Cells} {c : CellId} {n : ℕ} {o o' : Outcome}

/-- A transformer that does nothing with cells but read them. -/
def Transformer.Reads (f : Transformer) : Prop :=
  ∀ {R : Cells → Cells → Prop}, Cells.Course R → ∀ v, Along R anything (f v)

namespace Cells

/-- The outcome of the cell is known, whether it has been read or not. -/
def Fixed (cells : Cells) (c : CellId) (o : Outcome) : Prop :=
  cells.state? c = some (.pending (.outcome o)) ∨ cells.state? c = some (.done o)

theorem Fixed.of_forceWithin (h : s.Fixed c o) (hforce : forceWithin n c s = some (o', t)) :
    o' = o := by
  cases n with
  | zero => cases hforce
  | succ n =>
    rcases h with h | h
    · obtain ⟨u, hfollow, -⟩ := (forceWithin_pending h).mp hforce
      exact (Reading.pure_eq_some_iff.mp hfollow).1.symm
    · rw [forceWithin_done n h] at hforce
      cases hforce
      rfl

theorem Fixed.of_force (h : s.Fixed c o) (hforce : force c s = some (o', t)) : o' = o :=
  h.of_forceWithin hforce

def Keeps (s t : Cells) : Prop := ∀ c o, s.Fixed c o → t.Fixed c o

theorem course_keeps : Course Keeps where
  refl _ _ _ h := h
  trans h h' c o ho := h' c o (h c o ho)
  run := by
    intro s t c r n o hstate hfollow hrun d o' hd
    by_cases hcd : c = d
    · -- The recipe is the outcome itself, so nothing else can be stored.
      subst hcd
      refine .inr ?_
      have hrecipe : r = .outcome o' := by
        rcases hd with hd | hd
        · exact CellState.pending.inj (Option.some.inj (hstate.symm.trans hd))
        · cases hstate.symm.trans hd
      subst hrecipe
      obtain ⟨rfl, rfl⟩ := Reading.pure_eq_some_iff.mp hfollow
      exact state?_finish_self (state?_start_self hstate) o'
    · have hstart : (s.start c).Fixed d o' := by
        rwa [Fixed, state?_start, if_neg hcd]
      rw [Fixed, state?_finish, if_neg hcd]
      exact hrun d o' hstart

theorem keeps_add (s : Cells) (state : CellState) : s.Keeps (s.add state).2 := by
  intro c o h
  have hne : c ≠ s.length := by
    rintro rfl
    have hmissing : s.state? s.length = none := by simp [state?]
    rcases h with h | h <;> cases hmissing.symm.trans h
  rwa [Fixed, state?_add, if_neg hne]

/-- What is done with cells: others are made, and all are read, by templates, by transformers and by
the pages that come of both. -/
inductive Use : Cells → Cells → Prop
  | add (s : Cells) (state : CellState) : Use s (s.add state).2
  | force {s t : Cells} {c : CellId} {o : Outcome} : force c s = some (o, t) → Use s t
  | text {s t : Cells} {v : Value} {text : String} : v.text s = some (text, t) → Use s t
  | evaluate {s t : Cells} {f : Form} {scope : Scope} {r : Except EvalError Value × Scope} :
      eval f scope s = some (r, t) → Use s t
  | transform {s t : Cells} {f : Transformer} {v w : Value} : f.Reads → f v s = some (w, t) →
      Use s t
  | serialize {s t : Cells} {format : Option Dialect} {tree : Value}
      {r : Except TemplateError String} : Markup.serialize format tree s = some (r, t) → Use s t

theorem Use.keeps (h : s.Use t) : s.Keeps t := by
  have rules := Along.rules course_keeps
  cases h with
  | add state => exact keeps_add s state
  | force h => exact (Along.force course_keeps _ h).1
  | text h => exact (Along.text course_keeps _ h).1
  | evaluate h =>
    exact ((rules.evaluation fun _ => ⟨0, trivial⟩).eval _ (fun _ _ => trivial) _ h).1
  | transform hf h => exact (hf course_keeps _ h).1
  | serialize h => exact (rules.serialize _ (fun _ _ => ⟨0, trivial⟩) h).1

abbrev Since : Cells → Cells → Prop := Relation.ReflTransGen Use

theorem Since.keeps (h : s.Since t) : s.Keeps t := by
  induction h with
  | refl => exact course_keeps.refl s
  | tail _ huse ih => exact course_keeps.trans ih huse.keeps

end Cells
end LayeredSite
