import LayeredSite.Proofs.Cells.Foreseen
import LayeredSite.Proofs.Evaluation.Forced
import LayeredSite.Proofs.Evaluation.Scoping

namespace LayeredSite

open Eval

variable {α : Type} {c a b : Form} {p q r p' q' r' : Position} {v : Value} {s s' : Scope}
  {cells cells' : Cells}

namespace Eval

end Eval

theorem eval_if (c a b : Form) (p q : Position) :
    eval (.call p [.symbol q "if", c, a, b]) =
      eval c >>= fun v => if v.truthy then eval a else eval b := rfl

theorem Call.callNamed_not (v : Value) (p : Position) :
    callNamed "not" [v] p = resolve v p >>= fun w => pure (.bool !w.truthy) := by
  rw [callNamed, resolveAll_cons, bind_assoc]
  rfl

/-- The negated condition is read, and its truth chooses between the same two forms. -/
theorem eval_if_not (c a b : Form) (p q r r' : Position) :
    eval (.call p [.symbol q "if", .call r [.symbol r' "not", c], b, a]) =
      eval c >>= fun v => resolve v r >>= fun w => if w.truthy then eval a else eval b := by
  have htruth (negated : Bool) : (Value.bool negated).truthy = negated := rfl
  rw [eval_if, eval_call rfl]
  simp only [evalEach, pure_bind, bind_assoc, Call.callNamed_not, htruth]
  refine congrArg _ (funext fun v => congrArg _ (funext fun w => ?_))
  cases w.truthy <;> rfl

/-- A value that is not deferred is not read, so both test the same one. -/
theorem conditionals_run_eq
    (h : ∀ v s' cells', eval c s cells = some ((.ok v, s'), cells') → v.kind ≠ .deferred) :
    eval (.call p [.symbol q "if", c, a, b]) s cells =
      eval (.call p' [.symbol q' "if", .call r [.symbol r' "not", c], b, a]) s cells := by
  rw [eval_if, eval_if_not]
  refine bind_run_congr fun v s' cells' hrun => ?_
  rw [resolve_of_kind (h v s' cells' hrun), pure_bind]

/-- No condition is deferred where deferred values stand only as entries and attributes, which are
read when they are looked up. -/
theorem conditionals_run_eq_of_forced {outcomes : List Outcome} (h : Unlinked outcomes)
    (hcells : cells.Hold outcomes) (hs : s.Forced) :
    eval (.call p [.symbol q "if", c, a, b]) s cells =
      eval (.call p' [.symbol q' "if", .call r [.symbol r' "not", c], b, a]) s cells := by
  obtain ⟨o, ⟨hforced, -⟩, hrun⟩ := gives_eval h c s hs
  obtain ⟨t, -, hc⟩ := hrun cells hcells
  refine conditionals_run_eq fun v s' cells' hv => ?_
  rw [hc] at hv
  cases hv
  exact (hforced v rfl).kind_ne

def waiting (v : Value) : Cells := [⟨.pending (.outcome (.ok v)), 0⟩]

end LayeredSite
