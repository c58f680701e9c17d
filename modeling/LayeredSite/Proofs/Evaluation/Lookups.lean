import LayeredSite.Proofs.Cells.Passing
import LayeredSite.Proofs.Cells.Stored
import LayeredSite.Proofs.Evaluation.Application
import LayeredSite.Proofs.Evaluation.Scoping
import LayeredSite.Proofs.Evaluation.Steps

namespace LayeredSite

open Eval

variable {α β : Type} {f d t : Form} {p q q' r : Position} {k : String} {v w key : Value}
  {s s' : Scope} {cells cells' : Cells}

namespace Eval

theorem reading_bind (x : Reading α) (f : α → Reading β) :
    reading (x >>= f) = reading x >>= fun a => reading (f a) := by
  funext s cells
  rw [bind_run, reading_run, reading_run, Option.bind_map]
  change ((x cells).bind fun r => f r.1 r.2).map _ = _
  rw [Option.map_bind]
  exact Option.bind_congr fun r _ => (reading_run (f r.1) s r.2).symm

/-- An error is reported at the same position whichever of two readings it comes from. -/
theorem reported_bind (p : Position) (x : Reading Outcome) (f : Value → Reading Outcome) :
    (reported p x >>= fun v => reported p (f v)) =
      reported p (do
        match ← x with
        | .ok v => f v
        | .error e => pure (.error e)) := by
  simp only [reported, reading_bind, bind_assoc]
  refine congrArg _ (funext fun o => ?_)
  cases o with
  | ok v => rfl
  | error e => rfl

theorem resolve_bind_field (v key : Value) (p : Position) :
    (resolve v p >>= fun w => reported p (w.field key)) = reported p (v.field key) := by
  rw [resolve, reported_bind]
  exact congrArg (reported p) (Value.resolve_field v key)

end Eval

theorem Call.callNamed_get (hkey : key.kind ≠ .deferred) (v : Value) (p : Position) :
    callNamed "get" [v, key] p = reported p (v.field key) := by
  have hrest : ∀ w ∈ [key], w.kind ≠ .deferred := by simpa using hkey
  rw [callNamed, resolveAll_cons, resolveAll_of_kind hrest, bind_assoc, ← resolve_bind_field]
  rfl

theorem Call.callNamed_get_default (hkey : key.kind ≠ .deferred) (hw : w.kind ≠ .deferred)
    (v : Value) (p : Position) :
    callNamed "get" [v, key, w] p = do
      match ← reported p (v.field key) with
      | .nil => return w
      | found => return found := by
  have hrest : ∀ v ∈ [key, w], v.kind ≠ .deferred := by simpa using ⟨hkey, hw⟩
  rw [callNamed, resolveAll_cons, resolveAll_of_kind hrest, bind_assoc, ← resolve_bind_field,
    bind_assoc]
  rfl

theorem eval_keyword (t : Form) (p q : Position) (k : String) :
    eval (.call p [.literal q (.keyword k), t]) =
      eval t >>= fun v => reported p (v.field (.keyword k)) := rfl

theorem evalEach_get (t : Form) (p q : Position) (k : String) :
    (evalEach [t, .literal q (.keyword k)] >>= fun values => Call.callNamed "get" values p) =
      eval t >>= fun v => reported p (v.field (.keyword k)) := by
  have hkey : (Value.keyword k).kind ≠ .deferred := by simp [Value.kind]
  simp [evalEach, eval, Literal.toValue, Call.callNamed_get hkey]

/-- The form has this value, which is not deferred, and has it at once, without a cell being
computed for it. -/
structure Form.AtOnce (f : Form) (v : Value) (s : Scope) (cells : Cells) : Prop where
  kind : v.kind ≠ .deferred
  run : eval f s cells = some ((.ok v, s), cells)

theorem repeats_evaluation : EvalRules (fun _ => True) fun {α} (x : Eval α) =>
    ∀ s, Repeats anything (x s) :=
  Repeats.rules.evaluation fun _ => ⟨0, trivial⟩

/-- A value that a form has at once it still has after evaluations that restore their scope. -/
theorem Form.AtOnce.after (h : f.AtOnce w s cells) {x : Eval α} (hx : Repeats anything (x s))
    (hscope : Alike x s s) {r : Except EvalError α} (hrun : x s cells = some ((r, s'), cells')) :
    f.AtOnce w s' cells' := by
  obtain rfl := hscope.scope_eq hrun
  have hcells := Cells.leaves_of_run hx.along hrun
  exact ⟨h.kind, (repeats_evaluation.eval f (fun _ _ => trivial) s').again h.run hcells⟩

theorem eval_keyword_default (t d : Form) (p q : Position) (k : String) :
    eval (.call p [.literal q (.keyword k), t, d]) = eval t >>= fun v => do
      match ← reported p (v.field (.keyword k)) with
      | .nil => eval d
      | found => return found := rfl

/-- A default that has its value at once may be evaluated before the field is looked up. -/
theorem eval_get_default_run (h : ∀ v s' cells',
    eval t s cells = some ((.ok v, s'), cells') → ∃ w, d.AtOnce w s' cells') :
    eval (.call p [.symbol q "get", t, .literal r (.keyword k), d]) s cells =
      eval (.call p [.literal q' (.keyword k), t, d]) s cells := by
  have hkey : (Value.keyword k).kind ≠ .deferred := by simp [Value.kind]
  rw [eval_call rfl, eval_keyword_default]
  simp only [evalEach, eval, Literal.toValue, pure_bind, bind_assoc]
  refine bind_run_congr fun v s₁ cells₁ ht => ?_
  -- `get` evaluates the default here, and the keyword only if it finds nil, behind the lookup.
  obtain ⟨w, hw⟩ := h v s₁ cells₁ ht
  rw [bind_of_ok hw.run, Call.callNamed_get_default hkey hw.kind]
  refine bind_run_congr fun found s₂ cells₂ hfound => ?_
  have hlater : d.AtOnce w s₂ cells₂ := by
    refine hw.after ?_ (alike_calls.reported rfl (.reading _)) hfound
    exact repeats_evaluation.calls.reported ⟨rfl, trivial⟩ (repeats_evaluation.field v _) s₁
  cases found with
  | nil => exact hlater.run.symm
  | _ => rfl

/-- A field is looked up in the value of a form in four ways: by a call of its keyword, by `get`,
and by applying either to the form and nil. At one position they are the same computation, whose
runs have the same result and leave the same cells. With a default that has its value at once, where
the run begins or where it has evaluated the form, the keyword and `get` agree likewise. -/
theorem field_lookups_agree (k : String) (t : Form) (p : Position) :
    (∀ q₁ q₂ q₃ q₄ g k₂ k₃ k₄ n₃ n₄ : Position,
      eval (.call p [.symbol q₂ "get", t, .literal k₂ (.keyword k)]) =
        eval (.call p [.literal q₁ (.keyword k), t]) ∧
      eval (.call p [.symbol q₃ "apply", .literal k₃ (.keyword k), t, .literal n₃ .nil]) =
        eval (.call p [.literal q₁ (.keyword k), t]) ∧
      eval (.call p [.symbol q₄ "apply", .symbol g "get", t, .literal k₄ (.keyword k),
          .literal n₄ .nil]) =
        eval (.call p [.literal q₁ (.keyword k), t])) ∧
    ∀ (d : Form) (s : Scope) (cells : Cells) (q₁ q₂ k₂ : Position),
      ((∃ w, d.AtOnce w s cells) ∨ ∀ v s' cells',
        eval t s cells = some ((.ok v, s'), cells') → ∃ w, d.AtOnce w s' cells') →
      eval (.call p [.symbol q₂ "get", t, .literal k₂ (.keyword k), d]) s cells =
        eval (.call p [.literal q₁ (.keyword k), t, d]) s cells := by
  refine ⟨fun q₁ q₂ q₃ q₄ g k₂ k₃ k₄ n₃ n₄ => ⟨?_, ?_, ?_⟩, fun d s cells q₁ q₂ k₂ h => ?_⟩
  · rw [eval_call rfl, evalEach_get, eval_keyword]
  · change eval (.call p (.symbol q₃ "apply" :: .literal k₃ (.keyword k) ::
      ([t] ++ [.literal n₃ .nil]))) = _
    rw [eval_apply (List.concat_ne_nil _ _), evalArguments_nil, eval_keyword]
    simp [evalEach, applyForm]
  · change eval (.call p (.symbol q₄ "apply" :: .symbol g "get" ::
      ([t, .literal k₄ (.keyword k)] ++ [.literal n₄ .nil]))) = _
    rw [eval_apply_nil rfl, evalEach_get, eval_keyword]
  · refine eval_get_default_run fun v s' cells' ht => ?_
    rcases h with ⟨w, hw⟩ | hafter
    · exact ⟨w, hw.after (repeats_evaluation.eval t (fun _ _ => trivial) s)
        (alike_eval t (.refl _ s)) ht⟩
    · exact hafter v s' cells' ht

/-- `(:title post "Untitled")` and `(get    post :title "Untitled")` on a post that has not been
read yet and has no title. -/
theorem untitled_post_agrees :
    eval (.call ⟨1, 1⟩ [.literal ⟨1, 2⟩ (.keyword "title"), .symbol ⟨1, 9⟩ "post",
        .literal ⟨1, 21⟩ (.str "Untitled")])
      [("post", .deferred 0)] [⟨.pending (.outcome (.ok (.map []))), 0⟩] =
        some ((.ok (.str "Untitled"), [("post", .deferred 0)]), [⟨.done (.ok (.map [])), 1⟩]) ∧
    eval (.call ⟨1, 1⟩ [.symbol ⟨1, 2⟩ "get", .symbol ⟨1, 9⟩ "post",
        .literal ⟨1, 14⟩ (.keyword "title"), .literal ⟨1, 21⟩ (.str "Untitled")])
      [("post", .deferred 0)] [⟨.pending (.outcome (.ok (.map []))), 0⟩] =
    eval (.call ⟨1, 1⟩ [.literal ⟨1, 2⟩ (.keyword "title"), .symbol ⟨1, 9⟩ "post",
        .literal ⟨1, 21⟩ (.str "Untitled")])
      [("post", .deferred 0)] [⟨.pending (.outcome (.ok (.map []))), 0⟩] :=
  ⟨rfl, (field_lookups_agree "title" (.symbol ⟨1, 9⟩ "post") ⟨1, 1⟩).2 _ _ _ ⟨1, 2⟩ ⟨1, 2⟩ ⟨1, 14⟩
    (.inl ⟨.str "Untitled", by decide, rfl⟩)⟩

end LayeredSite
