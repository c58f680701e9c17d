import LayeredSite.Proofs.Evaluation.Functions
import LayeredSite.Proofs.Rendering

namespace LayeredSite

namespace Eval

/-- Two runs end with the same value or with the same fault, in whatever place, and leave the same
scope and cells; or neither ends. -/
inductive SameButPlace {α : Type} : Option (Ending α) → Option (Ending α) → Prop
  | endless : SameButPlace none none
  | value (a : α) (s : Scope) (cells : Cells) :
      SameButPlace (some ((.ok a, s), cells)) (some ((.ok a, s), cells))
  | fault (p q : Position) (fault : EvalFault) (s : Scope) (cells : Cells) :
      SameButPlace (some ((.error ⟨p, fault⟩, s), cells)) (some ((.error ⟨q, fault⟩, s), cells))

namespace SameButPlace

variable {α β : Type}

theorem refl (o : Option (Ending α)) : SameButPlace o o := by
  rcases o with _ | ⟨⟨⟨p, fault⟩ | a, s⟩, cells⟩
  · exact .endless
  · exact .fault p p fault s cells
  · exact .value a s cells

theorem sequence {x y : Eval α} {f g : α → Eval β}
    (h : ∀ s cells, SameButPlace (x s cells) (y s cells))
    (hf : ∀ a s cells, SameButPlace (f a s cells) (g a s cells)) (s : Scope) (cells : Cells) :
    SameButPlace ((x >>= f) s cells) ((y >>= g) s cells) := by
  have hfirst := h s cells
  rw [bind_run, bind_run]
  generalize x s cells = o at hfirst ⊢
  generalize y s cells = o' at hfirst ⊢
  cases hfirst with
  | endless => exact .endless
  | value a s' cells' => exact hf a s' cells'
  | fault p q fault s' cells' => exact .fault p q fault s' cells'

/-- Where a function is called makes no other difference. -/
theorem calls : CallRules (fun _ _ => True) fun {α} (x y : Eval α) =>
    ∀ s cells, SameButPlace (x s cells) (y s cells) where
  result _ _ _ := refl _
  fail fault _ s cells := .fault _ _ fault s cells
  sequence := sequence
  text _ _ _ := refl _
  texts _ _ _ := refl _
  resolve _ _ _ := refl _
  field _ _ _ _ := refl _

end SameButPlace

end Eval

open Eval

theorem evalEach_append (a b : List Form) :
    evalEach (a ++ b) = do
      let vs ← evalEach a
      return vs ++ (← evalEach b) := by
  induction a with
  | nil => simp [evalEach]
  | cons f a ih => simp [evalEach, ih]

theorem evalArguments_cons (f : Form) {args : List Form} (h : args ≠ []) :
    evalArguments (f :: args) = do
      let v ← eval f
      return v :: (← evalArguments args) := by
  rw [evalArguments]
  exact h

theorem evalArguments_append (lead : List Form) (last : Form) :
    evalArguments (lead ++ [last]) = do
      let vs ← evalEach lead
      let v ← eval last
      return vs ++ (← spreadItems last.position (← resolve v last.position)) := by
  induction lead with
  | nil => simp [evalEach, evalArguments]
  | cons f lead ih =>
    rw [List.cons_append, evalArguments_cons f (List.concat_ne_nil last lead), ih]
    simp [evalEach]

theorem Eval.resolve_of_kind {v : Value} (h : v.kind ≠ .deferred) (p : Position) :
    resolve v p = pure v := by
  rw [Eval.resolve, Value.resolve_of_kind h]
  rfl

theorem Eval.resolveAll_cons (v : Value) (vs : List Value) (p : Position) :
    resolveAll (v :: vs) p = do
      let w ← resolve v p
      return w :: (← resolveAll vs p) := by
  rw [resolveAll, List.mapM_cons]
  rfl

theorem Eval.resolveAll_of_kind {vs : List Value} (h : ∀ v ∈ vs, v.kind ≠ .deferred)
    (p : Position) : resolveAll vs p = pure vs := by
  induction vs with
  | nil => rfl
  | cons v vs ih =>
    obtain ⟨hv, hvs⟩ := List.forall_mem_cons.mp h
    rw [resolveAll_cons, resolve_of_kind hv, ih hvs]
    rfl

theorem evalArguments_nil (args : List Form) (p : Position) :
    evalArguments (args ++ [.literal p .nil]) = evalEach args := by
  have hnil : resolve .nil p = pure .nil := resolve_of_kind (by decide) p
  rw [evalArguments_append]
  simp [eval, Literal.toValue, Form.position, hnil, spreadItems]

section

variable {p q r : Position} {name : String}

theorem eval_call (h : Special.ofName? name = none) (args : List Form) :
    eval (.call p (.symbol q name :: args)) =
      evalEach args >>= fun values => Call.callNamed name values p := by
  simp [eval, evalCall, h]

theorem eval_apply {args : List Form} (hargs : args ≠ []) (f : Form) :
    eval (.call p (.symbol q "apply" :: f :: args)) =
      evalArguments args >>= fun values => applyForm p values f := by
  have hempty : args.isEmpty = false := List.isEmpty_eq_false_iff.mpr hargs
  have hspecial : Special.ofName? "apply" = some .applyForm := rfl
  simp [eval, evalCall, evalApply, hspecial, hempty]

theorem applyForm_symbol (h : Special.ofName? name = none) (values : List Value) :
    applyForm p values (.symbol q name) = Call.callNamed name values p := by
  simp [applyForm, h]

theorem eval_list (args : List Form) :
    eval (.call p (.symbol q "list" :: args)) = do
      return .list (← resolveAll (← evalEach args) p) := by
  rw [eval_call rfl]
  rfl

/-- Nothing is spread behind the arguments, so the function is called with them. -/
theorem eval_apply_nil (h : Special.ofName? name = none) (args : List Form) (q' r : Position) :
    eval (.call p (.symbol q "apply" :: .symbol q' name :: (args ++ [.literal r .nil]))) =
      evalEach args >>= fun values => Call.callNamed name values p := by
  rw [eval_apply (List.concat_ne_nil _ _), evalArguments_nil]
  simp only [applyForm_symbol h]

/-- A spread list is evaluated as the arguments in it are, which are then read where it stands. -/
theorem evalArguments_list (lead spread : List Form) :
    evalArguments (lead ++ [.call p (.symbol q "list" :: spread)]) = do
      let vs ← evalEach lead
      let ws ← evalEach spread
      return vs ++ (← resolveAll ws p) := by
  have hlist (vs : List Value) (p : Position) : resolve (.list vs) p = pure (.list vs) :=
    resolve_of_kind (by simp [Value.kind]) p
  rw [evalArguments_append, eval_list]
  simp [hlist, spreadItems]

/-- Arguments that are not deferred may stand in a spread list. -/
theorem evalArguments_list_run {lead spread : List Form} {s : Scope} {cells : Cells}
    (h : ∀ values s' cells', evalEach (lead ++ spread) s cells = some ((.ok values, s'), cells') →
      ∀ v ∈ values, v.kind ≠ .deferred) :
    evalArguments (lead ++ [.call p (.symbol q "list" :: spread)]) s cells =
      evalEach (lead ++ spread) s cells := by
  rw [evalArguments_list, evalEach_append]
  -- Both routes evaluate all arguments before `list` reads those that it has got.
  refine bind_run_congr fun vs s' cells' hlead => bind_run_congr fun ws s'' cells'' hspread => ?_
  have hrun : evalEach (lead ++ spread) s cells = some ((.ok (vs ++ ws), s''), cells'') := by
    rw [evalEach_append, bind_of_ok hlead, bind_of_ok hspread]
    rfl
  have hvalues := h _ _ _ hrun
  rw [resolveAll_of_kind fun v hv => hvalues v (List.mem_append_right vs hv)]
  rfl

end

/-- Applying a function to some arguments and to a list of the others is calling it with all of
them: if the values of the arguments are not deferred, both give the same value or fail with the
same fault, at the same position if the two forms have the same, and leave the same cells. Applying
it to all arguments and nil is calling it in every respect, whatever the arguments are. -/
theorem apply_agrees_with_call {name : String} (h : Special.ofName? name = none) :
    (∀ (lead spread : List Form) (p p' q q' q'' r r' : Position) (s : Scope) (cells : Cells),
      (∀ values s' cells', evalEach (lead ++ spread) s cells = some ((.ok values, s'), cells') →
        ∀ v ∈ values, v.kind ≠ .deferred) →
      SameButPlace
        (eval (.call p (.symbol q "apply" :: .symbol q' name ::
          (lead ++ [.call r (.symbol r' "list" :: spread)]))) s cells)
        (eval (.call p' (.symbol q'' name :: (lead ++ spread))) s cells) ∧
      (p = p' →
        eval (.call p (.symbol q "apply" :: .symbol q' name ::
          (lead ++ [.call r (.symbol r' "list" :: spread)]))) s cells =
        eval (.call p' (.symbol q'' name :: (lead ++ spread))) s cells)) ∧
    ∀ (args : List Form) (p q q' q'' r : Position),
      eval (.call p (.symbol q "apply" :: .symbol q' name :: (args ++ [.literal r .nil]))) =
        eval (.call p (.symbol q'' name :: args)) := by
  refine ⟨fun lead spread p p' q q' q'' r r' s cells hvalues => ?_,
    fun args p q q' q'' r => ?_⟩
  -- At one position the two runs are the same; other positions change only the fault.
  · have hsame : eval (.call p (.symbol q "apply" :: .symbol q' name ::
          (lead ++ [.call r (.symbol r' "list" :: spread)]))) s cells =
        eval (.call p (.symbol q'' name :: (lead ++ spread))) s cells := by
      rw [eval_apply (List.concat_ne_nil _ _), eval_call h, bind_run, bind_run,
        evalArguments_list_run hvalues]
      simp only [applyForm_symbol h]
    refine ⟨?_, fun hp => hp ▸ hsame⟩
    rw [hsame, eval_call h, eval_call h]
    exact SameButPlace.sequence (fun _ _ => .refl _)
      (fun values => SameButPlace.calls.callNamed trivial name values) s cells
  · rw [eval_apply_nil h, eval_call h]

/-- `(apply + 1 (list 2 "a"))` in one place and `(+ 1 2 "a")` in another fail alike. -/
theorem apply_sum_agrees :
    eval (.call ⟨3, 5⟩ [.symbol ⟨3, 6⟩ "+", .literal ⟨1, 10⟩ (.int 1), .literal ⟨1, 18⟩ (.int 2),
      .literal ⟨1, 20⟩ (.str "a")]) [] [] =
        some ((.error ⟨⟨3, 5⟩, .notNumber .string⟩, []), []) ∧
    SameButPlace
      (eval (.call ⟨1, 1⟩ [.symbol ⟨1, 2⟩ "apply", .symbol ⟨1, 8⟩ "+", .literal ⟨1, 10⟩ (.int 1),
        .call ⟨1, 12⟩ [.symbol ⟨1, 13⟩ "list", .literal ⟨1, 18⟩ (.int 2),
          .literal ⟨1, 20⟩ (.str "a")]]) [] [])
      (eval (.call ⟨3, 5⟩ [.symbol ⟨3, 6⟩ "+", .literal ⟨1, 10⟩ (.int 1),
        .literal ⟨1, 18⟩ (.int 2), .literal ⟨1, 20⟩ (.str "a")]) [] []) := by
  refine ⟨rfl, ((apply_agrees_with_call rfl).1 [.literal ⟨1, 10⟩ (.int 1)]
    [.literal ⟨1, 18⟩ (.int 2), .literal ⟨1, 20⟩ (.str "a")] ⟨1, 1⟩ ⟨3, 5⟩ ⟨1, 2⟩ ⟨1, 8⟩ ⟨3, 6⟩
    ⟨1, 12⟩ ⟨1, 13⟩ [] [] fun values s' cells' hrun => ?_).1⟩
  cases hrun
  decide

end LayeredSite
