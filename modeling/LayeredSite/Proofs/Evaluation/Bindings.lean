import LayeredSite.Proofs.Evaluation.Application
import LayeredSite.Proofs.Evaluation.Scoping
import LayeredSite.Proofs.Evaluation.Steps
import LayeredSite.Proofs.Reader.Bracketing
import Mathlib.Data.List.Forall2

namespace LayeredSite

open Eval
open Form (unpair)

variable {α β : Type} {pairs rest : List (Form × Form)} {k f : Form} {p q r : Position}
  {name : String} {v : Value} {e : EvalError} {s s' t : Scope} {cells cells' between : Cells}

namespace Eval

/-- The scope that the computation begins with stands under the bindings that it adds. -/
def Extends (x : Eval α) : Prop :=
  ∀ ⦃s cells r s' cells'⦄, x s cells = some ((r, s'), cells') → s <:+ s'

namespace Extends

theorem sequence {x : Eval α} {y : α → Eval β} (hx : Extends x) (hy : ∀ a, Extends (y a)) :
    Extends (x >>= y) := by
  intro s cells r s' cells' h
  rcases bind_cases h with ⟨e, between, _, hrun, hend⟩ | ⟨a, between, _, hrun, hrest⟩
  · cases hend
    exact hx hrun
  · exact (hx hrun).trans (hy a hrest)

/-- Restoring drops all that has been added. -/
theorem restoring_run {x : Eval α} (h : Extends x) (s : Scope) (cells : Cells) :
    restoring x s cells = (x s cells).map fun o => ((o.1.1, s), o.2) := by
  rw [restoring, leaving]
  cases hrun : x s cells with
  | none => rfl
  | some o =>
    obtain ⟨⟨r, s'⟩, cells'⟩ := o
    have hdrop : s'.drop (s'.length - s.length) = s := (List.suffix_iff_eq_drop.mp (h hrun)).symm
    simp only [Option.map_some, hdrop]

theorem restoring {x : Eval α} (h : Extends x) : Extends (Eval.restoring x) := by
  intro s cells r s' cells' hrun
  rw [h.restoring_run] at hrun
  obtain ⟨_, -, hend⟩ := Option.map_eq_some_iff.mp hrun
  cases hend
  exact List.suffix_rfl

theorem of_alike {x : Eval α} (h : ∀ s, Alike x s s) : Extends x := by
  intro s cells r s' cells' hrun
  obtain rfl := (h s).scope_eq hrun
  exact List.suffix_rfl

theorem eval (f : Form) : Extends (LayeredSite.eval f) :=
  of_alike fun s => alike_eval f (.refl f.free s)

theorem evalBody (body : List Form) : Extends (LayeredSite.evalBody body) :=
  of_alike fun s => alike_evalBody body (.refl (freeEach body) s)

theorem bind (name : String) (v : Value) : Extends (Eval.bind name v) := by
  intro s cells r s' cells' h
  cases h
  exact List.suffix_cons _ _

theorem evalBindings (pairs : List (Form × Form)) :
    Extends (LayeredSite.evalBindings (unpair pairs)) := by
  induction pairs with
  | nil =>
    intro s cells r s' cells' h
    cases h
    exact List.suffix_rfl
  | cons pair pairs ih =>
    obtain ⟨k, f⟩ := pair
    cases k with
    | symbol p name => exact (eval f).sequence fun v => (bind name v).sequence fun _ => ih
    | _ =>
      intro s cells r s' cells' h
      cases h
      exact List.suffix_rfl

/-- The bindings of a sequence are dropped at its end, whether or not those of its second part have
been dropped before. -/
theorem restoring_bind_restoring {x : Eval α} {y : α → Eval β} (hx : Extends x)
    (hy : ∀ a, Extends (y a)) :
    Eval.restoring (x >>= fun a => Eval.restoring (y a)) = Eval.restoring (x >>= y) := by
  funext s cells
  rw [(hx.sequence fun a => (hy a).restoring).restoring_run, (hx.sequence hy).restoring_run,
    bind_run, bind_run, Option.map_bind, Option.map_bind]
  refine Option.bind_congr fun o _ => ?_
  obtain ⟨⟨_ | a, s'⟩, cells'⟩ := o
  · rfl
  · simp only [Function.comp_apply, (hy a).restoring_run, Option.map_map]
    rfl

end Extends
end Eval

theorem evalBindings_append (pairs rest : List (Form × Form)) :
    evalBindings (unpair (pairs ++ rest)) =
      evalBindings (unpair pairs) >>= fun _ => evalBindings (unpair rest) := by
  induction pairs with
  | nil => simp [unpair, evalBindings]
  | cons pair pairs ih =>
    obtain ⟨k, f⟩ := pair
    rw [List.cons_append, unpair, unpair]
    cases k with
    | symbol p name => simp [evalBindings, ih]
    | _ => rfl

theorem length_unpair (pairs : List (Form × Form)) :
    (unpair pairs).length = 2 * pairs.length := by
  induction pairs with
  | nil => rfl
  | cons pair pairs ih =>
    rw [unpair, List.length_cons, List.length_cons, ih, List.length_cons]
    omega

/-- `(let [name f …] body…)`. -/
def letOf (p q r : Position) (pairs : List (Form × Form)) (body : List Form) : Form :=
  .call p (.symbol q "let" :: .vector r (unpair pairs) :: body)

theorem eval_let (pairs : List (Form × Form)) (body : List Form) (p q r : Position) :
    eval (letOf p q r pairs body) =
      restoring (evalBindings (unpair pairs) >>= fun _ => evalBody body) := by
  have heven : ¬ (unpair pairs).length % 2 = 1 := by
    rw [length_unpair]
    omega
  have hspecial : Special.ofName? "let" = some .letForm := rfl
  simp [letOf, eval, evalCall, evalLet, hspecial, heven]

/-- From a scope and cells the expressions of all bindings have values, each one in the scope of the
bindings before it, and these are the scope and the cells behind the last one. -/
inductive Binds (s : Scope) (cells : Cells) : List (Form × Form) → Scope → Cells → Prop
  | nil : Binds s cells [] s cells
  | snoc {pairs : List (Form × Form)} {t : Scope} {between cells' : Cells} {p : Position}
      {name : String} {f : Form} {v : Value} :
      Binds s cells pairs t between → eval f t between = some ((.ok v, t), cells') →
      Binds s cells (pairs ++ [(.symbol p name, f)]) ((name, v) :: t) cells'

/-- Behind some bindings that are made there is one whose expression fails, or which has something
else than a name. -/
inductive Stops (s : Scope) (cells : Cells) : List (Form × Form) → EvalError → Cells → Prop
  | expression {pairs rest : List (Form × Form)} {t : Scope} {between cells' : Cells} {p : Position}
      {name : String} {f : Form} {e : EvalError} :
      Binds s cells pairs t between → eval f t between = some ((.error e, t), cells') →
      Stops s cells (pairs ++ (.symbol p name, f) :: rest) e cells'
  | name {pairs rest : List (Form × Form)} {t : Scope} {cells' : Cells} {k f : Form} :
      Binds s cells pairs t cells' → (∀ p name, k ≠ .symbol p name) →
      Stops s cells (pairs ++ (k, f) :: rest) ⟨k.position, .letNotSymbol⟩ cells'

theorem evalBindings_cons (p : Position) (name : String) (f : Form)
    (rest : List (Form × Form)) : evalBindings (unpair ((.symbol p name, f) :: rest)) =
      eval f >>= fun v => bind name v >>= fun _ => evalBindings (unpair rest) := by
  simp [unpair, evalBindings]

theorem evalBindings_not_name (h : ∀ p name, k ≠ .symbol p name) (f : Form)
    (rest : List (Form × Form)) :
    evalBindings (unpair ((k, f) :: rest)) = fail k.position .letNotSymbol := by
  cases k with
  | symbol p name => exact absurd rfl (h p name)
  | _ => rfl

theorem Binds.run (h : Binds s cells pairs t cells') :
    evalBindings (unpair pairs) s cells = some ((.ok (), t), cells') := by
  induction h with
  | nil => rfl
  | snoc _ hf ih =>
    rw [evalBindings_append, bind_of_ok ih, evalBindings_cons, bind_of_ok hf]
    rfl

theorem Stops.run (h : Stops s cells pairs e cells') :
    ∃ t, evalBindings (unpair pairs) s cells = some ((.error e, t), cells') := by
  cases h with
  | @expression _ _ t _ _ _ _ _ _ hbinds hf =>
    refine ⟨t, ?_⟩
    rw [evalBindings_append, bind_of_ok hbinds.run, evalBindings_cons, bind_run, hf]
    rfl
  | @name _ _ t _ _ _ hbinds hk =>
    refine ⟨t, ?_⟩
    rw [evalBindings_append, bind_of_ok hbinds.run, evalBindings_not_name hk]
    rfl

theorem Stops.append (h : Stops s cells pairs e cells') (rest : List (Form × Form)) :
    Stops s cells (pairs ++ rest) e cells' := by
  cases h with
  | expression hbinds hf =>
    rw [List.append_assoc]
    exact .expression hbinds hf
  | name hbinds hk =>
    rw [List.append_assoc]
    exact .name hbinds hk

/-- A binding list that has been evaluated is bound to its end or stops. -/
theorem binds_or_stops {r : Except EvalError Unit}
    (h : evalBindings (unpair pairs) s cells = some ((r, t), cells')) :
    (∃ t between, Binds s cells pairs t between) ∨ ∃ e between, Stops s cells pairs e between := by
  -- From the end of the list, since the scope grows there: the last pair is evaluated where all
  -- those before it are bound.
  induction pairs using List.reverseRecOn generalizing r t cells' with
  | nil => exact .inl ⟨s, cells, .nil⟩
  | append_singleton pairs pair ih =>
    obtain ⟨k, f⟩ := pair
    rw [evalBindings_append] at h
    have hfirst : ∃ r t between, evalBindings (unpair pairs) s cells = some ((r, t), between) := by
      rcases bind_cases h with ⟨e, t, between, hrun, -⟩ | ⟨_, t, between, hrun, -⟩
      · exact ⟨_, t, between, hrun⟩
      · exact ⟨_, t, between, hrun⟩
    obtain ⟨_, _, _, hfirst⟩ := hfirst
    rcases ih hfirst with ⟨t, between, hbinds⟩ | ⟨e, between, hstops⟩
    · by_cases hk : ∃ p name, k = .symbol p name
      · obtain ⟨p, name, rfl⟩ := hk
        rw [bind_of_ok hbinds.run, evalBindings_cons] at h
        have hscope {r : Except EvalError Value} {t' : Scope} {cells' : Cells}
            (hf : eval f t between = some ((r, t'), cells')) : t' = t :=
          (alike_eval f (.refl _ t)).scope_eq hf
        rcases bind_cases h with ⟨e, t', cells', hf, -⟩ | ⟨v, t', cells', hf, -⟩
        · obtain rfl := hscope hf
          exact .inr ⟨e, cells', .expression hbinds hf⟩
        · obtain rfl := hscope hf
          exact .inl ⟨_, cells', .snoc hbinds hf⟩
      · exact .inr ⟨_, between, .name hbinds fun p name hname => hk ⟨p, name, hname⟩⟩
    · exact .inr ⟨e, between, hstops.append _⟩

/-- The names are bound in front of the scope, the last one innermost. -/
theorem Binds.exists_bound (h : Binds s cells pairs t cells') :
    ∃ bound : List (String × Value), t = bound.reverse ++ s ∧
      List.Forall₂ (fun pair binding => ∃ p, pair.1 = .symbol p binding.1) pairs bound := by
  induction h with
  | nil => exact ⟨[], rfl, .nil⟩
  | @snoc pairs t between cells' p name f v _ _ ih =>
    obtain ⟨bound, rfl, hnames⟩ := ih
    refine ⟨bound ++ [(name, v)], by simp, ?_⟩
    exact List.rel_append hnames (.cons ⟨p, rfl⟩ .nil)

/-- What the names have in a scope `t` that has these bindings on top of `s`: the last binding of a
name hides those before it and the one below, and all other names have what they have below. -/
structure Shadows (bound : List (String × Value)) (s t : Scope) : Prop where
  last : ∀ {before after : List (String × Value)} {name : String} {v : Value},
    bound = before ++ (name, v) :: after → name ∉ after.map Prod.fst → t.lookup? name = some v
  below : ∀ {name : String}, name ∉ bound.map Prod.fst → t.lookup? name = s.lookup? name

theorem lookup_reverse_of_not_mem {after : List (String × Value)} (h : name ∉ after.map Prod.fst) :
    after.reverse.lookup name = none := by
  refine List.lookup_eq_none_iff.mpr fun binding hmem => bne_iff_ne.mpr ?_
  rintro rfl
  exact h (List.mem_map_of_mem (List.mem_reverse.mp hmem))

theorem shadows_reverse_append (bound : List (String × Value)) (s : Scope) :
    Shadows bound s (bound.reverse ++ s) where
  last := by
    rintro before after name v rfl hafter
    rw [List.reverse_append, List.reverse_cons, List.append_assoc, List.append_assoc]
    simp [Scope.lookup?, List.lookup_append, lookup_reverse_of_not_mem hafter]
  below hname := by
    simp [Scope.lookup?, List.lookup_append, lookup_reverse_of_not_mem hname]

/-- The names of the pairs are bound, and nothing else. -/
theorem Binds.shadows (h : Binds s cells pairs t cells') :
    ∃ bound, List.Forall₂ (fun pair binding => ∃ p, pair.1 = .symbol p binding.1) pairs bound ∧
      Shadows bound s t := by
  obtain ⟨bound, rfl, hnames⟩ := h.exists_bound
  exact ⟨bound, hnames, shadows_reverse_append bound s⟩

theorem extends_let (pairs : List (Form × Form)) (body : List Form) :
    Extends (evalBindings (unpair pairs) >>= fun _ => evalBody body) :=
  (Extends.evalBindings pairs).sequence fun _ => Extends.evalBody body

theorem eval_let_append (first rest : List (Form × Form)) (body : List Form)
    (p q r p' q' r' : Position) :
    eval (letOf p q r (first ++ rest) body) =
      eval (letOf p q r first [letOf p' q' r' rest body]) := by
  rw [eval_let, eval_let, evalBindings_append, bind_assoc]
  simp only [evalBody, eval_let]
  exact ((Extends.evalBindings first).restoring_bind_restoring fun _ =>
    extends_let rest body).symm

theorem eval_let_run (pairs : List (Form × Form)) (body : List Form) (p q r : Position)
    (s : Scope) (cells : Cells) :
    eval (letOf p q r pairs body) s cells =
      ((evalBindings (unpair pairs) >>= fun _ => evalBody body) s cells).map fun o =>
        ((o.1.1, s), o.2) := by
  rw [eval_let, (extends_let pairs body).restoring_run]

theorem Binds.eval_let (h : Binds s cells pairs t between) (body : List Form)
    (p q r : Position) :
    eval (letOf p q r pairs body) s cells =
      (evalBody body t between).map fun o => ((o.1.1, s), o.2) := by
  rw [eval_let_run, bind_of_ok h.run]

theorem Stops.eval_let (h : Stops s cells pairs e cells') (body : List Form) (p q r : Position) :
    eval (letOf p q r pairs body) s cells = some ((.error e, s), cells') := by
  obtain ⟨t, hrun⟩ := h.run
  rw [eval_let_run, bind_run, hrun]
  rfl

theorem binds_or_stops_of_eval_let {o : Ending Value} {body : List Form}
    (h : eval (letOf p q r pairs body) s cells = some o) :
    (∃ t between, Binds s cells pairs t between) ∨ ∃ e between, Stops s cells pairs e between := by
  rw [eval_let_run] at h
  obtain ⟨_, hrun, -⟩ := Option.map_eq_some_iff.mp h
  rcases bind_cases hrun with ⟨_, _, _, hbindings, -⟩ | ⟨_, _, _, hbindings, -⟩
  · exact binds_or_stops hbindings
  · exact binds_or_stops hbindings

/-- A `let` is a `let` of its first bindings around a `let` of the others, at every place of the
list. From a scope and cells its bindings are made one after another, each where those before it
are, or they stop at the first one that fails or binds no name. Where they are made the body is
evaluated under them and they are dropped; of one name the last binding hides those before it, and
other names are as they were. Where they stop the form fails with that error, and nothing behind has
been evaluated. -/
theorem let_sequential (pairs : List (Form × Form)) (body : List Form) (p q r : Position)
    (s : Scope) (cells : Cells) :
    (∀ (first rest : List (Form × Form)) (p' q' r' : Position), pairs = first ++ rest →
      eval (letOf p q r pairs body) = eval (letOf p q r first [letOf p' q' r' rest body])) ∧
    (∀ t between, Binds s cells pairs t between →
      eval (letOf p q r pairs body) s cells =
          (evalBody body t between).map (fun o => ((o.1.1, s), o.2)) ∧
        ∃ bound, List.Forall₂ (fun pair binding => ∃ p, pair.1 = .symbol p binding.1) pairs bound ∧
          Shadows bound s t) ∧
    (∀ e between, Stops s cells pairs e between →
      eval (letOf p q r pairs body) s cells = some ((.error e, s), between)) ∧
    ((eval (letOf p q r pairs body) s cells).isSome →
      (∃ t between, Binds s cells pairs t between) ∨
        ∃ e between, Stops s cells pairs e between) := by
  refine ⟨?_, ?_, ?_, ?_⟩
  · rintro first rest p' q' r' rfl
    exact eval_let_append first rest body p q r p' q' r'
  · exact fun t between h => ⟨h.eval_let body p q r, h.shadows⟩
  · exact fun e between h => h.eval_let body p q r
  · intro h
    obtain ⟨o, ho⟩ := Option.isSome_iff_exists.mp h
    exact binds_or_stops_of_eval_let ho

/-- The bindings of `(let [x "a" x [x "b"]] x)`. -/
def twice : List (Form × Form) :=
  [(.symbol ⟨1, 7⟩ "x", .literal ⟨1, 9⟩ (.str "a")),
    (.symbol ⟨1, 13⟩ "x",
      .vector ⟨1, 15⟩ [.symbol ⟨1, 16⟩ "x", .literal ⟨1, 18⟩ (.str "b")])]

/-- The second binding of a name has the first one in its expression and hides it in the body; a
binding of a number stops the form. -/
theorem letOf_twice :
    eval (letOf ⟨1, 1⟩ ⟨1, 2⟩ ⟨1, 6⟩ twice [.symbol ⟨1, 24⟩ "x"]) =
      eval (letOf ⟨1, 1⟩ ⟨1, 2⟩ ⟨1, 6⟩ (twice.take 1)
        [letOf ⟨1, 1⟩ ⟨1, 2⟩ ⟨1, 6⟩ (twice.drop 1) [.symbol ⟨1, 24⟩ "x"]]) ∧
    Binds [] [] twice [("x", .list [.str "a", .str "b"]), ("x", .str "a")] [] ∧
    eval (letOf ⟨1, 1⟩ ⟨1, 2⟩ ⟨1, 6⟩ twice [.symbol ⟨1, 24⟩ "x"]) [] [] =
      some ((.ok (.list [.str "a", .str "b"]), []), []) ∧
    Stops [] [] (twice ++ [(.literal ⟨1, 23⟩ (.int 1), .symbol ⟨1, 25⟩ "x")])
      ⟨⟨1, 23⟩, .letNotSymbol⟩ [] ∧
    eval (letOf ⟨1, 1⟩ ⟨1, 2⟩ ⟨1, 6⟩
        (twice ++ [(.literal ⟨1, 23⟩ (.int 1), .symbol ⟨1, 25⟩ "x")]) [.symbol ⟨1, 28⟩ "x"]) [] [] =
      some ((.error ⟨⟨1, 23⟩, .letNotSymbol⟩, []), []) := by
  have hbinds : Binds [] [] twice [("x", .list [.str "a", .str "b"]), ("x", .str "a")] [] :=
    .snoc (.snoc .nil rfl) rfl
  have hstops : Stops [] [] (twice ++ [(.literal ⟨1, 23⟩ (.int 1), .symbol ⟨1, 25⟩ "x")])
      ⟨⟨1, 23⟩, .letNotSymbol⟩ [] :=
    .name hbinds fun p name h => by cases h
  obtain ⟨hsplit, hmade, -⟩ := let_sequential twice [.symbol ⟨1, 24⟩ "x"] ⟨1, 1⟩ ⟨1, 2⟩ ⟨1, 6⟩ [] []
  obtain ⟨-, -, hstopped, -⟩ := let_sequential
    (twice ++ [(.literal ⟨1, 23⟩ (.int 1), .symbol ⟨1, 25⟩ "x")]) [.symbol ⟨1, 28⟩ "x"]
    ⟨1, 1⟩ ⟨1, 2⟩ ⟨1, 6⟩ [] []
  exact ⟨hsplit _ _ _ _ _ (List.take_append_drop 1 twice).symm, hbinds, (hmade _ _ hbinds).1,
    hstops, hstopped _ _ hstops⟩

end LayeredSite
