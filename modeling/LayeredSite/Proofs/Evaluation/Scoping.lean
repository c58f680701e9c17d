import LayeredSite.Proofs.Evaluation.Alike
import LayeredSite.Template.Layer

namespace LayeredSite

mutual

/-- The names that stand in evaluated position and that no `let` or `for` around them binds. The
head of a call and the function that `apply` gets are no such names, and neither are those in forms
that are never evaluated, since a call has not the shape that it needs. -/
def Form.free : Form → List String
  | .literal _ _ => []
  | .symbol _ name => [name]
  | .vector _ items => freeEach items
  | .map _ pairs => freePairs pairs
  | .call _ items => freeCall items

def freeEach : List Form → List String
  | [] => []
  | f :: rest => f.free ++ freeEach rest

def freePairs : List (Form × Form) → List String
  | [] => []
  | (k, v) :: rest => k.free ++ (v.free ++ freePairs rest)

def freeCall : List Form → List String
  | .literal _ (.keyword _) :: args =>
    if args.length = 1 ∨ args.length = 2 then freeEach args else []
  | .symbol _ name :: args =>
    match Special.ofName? name with
    | none => freeEach args
    | some .ifForm => if args.length = 2 ∨ args.length = 3 then freeEach args else []
    | some .whenForm => freeEach args
    | some .doForm => freeEach args
    | some .letForm => freeLet args
    | some .forForm => freeFor args
    | some .applyForm => freeApply args
  | _ => []

/-- Of bindings around forms that look up the given names: each name is bound in what follows. -/
def freeBindings (inner : List String) : List Form → List String
  | .symbol _ name :: f :: rest => f.free ++ (freeBindings inner rest).filter (· ≠ name)
  | _ :: _ :: _ => []
  | _ => inner

def freeLet : List Form → List String
  | .vector _ pairs :: body =>
    if pairs.length % 2 = 1 then [] else freeBindings (freeEach body) pairs
  | _ => []

/-- The collection is evaluated outside the loop. -/
def freeFor : List Form → List String
  | .vector _ [.symbol _ name, coll] :: body =>
    coll.free ++ (freeEach body).filter (· ≠ name)
  | _ => []

def freeApply : List Form → List String
  | [] => []
  | _ :: args => freeEach args

end

namespace Eval

open Scope

mutual

theorem alike_eval : (f : Form) → {s t : Scope} → AgreeOn f.free s t → Alike (eval f) s t
  | .literal _ l, _, _, _ => .pure l.toValue
  | .symbol p name, _, _, h => by
    refine (Alike.lookup (h name (List.mem_singleton_self name))).next fun found => ?_
    cases found with
    | some v => exact .pure v
    | none => exact .fail p _
  | .vector _ items, _, _, h => (alike_evalEach items h).next fun _ => .pure _
  | .map _ pairs, _, _, h => (alike_evalPairs pairs [] h).next fun _ => .pure _
  | .call p items, _, _, h => alike_evalCall p items h

theorem alike_evalEach : (forms : List Form) → {s t : Scope} → AgreeOn (freeEach forms) s t →
    Alike (evalEach forms) s t
  | [], _, _, _ => .pure []
  | f :: rest, _, _, h => by
    obtain ⟨hf, hrest⟩ := AgreeOn.append_iff.mp h
    refine (alike_eval f hf).next fun _ => ?_
    exact (alike_evalEach rest hrest).next fun _ => .pure _

theorem alike_evalPairs : (pairs : List (Form × Form)) → (fields : Fields Value) →
    {s t : Scope} → AgreeOn (freePairs pairs) s t → Alike (evalPairs pairs fields) s t
  | [], fields, _, _, _ => .pure fields
  | (k, v) :: rest, _, _, _, h => by
    obtain ⟨hk, hboth⟩ := AgreeOn.append_iff.mp h
    obtain ⟨hv, hrest⟩ := AgreeOn.append_iff.mp hboth
    refine (alike_eval k hk).next fun _ => (alike_calls.mapKey rfl _).next fun _ => ?_
    exact (alike_eval v hv).next fun _ => alike_evalPairs rest _ hrest

theorem alike_evalBody : (forms : List Form) → {s t : Scope} → AgreeOn (freeEach forms) s t →
    Alike (evalBody forms) s t
  | [], _, _, _ => .pure _
  | [f], _, _, h => alike_eval f (AgreeOn.append_iff.mp h).1
  | f :: g :: rest, _, _, h => by
    obtain ⟨hf, hrest⟩ := AgreeOn.append_iff.mp h
    exact (alike_eval f hf).next fun _ => alike_evalBody (g :: rest) hrest

theorem alike_evalCall (p : Position) : (items : List Form) → {s t : Scope} →
    AgreeOn (freeCall items) s t → Alike (evalCall p items) s t
  | [], _, _, _ => .pure _
  | .literal _ (.keyword k) :: args, _, _, h => alike_evalKeyword p k args h
  | .symbol _ name :: args, _, _, h => by
    simp only [freeCall, evalCall] at h ⊢
    generalize Special.ofName? name = special at h ⊢
    match special, h with
    | none, h =>
      exact (alike_evalEach args h).next fun values => alike_calls.callNamed rfl name values
    | some .ifForm, h => exact alike_evalIf p args h
    | some .whenForm, h => exact alike_evalWhen p args h
    | some .doForm, h => exact alike_evalBody args h
    | some .letForm, h => exact alike_evalLet p args h
    | some .forForm, h => exact alike_evalFor p args h
    | some .applyForm, h => exact alike_evalApply p args h
  | .literal q .nil :: _, _, _, _ | .literal q (.bool _) :: _, _, _, _
  | .literal q (.int _) :: _, _, _, _ | .literal q (.float _) :: _, _, _, _
  | .literal q (.str _) :: _, _, _, _ | .call q _ :: _, _, _, _ | .vector q _ :: _, _, _, _
  | .map q _ :: _, _, _, _ => .fail q _

theorem alike_evalKeyword (p : Position) (k : String) : (args : List Form) → {s t : Scope} →
    AgreeOn (if args.length = 1 ∨ args.length = 2 then freeEach args else []) s t →
    Alike (evalKeyword p k args) s t
  | [target], _, _, h => by
    refine (alike_eval target (AgreeOn.append_iff.mp h).1).next fun _ => ?_
    exact alike_calls.reported rfl (.reading _)
  | [target, default], _, _, h => by
    obtain ⟨htarget, hrest⟩ := AgreeOn.append_iff.mp h
    refine (alike_eval target htarget).next fun _ => ?_
    refine (alike_calls.reported rfl (.reading _)).next fun found => ?_
    split
    · exact alike_eval default (AgreeOn.append_iff.mp hrest).1
    · exact .pure _
  | [], _, _, _ => .fail p _
  | _ :: _ :: _ :: _, _, _, _ => .fail p _

theorem alike_evalIf (p : Position) : (args : List Form) → {s t : Scope} →
    AgreeOn (if args.length = 2 ∨ args.length = 3 then freeEach args else []) s t →
    Alike (evalIf p args) s t
  | [c, yes], _, _, h => by
    obtain ⟨hc, hrest⟩ := AgreeOn.append_iff.mp h
    refine (alike_eval c hc).next fun _ => ?_
    split
    · exact alike_eval yes (AgreeOn.append_iff.mp hrest).1
    · exact .pure _
  | [c, yes, no], _, _, h => by
    obtain ⟨hc, hrest⟩ := AgreeOn.append_iff.mp h
    obtain ⟨hyes, hno⟩ := AgreeOn.append_iff.mp hrest
    refine (alike_eval c hc).next fun _ => ?_
    split
    · exact alike_eval yes hyes
    · exact alike_eval no (AgreeOn.append_iff.mp hno).1
  | [], _, _, _ => .fail p _
  | [_], _, _, _ => .fail p _
  | _ :: _ :: _ :: _ :: _, _, _, _ => .fail p _

theorem alike_evalWhen (p : Position) : (args : List Form) → {s t : Scope} →
    AgreeOn (freeEach args) s t → Alike (evalWhen p args) s t
  | [], _, _, _ => .fail p _
  | c :: body, _, _, h => by
    obtain ⟨hc, hbody⟩ := AgreeOn.append_iff.mp h
    refine (alike_eval c hc).next fun _ => ?_
    split
    · exact alike_evalBody body hbody
    · exact .pure _

/-- The bindings and all that follows, the scope growing with each name. -/
theorem alike_evalBindings {inner : List String} {body : Eval Value}
    (hbody : ∀ {s t : Scope}, AgreeOn inner s t → Alike body s t) : (pairs : List Form) →
    {s t : Scope} → AgreeOn (freeBindings inner pairs) s t →
    AlikeBelow (do evalBindings pairs; body) s t
  | .symbol _ name :: f :: rest, _, _, h => by
    obtain ⟨hf, hrest⟩ := AgreeOn.append_iff.mp h
    simp only [evalBindings, bind_assoc]
    refine .next (alike_eval f hf) fun v => .bind ?_
    exact alike_evalBindings hbody rest (hrest.cons v)
  | [], _, _, h => (hbody h).below
  | [f], _, _, h => by
    cases f <;> exact (hbody h).below
  | .literal q _ :: _ :: _, _, _, _ | .call q _ :: _ :: _, _, _, _
  | .vector q _ :: _ :: _, _, _, _ | .map q _ :: _ :: _, _, _, _ =>
    (Alike.fail q .letNotSymbol).below

theorem alike_evalLet (p : Position) : (args : List Form) → {s t : Scope} →
    AgreeOn (freeLet args) s t → Alike (evalLet p args) s t
  | [], _, _, _ => .fail p _
  | .vector q pairs :: body, _, _, h => by
    unfold freeLet at h
    unfold evalLet
    split at h
    · rw [if_pos ‹_›]
      exact .fail q _
    · rw [if_neg ‹_›]
      exact .restoring (alike_evalBindings (alike_evalBody body) pairs h)
  | .literal q _ :: _, _, _, _ | .symbol q _ :: _, _, _, _ | .call q _ :: _, _, _, _
  | .map q _ :: _, _, _, _ => .fail q _

theorem alike_evalFor (p : Position) : (args : List Form) → {s t : Scope} →
    AgreeOn (freeFor args) s t → Alike (evalFor p args) s t
  | [], _, _, _ => .fail p _
  | .vector _ [.symbol _ name, coll] :: body, _, _, h => by
    obtain ⟨hcoll, hbody⟩ := AgreeOn.append_iff.mp h
    refine (alike_eval coll hcoll).next fun v => (alike_calls.resolved rfl v).next fun _ => ?_
    refine (alike_calls.loopItems rfl _).next fun items => ?_
    refine (Alike.mapM (fun item => ?_) items).next fun _ => .pure _
    -- The body leaves the scope with the item as it was, so the pop takes just the item.
    refine .popping ?_
    exact (alike_evalEach body (hbody.cons item)).next fun _ => .pure _
  | .vector q [] :: _, _, _, _ | .vector q [.literal _ _, _] :: _, _, _, _
  | .vector q [.call _ _, _] :: _, _, _, _ | .vector q [.vector _ _, _] :: _, _, _, _
  | .vector q [.map _ _, _] :: _, _, _, _ => .fail q _
  | .vector q [f] :: _, _, _, _ | .vector q (f :: _ :: _ :: _) :: _, _, _, _ => by
    cases f <;> exact .fail q _
  | .literal q _ :: _, _, _, _ | .symbol q _ :: _, _, _, _ | .call q _ :: _, _, _, _
  | .map q _ :: _, _, _, _ => .fail q _

theorem alike_evalApply (p : Position) : (args : List Form) → {s t : Scope} →
    AgreeOn (freeApply args) s t → Alike (evalApply p args) s t
  | [], _, _, _ => .fail p _
  | f :: args, _, _, h => by
    unfold evalApply
    split
    · exact .fail p _
    · exact (alike_evalArguments args h).next fun values => alike_calls.applyForm rfl values rfl

theorem alike_evalArguments : (args : List Form) → {s t : Scope} →
    AgreeOn (freeEach args) s t → Alike (evalArguments args) s t
  | [], _, _, _ => .pure []
  | [last], _, _, h => by
    refine (alike_eval last (AgreeOn.append_iff.mp h).1).next fun v => ?_
    exact (alike_calls.resolved rfl v).next fun _ => alike_calls.spreadItems rfl _
  | f :: g :: rest, _, _, h => by
    obtain ⟨hf, hrest⟩ := AgreeOn.append_iff.mp h
    refine (alike_eval f hf).next fun _ => ?_
    exact (alike_evalArguments (g :: rest) hrest).next fun _ => .pure _

end

/-- The binding that two scopes of the same site do not share. -/
theorem agreeOn_ofSite {names : List String} (h : "content" ∉ names) (site : Value)
    (content content' : List Value) :
    AgreeOn names (Scope.ofSite site content) (Scope.ofSite site content') := by
  intro name hname
  have hne : name ≠ "content" := fun heq => h (heq ▸ hname)
  simp [Scope.lookup?, Scope.ofSite, List.lookup_cons, beq_false_of_ne hne]

end Eval

theorem Body.render_eq {b : Body} (h : "content" ∉ freeEach b.forms) (site : Value)
    (content content' : List Value) : b.render site content = b.render site content' := by
  funext cells
  obtain ⟨o, hs, ht⟩ :=
    Eval.alike_evalEach b.forms (Eval.agreeOn_ofSite h site content content') cells
  simp only [Body.render, hs, ht, Option.map_map]
  rfl

/-- Evaluation ends with the scope that it began with. Its result and the cells that it leaves
depend on the scope through the innermost values of the free names only, and so a body in which
`content` is not free renders every content alike. -/
theorem eval_lexical :
    (∀ (f : Form) (s s' : Scope) (cells cells' : Cells) (r : Except EvalError Value),
      eval f s cells = some ((r, s'), cells') → s' = s) ∧
    (∀ (f : Form) (s t : Scope), (∀ name ∈ f.free, s.lookup? name = t.lookup? name) →
      ∀ cells, (eval f s cells).map (fun o => (o.1.1, o.2)) =
        (eval f t cells).map fun o => (o.1.1, o.2)) ∧
    ∀ b : Body, "content" ∉ freeEach b.forms → ∀ (site : Value) (content content' : List Value),
      b.render site content = b.render site content' := by
  refine ⟨fun f s s' cells cells' r h => ?_, fun f s t h cells => ?_, fun b h => Body.render_eq h⟩
  · exact (Eval.alike_eval f (.refl f.free s)).scope_eq h
  · exact (Eval.alike_eval f h).map_eq cells

/-- The form `(let [x true] (list x y))`. -/
def letThenList (p : Position) : Form :=
  .call p [.symbol p "let", .vector p [.symbol p "x", .literal p (.bool true)],
    .call p [.symbol p "list", .symbol p "x", .symbol p "y"]]

/-- It fails without a `y`, when `x` is already bound, and it does not see an `x` around it. -/
theorem letThenList_lexical :
    (∃ e, eval (letThenList ⟨1, 1⟩) [("z", .nil)] [] = some ((.error e, [("z", .nil)]), [])) ∧
    ((eval (letThenList ⟨1, 1⟩) [("x", .nil), ("y", .nil)] []).map fun o => (o.1.1, o.2)) =
      ((eval (letThenList ⟨1, 1⟩) [("y", .nil)] []).map fun o => (o.1.1, o.2)) ∧
    Body.render ⟨"page", [letThenList ⟨1, 1⟩]⟩ .nil [] =
      Body.render ⟨"page", [letThenList ⟨1, 1⟩]⟩ .nil [.nil] := by
  have hfree : (letThenList ⟨1, 1⟩).free = ["y"] := by decide
  have hagree : ∀ name ∈ (letThenList ⟨1, 1⟩).free,
      Scope.lookup? [("x", .nil), ("y", .nil)] name = Scope.lookup? [("y", .nil)] name := by
    intro name hname
    rw [hfree, List.mem_singleton] at hname
    subst hname
    rfl
  refine ⟨?_, eval_lexical.2.1 _ _ _ hagree [], eval_lexical.2.2 _ (by decide) _ _ _⟩
  have hrun : ∃ e s', eval (letThenList ⟨1, 1⟩) [("z", .nil)] [] = some ((.error e, s'), []) :=
    ⟨_, _, rfl⟩
  obtain ⟨e, s', hs'⟩ := hrun
  obtain rfl := eval_lexical.1 _ _ _ _ _ _ hs'
  exact ⟨e, hs'⟩

end LayeredSite
