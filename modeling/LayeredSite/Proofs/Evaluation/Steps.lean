import LayeredSite.Proofs.Cells.Reads
import LayeredSite.Proofs.Evaluation.Functions
import LayeredSite.Proofs.Reader.Places
import LayeredSite.Proofs.Rendering

namespace LayeredSite

/-- A property of evaluations that holds of single steps, failures at some positions among them, and
is kept where they are put together. -/
structure EvalRules (At : Position → Prop) (Rule : ∀ {α : Type}, Eval α → Prop) : Prop where
  result : ∀ {α : Type} (a : α), Rule (pure a : Eval α)
  fail : ∀ {α : Type} {p : Position} (fault : EvalFault), At p → Rule (Eval.fail p fault : Eval α)
  sequence : ∀ {α β : Type} {x : Eval α} {f : α → Eval β}, Rule x → (∀ a, Rule (f a)) →
    Rule (x >>= f)
  lookup : ∀ name, Rule (Eval.lookup? name)
  bind : ∀ name v, Rule (Eval.bind name v)
  leaving : ∀ {α : Type} (scopeOf : Scope → Scope → Scope) {x : Eval α}, Rule x →
    Rule (Eval.leaving scopeOf x)
  text : ∀ v : Value, Rule (Eval.reading v.text)
  texts : ∀ items : List Value, Rule (Eval.reading (Call.itemTexts items))
  resolve : ∀ v : Value, Rule (Eval.reading v.resolve)
  field : ∀ v key : Value, Rule (Eval.reading (v.field key))

namespace EvalRules

variable {At : Position → Prop} {Rule : ∀ {α : Type}, Eval α → Prop}

theorem calls (h : EvalRules At Rule) : CallRules (fun p q => p = q ∧ At p) fun x _ => Rule x where
  result := h.result
  fail fault hp := h.fail fault hp.2
  sequence := h.sequence
  text := h.text
  texts := h.texts
  resolve := h.resolve
  field := h.field

theorem mapM {α β : Type} (h : EvalRules At Rule) {f : α → Eval β} (hf : ∀ a, Rule (f a))
    (items : List α) : Rule (items.mapM f) :=
  h.calls.mapM (g := f) hf items

abbrev Covers (At : Position → Prop) (forms : List Form) : Prop :=
  ∀ f ∈ forms, At f.position

open Form

mutual

theorem eval (h : EvalRules At Rule) : (f : Form) → Covers At (subforms f) →
    Rule (LayeredSite.eval f)
  | .literal _ l, _ => h.result l.toValue
  | .symbol p name, hf => by
    refine h.sequence (h.lookup name) fun found => ?_
    cases found with
    | some v => exact h.result v
    | none => exact h.fail _ (hf _ (mem_subforms _))
  | .vector _ items, hf => by
    have hitems := (List.forall_mem_cons.mp hf).2
    exact h.sequence (evalEach h items hitems) fun _ => h.result _
  | .map _ pairs, hf => by
    have hpairs := (List.forall_mem_cons.mp hf).2
    exact h.sequence (evalPairs h pairs [] hpairs) fun _ => h.result _
  | .call p items, hf => by
    obtain ⟨hp, hitems⟩ := List.forall_mem_cons.mp hf
    exact evalCall h hp items hitems

theorem evalEach (h : EvalRules At Rule) : (forms : List Form) →
    Covers At (subformsAll forms) → Rule (LayeredSite.evalEach forms)
  | [], _ => h.result []
  | f :: rest, hforms => by
    obtain ⟨hf, hrest⟩ := List.forall_mem_append.mp hforms
    exact h.sequence (eval h f hf) fun _ => h.sequence (evalEach h rest hrest) fun _ => h.result _

theorem evalPairs (h : EvalRules At Rule) : (pairs : List (Form × Form)) →
    (fields : Fields Value) → Covers At (subformsPairs pairs) →
      Rule (LayeredSite.evalPairs pairs fields)
  | [], fields, _ => h.result fields
  | (k, v) :: rest, _, hpairs => by
    obtain ⟨hk, hboth⟩ := List.forall_mem_append.mp hpairs
    obtain ⟨hv, hrest⟩ := List.forall_mem_append.mp hboth
    refine h.sequence (eval h k hk) fun _ => ?_
    refine h.sequence (h.calls.mapKey ⟨rfl, hk k (mem_subforms k)⟩ _) fun _ => ?_
    exact h.sequence (eval h v hv) fun _ => evalPairs h rest _ hrest

theorem evalBody (h : EvalRules At Rule) : (forms : List Form) →
    Covers At (subformsAll forms) → Rule (LayeredSite.evalBody forms)
  | [], _ => h.result _
  | [f], hforms => eval h f (List.forall_mem_append.mp hforms).1
  | f :: g :: rest, hforms => by
    obtain ⟨hf, hrest⟩ := List.forall_mem_append.mp hforms
    exact h.sequence (eval h f hf) fun _ => evalBody h (g :: rest) hrest

theorem evalCall (h : EvalRules At Rule) {p : Position} (hp : At p) : (items : List Form) →
    Covers At (subformsAll items) → Rule (LayeredSite.evalCall p items)
  | [], _ => h.result _
  | .literal _ (.keyword k) :: args, hitems =>
    evalKeyword h hp k args (List.forall_mem_append.mp hitems).2
  | .symbol _ name :: args, hitems => by
    have hargs := (List.forall_mem_append.mp hitems).2
    simp only [LayeredSite.evalCall]
    generalize Special.ofName? name = special
    match special with
    | none =>
      exact h.sequence (evalEach h args hargs) fun values => h.calls.callNamed ⟨rfl, hp⟩ name values
    | some .ifForm => exact evalIf h hp args hargs
    | some .whenForm => exact evalWhen h hp args hargs
    | some .doForm => exact evalBody h args hargs
    | some .letForm => exact evalLet h hp args hargs
    | some .forForm => exact evalFor h hp args hargs
    | some .applyForm => exact evalApply h hp args hargs
  | .literal q .nil :: _, hitems | .literal q (.bool _) :: _, hitems
  | .literal q (.int _) :: _, hitems | .literal q (.float _) :: _, hitems
  | .literal q (.str _) :: _, hitems | .call q _ :: _, hitems | .vector q _ :: _, hitems
  | .map q _ :: _, hitems => h.fail _ (hitems _ (mem_subformsAll List.mem_cons_self))

theorem evalKeyword (h : EvalRules At Rule) {p : Position} (hp : At p) (k : String) :
    (args : List Form) → Covers At (subformsAll args) → Rule (LayeredSite.evalKeyword p k args)
  | [target], hargs => by
    have htarget := (List.forall_mem_append.mp hargs).1
    exact h.sequence (eval h target htarget) fun _ => h.calls.reported ⟨rfl, hp⟩ (h.field _ _)
  | [target, default], hargs => by
    obtain ⟨htarget, hrest⟩ := List.forall_mem_append.mp hargs
    refine h.sequence (eval h target htarget) fun v => ?_
    refine h.sequence (h.calls.reported ⟨rfl, hp⟩ (h.field v _)) fun found => ?_
    split
    · exact eval h default (List.forall_mem_append.mp hrest).1
    · exact h.result _
  | [], _ => h.fail _ hp
  | _ :: _ :: _ :: _, _ => h.fail _ hp

theorem evalIf (h : EvalRules At Rule) {p : Position} (hp : At p) : (args : List Form) →
    Covers At (subformsAll args) → Rule (LayeredSite.evalIf p args)
  | [c, yes], hargs => by
    obtain ⟨hc, hrest⟩ := List.forall_mem_append.mp hargs
    refine h.sequence (eval h c hc) fun _ => ?_
    split
    · exact eval h yes (List.forall_mem_append.mp hrest).1
    · exact h.result _
  | [c, yes, no], hargs => by
    obtain ⟨hc, hrest⟩ := List.forall_mem_append.mp hargs
    obtain ⟨hyes, hno⟩ := List.forall_mem_append.mp hrest
    refine h.sequence (eval h c hc) fun _ => ?_
    split
    · exact eval h yes hyes
    · exact eval h no (List.forall_mem_append.mp hno).1
  | [], _ => h.fail _ hp
  | [_], _ => h.fail _ hp
  | _ :: _ :: _ :: _ :: _, _ => h.fail _ hp

theorem evalWhen (h : EvalRules At Rule) {p : Position} (hp : At p) : (args : List Form) →
    Covers At (subformsAll args) → Rule (LayeredSite.evalWhen p args)
  | [], _ => h.fail _ hp
  | c :: body, hargs => by
    obtain ⟨hc, hbody⟩ := List.forall_mem_append.mp hargs
    refine h.sequence (eval h c hc) fun _ => ?_
    split
    · exact evalBody h body hbody
    · exact h.result _

theorem evalBindings (h : EvalRules At Rule) : (pairs : List Form) →
    Covers At (subformsAll pairs) → Rule (LayeredSite.evalBindings pairs)
  | .symbol _ name :: f :: rest, hpairs => by
    obtain ⟨hf, hrest⟩ := List.forall_mem_append.mp (List.forall_mem_append.mp hpairs).2
    refine h.sequence (eval h f hf) fun v => ?_
    exact h.sequence (h.bind name v) fun _ => evalBindings h rest hrest
  | [], _ => h.result _
  | [f], _ => by
    cases f <;> exact h.result _
  | .literal q _ :: _ :: _, hpairs | .call q _ :: _ :: _, hpairs | .vector q _ :: _ :: _, hpairs
  | .map q _ :: _ :: _, hpairs => h.fail _ (hpairs _ (mem_subformsAll List.mem_cons_self))

theorem evalLet (h : EvalRules At Rule) {p : Position} (hp : At p) : (args : List Form) →
    Covers At (subformsAll args) → Rule (LayeredSite.evalLet p args)
  | [], _ => h.fail _ hp
  | .vector q pairs :: body, hargs => by
    obtain ⟨hvector, hbody⟩ := List.forall_mem_append.mp hargs
    obtain ⟨hq, hpairs⟩ := List.forall_mem_cons.mp hvector
    unfold LayeredSite.evalLet
    split
    · exact h.fail _ hq
    · refine h.leaving _ (h.sequence (evalBindings h pairs hpairs) fun _ => ?_)
      exact evalBody h body hbody
  | .literal q _ :: _, hargs | .symbol q _ :: _, hargs | .call q _ :: _, hargs
  | .map q _ :: _, hargs => h.fail _ (hargs _ (mem_subformsAll List.mem_cons_self))

theorem evalFor (h : EvalRules At Rule) {p : Position} (hp : At p) : (args : List Form) →
    Covers At (subformsAll args) → Rule (LayeredSite.evalFor p args)
  | [], _ => h.fail _ hp
  | .vector _ [.symbol _ name, coll] :: body, hargs => by
    obtain ⟨hvector, hbody⟩ := List.forall_mem_append.mp hargs
    have hpair := (List.forall_mem_append.mp (List.forall_mem_cons.mp hvector).2).2
    have hcoll := (List.forall_mem_append.mp hpair).1
    have hq := hcoll coll (mem_subforms coll)
    refine h.sequence (eval h coll hcoll) fun v => ?_
    refine h.sequence (h.calls.resolved ⟨rfl, hq⟩ v) fun _ => ?_
    refine h.sequence (h.calls.loopItems ⟨rfl, hq⟩ _) fun items => ?_
    refine h.sequence (h.mapM (fun item => ?_) items) fun _ => h.result _
    refine h.sequence (h.bind name item) fun _ => h.leaving _ ?_
    exact h.sequence (evalEach h body hbody) fun _ => h.result _
  | .vector q [] :: _, hargs | .vector q [.literal _ _, _] :: _, hargs
  | .vector q [.call _ _, _] :: _, hargs | .vector q [.vector _ _, _] :: _, hargs
  | .vector q [.map _ _, _] :: _, hargs =>
    h.fail _ (hargs _ (mem_subformsAll List.mem_cons_self))
  | .vector q [f] :: _, hargs | .vector q (f :: _ :: _ :: _) :: _, hargs => by
    have hq := hargs _ (mem_subformsAll List.mem_cons_self)
    cases f <;> exact h.fail _ hq
  | .literal q _ :: _, hargs | .symbol q _ :: _, hargs | .call q _ :: _, hargs
  | .map q _ :: _, hargs => h.fail _ (hargs _ (mem_subformsAll List.mem_cons_self))

theorem evalApply (h : EvalRules At Rule) {p : Position} (hp : At p) : (args : List Form) →
    Covers At (subformsAll args) → Rule (LayeredSite.evalApply p args)
  | [], _ => h.fail _ hp
  | f :: args, hargs => by
    obtain ⟨hf, hrest⟩ := List.forall_mem_append.mp hargs
    unfold LayeredSite.evalApply
    split
    · exact h.fail _ hp
    · refine h.sequence (evalArguments h args hrest) fun values => ?_
      exact h.calls.applyForm ⟨rfl, hp⟩ values ⟨rfl, hf f (mem_subforms f)⟩

theorem evalArguments (h : EvalRules At Rule) : (args : List Form) →
    Covers At (subformsAll args) → Rule (LayeredSite.evalArguments args)
  | [], _ => h.result []
  | [last], hargs => by
    have hlast := (List.forall_mem_append.mp hargs).1
    have hq := hlast last (mem_subforms last)
    refine h.sequence (eval h last hlast) fun _ => ?_
    exact h.sequence (h.calls.resolved ⟨rfl, hq⟩ _) fun _ => h.calls.spreadItems ⟨rfl, hq⟩ _
  | f :: g :: rest, hargs => by
    obtain ⟨hf, hrest⟩ := List.forall_mem_append.mp hargs
    refine h.sequence (eval h f hf) fun _ => ?_
    exact h.sequence (evalArguments h (g :: rest) hrest) fun _ => h.result _

end

end EvalRules
end LayeredSite

namespace LayeredSite.ReadRules

variable {Rule : ∀ {α : Type}, (α → Prop) → Reading α → Prop} {Reach : ℕ → CellId → Prop}
  {E : TemplateError → Prop} {α β : Type} {Q : α → Prop}

theorem any (h : ReadRules Rule Reach E) {x : Reading α} (hx : Rule Q x) : Rule anything x := by
  rw [← bind_pure x]
  exact h.sequence hx fun _ _ => h.result trivial

theorem itemTexts (h : ReadRules Rule Reach E) (hreach : ∀ c, Known Reach c)
    (items : List Value) : Rule anything (Call.itemTexts items) := by
  unfold Call.itemTexts
  induction items with
  | nil => exact h.result trivial
  | cons v rest ih =>
    rw [List.mapM_cons]
    refine h.sequence (h.text fun c _ => hreach c) fun _ _ => ?_
    exact h.sequence ih fun _ _ => h.result trivial

theorem reading (h : ReadRules Rule Reach E) {x : Reading α} (hx : Rule Q x) (scope : Scope) :
    Rule anything (Eval.reading x scope) := by
  have hrun : Eval.reading x scope = (do return (.ok (← x), scope) : Reading _) := by
    funext cells
    rw [Eval.reading_run, Reading.bind_pure_run]
  rw [hrun]
  exact h.sequence hx fun _ _ => h.result trivial

theorem evaluation (h : ReadRules Rule Reach E) (hreach : ∀ c, Known Reach c) :
    EvalRules (fun _ => True) fun {α} (x : Eval α) => ∀ scope, Rule anything (x scope) where
  result _ _ := h.result trivial
  fail _ _ _ := h.result trivial
  sequence := by
    intro α β x f hx hf scope
    have hrun : (x >>= f) scope =
        (x scope >>= fun o => ExceptT.bindCont f o.1 o.2 : Reading _) := rfl
    rw [hrun]
    refine h.sequence (hx scope) fun o _ => ?_
    obtain ⟨r, scope'⟩ := o
    cases r with
    | ok a => exact hf a scope'
    | error e => exact h.result trivial
  lookup _ _ := h.result trivial
  bind _ _ _ := h.result trivial
  leaving := by
    intro α scopeOf x hx scope
    have hrun : Eval.leaving scopeOf x scope = (do
        let o ← x scope
        return (o.1, scopeOf scope o.2) : Reading _) := by
      funext cells
      rw [Eval.leaving, Reading.bind_pure_run]
    rw [hrun]
    exact h.sequence (hx scope) fun _ _ => h.result trivial
  text v := h.reading (h.text fun c _ => hreach c)
  texts items := h.reading (h.itemTexts hreach items)
  resolve v := h.reading (h.resolve fun c _ => hreach c)
  field v key := h.reading (h.field key fun c _ => hreach c)

end LayeredSite.ReadRules
