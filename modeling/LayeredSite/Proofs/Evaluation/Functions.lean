import LayeredSite.Template.Eval

namespace LayeredSite.Eval

variable {α β : Type} {s s' : Scope} {cells cells' : Cells}

abbrev Ending (α : Type) := (Except EvalError α × Scope) × Cells

/-- The second computation runs where the first one succeeds. -/
theorem bind_run (x : Eval α) (f : α → Eval β) (s : Scope) (cells : Cells) :
    (x >>= f) s cells = (x s cells).bind fun o =>
      match o.1.1 with
      | .ok a => f a o.1.2 o.2
      | .error e => some ((.error e, o.1.2), o.2) := by
  change (x s cells).bind (fun o => ExceptT.bindCont f o.1.1 o.1.2 o.2) = _
  refine congrArg _ (funext fun o => ?_)
  rcases o with ⟨⟨_ | _, _⟩, _⟩ <;> rfl

/-- Binding a name and going on is going on with the name bound. -/
theorem bind_bind_run (name : String) (v : Value) (x : Eval β) (s : Scope) (cells : Cells) :
    (do bind name v; x) s cells = x ((name, v) :: s) cells := rfl

theorem bind_of_ok {x : Eval α} {a : α} (h : x s cells = some ((.ok a, s'), cells'))
    (f : α → Eval β) : (x >>= f) s cells = f a s' cells' := by
  rw [bind_run, h]
  rfl

/-- A run of a sequence ends where its first part fails, or where its second part ends. -/
theorem bind_cases {x : Eval α} {f : α → Eval β} {o : Ending β} (h : (x >>= f) s cells = some o) :
    (∃ e s' cells', x s cells = some ((.error e, s'), cells') ∧ o = ((.error e, s'), cells')) ∨
      ∃ a s' cells', x s cells = some ((.ok a, s'), cells') ∧ f a s' cells' = some o := by
  rw [bind_run] at h
  obtain ⟨⟨⟨r, s'⟩, cells'⟩, hx, hf⟩ := Option.bind_eq_some_iff.mp h
  cases r with
  | ok a => exact .inr ⟨a, s', cells', hx, hf⟩
  | error e => exact .inl ⟨e, s', cells', hx, (Option.some.inj hf).symm⟩

/-- What comes second matters only where the first part succeeds. -/
theorem bind_run_congr {x : Eval α} {f g : α → Eval β}
    (h : ∀ a s' cells', x s cells = some ((.ok a, s'), cells') → f a s' cells' = g a s' cells') :
    (x >>= f) s cells = (x >>= g) s cells := by
  rw [bind_run, bind_run]
  refine Option.bind_congr fun o ho => ?_
  obtain ⟨⟨r, s'⟩, cells'⟩ := o
  cases r with
  | ok a => exact h a s' cells' ho
  | error e => rfl

/-- Reading cells does not fail and leaves the scope. -/
theorem reading_run (x : Reading α) (s : Scope) (cells : Cells) :
    reading x s cells = (x cells).map fun r => ((.ok r.1, s), r.2) := by
  change ((x cells).bind fun r => some ((r.1, s), r.2)).bind
    (fun r => some ((Except.ok r.1.1, r.1.2), r.2)) = _
  cases x cells <;> rfl

end LayeredSite.Eval

namespace LayeredSite

/-- A relation of evaluations that holds of the same single steps, and of the same failure at two
positions of a relation, and is kept by sequences. -/
structure CallRules (At : Position → Position → Prop)
    (Rel : ∀ {α : Type}, Eval α → Eval α → Prop) : Prop where
  result : ∀ {α : Type} (a : α), Rel (pure a) (pure a)
  fail : ∀ {α : Type} {p q : Position} (fault : EvalFault), At p q →
    Rel (Eval.fail p fault : Eval α) (Eval.fail q fault)
  sequence : ∀ {α β : Type} {x y : Eval α} {f g : α → Eval β}, Rel x y →
    (∀ a, Rel (f a) (g a)) → Rel (x >>= f) (y >>= g)
  text : ∀ v : Value, Rel (Eval.reading v.text) (Eval.reading v.text)
  texts : ∀ items : List Value,
    Rel (Eval.reading (Call.itemTexts items)) (Eval.reading (Call.itemTexts items))
  resolve : ∀ v : Value, Rel (Eval.reading v.resolve) (Eval.reading v.resolve)
  field : ∀ v key : Value, Rel (Eval.reading (v.field key)) (Eval.reading (v.field key))

namespace CallRules

variable {At : Position → Position → Prop} {Rel : ∀ {α : Type}, Eval α → Eval α → Prop}
  {α β : Type} {p q : Position}

theorem map (h : CallRules At Rel) {x y : Eval α} (f : α → β) (hx : Rel x y) :
    Rel (f <$> x) (f <$> y) := by
  rw [map_eq_pure_bind, map_eq_pure_bind]
  exact h.sequence hx fun _ => h.result _

theorem mapM (h : CallRules At Rel) {f g : α → Eval β} (hf : ∀ a, Rel (f a) (g a))
    (items : List α) : Rel (items.mapM f) (items.mapM g) := by
  induction items with
  | nil => exact h.result _
  | cons a rest ih =>
    rw [List.mapM_cons, List.mapM_cons]
    exact h.sequence (hf a) fun _ => h.sequence ih fun _ => h.result _

theorem reported (h : CallRules At Rel) (hp : At p q) {x : Reading Outcome}
    (hx : Rel (Eval.reading x) (Eval.reading x)) :
    Rel (Eval.reported p x) (Eval.reported q x) := by
  refine h.sequence hx fun o => ?_
  cases o with
  | ok v => exact h.result v
  | error e => exact h.fail _ hp

theorem resolved (h : CallRules At Rel) (hp : At p q) (v : Value) :
    Rel (Eval.resolve v p) (Eval.resolve v q) :=
  h.reported hp (h.resolve v)

theorem mapKey (h : CallRules At Rel) (hp : At p q) (v : Value) :
    Rel (Eval.mapKey p v) (Eval.mapKey q v) := by
  cases v with
  | keyword k => exact h.result k
  | str k => exact h.result k
  | _ => exact h.fail _ hp

theorem spreadItems (h : CallRules At Rel) (hp : At p q) (v : Value) :
    Rel (Eval.spreadItems p v) (Eval.spreadItems q v) := by
  cases v with
  | list items => exact h.result items
  | nil => exact h.result []
  | _ => exact h.fail _ hp

theorem loopItems (h : CallRules At Rel) (hp : At p q) (v : Value) :
    Rel (Eval.loopItems p v) (Eval.loopItems q v) := by
  cases v with
  | list items => exact h.result items
  | nil => exact h.result []
  | _ => exact h.fail _ hp

open Call

theorem number (h : CallRules At Rel) (hp : At p q) (v : Value) :
    Rel (number p v) (number q v) := by
  unfold Call.number
  split
  · exact h.result _
  · exact h.fail _ hp

theorem arithmetic (h : CallRules At Rel) (hp : At p q) (r : Except EvalFault Num) :
    Rel (arithmetic p r) (arithmetic q r) := by
  cases r with
  | ok n => exact h.result n
  | error fault => exact h.fail fault hp

theorem fold (h : CallRules At Rel) (hp : At p q) (op : Num → Num → Except EvalFault Num)
    (acc : Num) (args : List Value) : Rel (fold p op acc args) (fold q op acc args) := by
  induction args generalizing acc with
  | nil => exact h.result acc
  | cons v rest ih => exact h.sequence (h.number hp v) fun n => h.sequence (h.arithmetic hp _) ih

theorem apply (h : CallRules At Rel) (hp : At p q) (f : Builtin) (args : List Value) :
    Rel (apply f args p) (apply f args q) := by
  have hfold (op : Num → Num → Except EvalFault Num) (acc : Num) (args : List Value) :
      Rel (Num.toValue <$> Call.fold p op acc args) (Num.toValue <$> Call.fold q op acc args) :=
    h.map _ (h.fold hp op acc args)
  have hnumbers : Rel (args.mapM (Call.number p)) (args.mapM (Call.number q)) :=
    h.mapM (h.number hp) args
  unfold Call.apply
  split
  any_goals with_reducible first
    | exact h.result _
    | exact h.fail _ hp
    | exact hfold _ _ _
    | exact h.sequence (h.number hp _) fun _ => h.map _ (h.arithmetic hp _)
    | exact h.sequence (h.number hp _) fun _ => hfold _ _ _
    | exact h.sequence hnumbers fun _ => h.result _
    | exact h.reported hp (h.field _ _)
    | exact h.sequence (h.text _) fun _ => h.result _
  -- A field with a default and joined texts are left.
  · refine h.sequence (h.reported hp (h.field _ _)) fun v => ?_
    split
    · exact h.result _
    · exact h.result v
  · exact h.sequence (h.texts _) fun _ => h.sequence (h.text _) fun _ => h.result _

theorem callNamed (h : CallRules At Rel) (hp : At p q) (name : String) (args : List Value) :
    Rel (callNamed name args p) (callNamed name args q) := by
  refine h.sequence (h.mapM (fun v => h.resolved hp v) args) fun values => ?_
  split
  · exact h.apply hp _ values
  · exact h.fail _ hp

/-- The function that `apply` gets is a name as it stands, and is not looked up. -/
theorem applyForm (h : CallRules At Rel) (hp : At p q) (values : List Value) {f : Form}
    (hf : At f.position f.position) :
    Rel (Eval.applyForm p values f) (Eval.applyForm q values f) := by
  unfold Eval.applyForm
  split
  · split
    · exact h.fail _ hf
    · exact h.callNamed hp _ values
  · split
    · exact h.reported hp (h.field _ _)
    · exact h.fail _ hp
  · exact h.fail _ hf

end CallRules
end LayeredSite
