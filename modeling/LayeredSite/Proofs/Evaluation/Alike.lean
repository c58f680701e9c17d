import LayeredSite.Proofs.Evaluation.Functions

namespace LayeredSite

/-- The scopes give these names the same innermost values, or both none. -/
def Scope.AgreeOn (names : List String) (s t : Scope) : Prop :=
  ∀ name ∈ names, s.lookup? name = t.lookup? name

namespace Scope.AgreeOn

variable {names names' : List String} {s t : Scope}

theorem refl (names : List String) (s : Scope) : AgreeOn names s s := fun _ _ => rfl

theorem append_iff : AgreeOn (names ++ names') s t ↔ AgreeOn names s t ∧ AgreeOn names' s t :=
  List.forall_mem_append

/-- One more binding in both scopes, after which its name need not have agreed before. -/
theorem cons {name : String} (h : AgreeOn (names.filter (· ≠ name)) s t) (v : Value) :
    AgreeOn names ((name, v) :: s) ((name, v) :: t) := by
  intro other hother
  by_cases heq : other = name
  · simp [lookup?, heq]
  · have hkept : other ∈ names.filter (· ≠ name) := by simp [hother, heq]
    have hrest := h other hkept
    simpa [lookup?, List.lookup_cons, beq_false_of_ne heq] using hrest

end Scope.AgreeOn

namespace Eval

variable {α β : Type} {s t : Scope}

/-- A run that left its scope in place, under the bindings that it left in front. -/
def onto (s : Scope) (o : Ending α) : Ending α := ((o.1.1, o.1.2 ++ s), o.2)

/-- The runs from two scopes end alike, the same bindings being in front of both scopes. -/
def AlikeBelow (x : Eval α) (s t : Scope) : Prop :=
  ∀ cells, ∃ o : Option (Ending α), x s cells = o.map (onto s) ∧ x t cells = o.map (onto t)

def Alike (x : Eval α) (s t : Scope) : Prop :=
  ∀ cells, ∃ o : Option (Except EvalError α × Cells),
    x s cells = o.map (fun r => ((r.1, s), r.2)) ∧ x t cells = o.map fun r => ((r.1, t), r.2)

namespace Alike

theorem below {x : Eval α} (h : Alike x s t) : AlikeBelow x s t := by
  intro cells
  obtain ⟨o, hs, ht⟩ := h cells
  refine ⟨o.map fun r => ((r.1, []), r.2), ?_, ?_⟩
  · rw [hs, Option.map_map]
    rfl
  · rw [ht, Option.map_map]
    rfl

theorem pure (a : α) : Alike (pure a) s t := fun cells => ⟨some (.ok a, cells), rfl, rfl⟩

theorem fail (p : Position) (fault : EvalFault) : Alike (Eval.fail p fault : Eval α) s t :=
  fun cells => ⟨some (.error ⟨p, fault⟩, cells), rfl, rfl⟩

theorem reading (x : Reading α) : Alike (Eval.reading x) s t := by
  intro cells
  refine ⟨(x cells).map fun r => (.ok r.1, r.2), ?_, ?_⟩
  · rw [reading_run, Option.map_map]
    rfl
  · rw [reading_run, Option.map_map]
    rfl

theorem lookup {name : String} (h : s.lookup? name = t.lookup? name) :
    Alike (Eval.lookup? name) s t := by
  intro cells
  refine ⟨some (.ok (s.lookup? name), cells), rfl, ?_⟩
  rw [h]
  rfl

theorem next {x : Eval α} {f : α → Eval β} (hx : Alike x s t) (hf : ∀ a, Alike (f a) s t) :
    Alike (x >>= f) s t := by
  intro cells
  obtain ⟨o, hs, ht⟩ := hx cells
  simp only [bind_run, hs, ht]
  rcases o with _ | ⟨_ | a, cells'⟩
  · exact ⟨none, rfl, rfl⟩
  · exact ⟨some (.error _, cells'), rfl, rfl⟩
  · exact hf a cells'

/-- Whatever bindings a computation adds are dropped behind it. -/
theorem restoring {x : Eval α} (h : AlikeBelow x s t) : Alike (Eval.restoring x) s t := by
  have hrun {u : Scope} {cells : Cells} {o : Option (Ending α)}
      (hu : x u cells = o.map (onto u)) :
      Eval.restoring x u cells = o.map fun r => ((r.1.1, u), r.2) := by
    rw [Eval.restoring, Eval.leaving, hu]
    cases o with
    | none => rfl
    | some r => simp [onto]
  intro cells
  obtain ⟨o, hs, ht⟩ := h cells
  refine ⟨o.map fun r => (r.1.1, r.2), ?_, ?_⟩
  · rw [hrun hs, Option.map_map]
    rfl
  · rw [hrun ht, Option.map_map]
    rfl

/-- One more binding is dropped behind a computation that leaves its scope as it was. -/
theorem popping {name : String} {v : Value} {x : Eval α}
    (h : Alike x ((name, v) :: s) ((name, v) :: t)) :
    Alike (do Eval.bind name v; Eval.popping x) s t := by
  have hrun {u : Scope} {cells : Cells} {o : Option (Except EvalError α × Cells)}
      (hu : x ((name, v) :: u) cells = o.map fun r => ((r.1, (name, v) :: u), r.2)) :
      (do Eval.bind name v; Eval.popping x) u cells = o.map fun r => ((r.1, u), r.2) := by
    rw [bind_bind_run, Eval.popping, Eval.leaving, hu, Option.map_map]
    rfl
  intro cells
  obtain ⟨o, hs, ht⟩ := h cells
  exact ⟨o, hrun hs, hrun ht⟩

/-- The same run twice leaves its scope as it was. -/
theorem scope_eq {x : Eval α} (h : Alike x s s) {cells cells' : Cells} {s' : Scope}
    {r : Except EvalError α} (hrun : x s cells = some ((r, s'), cells')) : s' = s := by
  obtain ⟨o, hs, -⟩ := h cells
  rw [hs, Option.map_eq_some_iff] at hrun
  obtain ⟨_, -, hend⟩ := hrun
  cases hend
  rfl

/-- Two runs that are alike have the same results and leave the same cells. -/
theorem map_eq {x : Eval α} (h : Alike x s t) (cells : Cells) :
    (x s cells).map (fun o => (o.1.1, o.2)) = (x t cells).map fun o => (o.1.1, o.2) := by
  obtain ⟨o, hs, ht⟩ := h cells
  rw [hs, ht, Option.map_map, Option.map_map]
  rfl

end Alike

namespace AlikeBelow

theorem next {x : Eval α} {f : α → Eval β} (hx : Alike x s t) (hf : ∀ a, AlikeBelow (f a) s t) :
    AlikeBelow (x >>= f) s t := by
  intro cells
  obtain ⟨o, hs, ht⟩ := hx cells
  simp only [bind_run, hs, ht]
  rcases o with _ | ⟨_ | a, cells'⟩
  · exact ⟨none, rfl, rfl⟩
  · exact ⟨some ((.error _, []), cells'), rfl, rfl⟩
  · exact hf a cells'

/-- Binds a name before everything else. -/
theorem bind {name : String} {v : Value} {x : Eval β}
    (hx : AlikeBelow x ((name, v) :: s) ((name, v) :: t)) :
    AlikeBelow (do Eval.bind name v; x) s t := by
  intro cells
  obtain ⟨o, hs, ht⟩ := hx cells
  refine ⟨o.map (onto [(name, v)]), ?_, ?_⟩
  · rw [bind_bind_run, hs, Option.map_map]
    exact congrFun (congrArg _ (funext fun r => by simp [onto])) o
  · rw [bind_bind_run, ht, Option.map_map]
    exact congrFun (congrArg _ (funext fun r => by simp [onto])) o

end AlikeBelow

/-- A function sees values, no names. -/
theorem alike_calls : CallRules Eq fun x _ => Alike x s t where
  result := .pure
  fail fault _ := .fail _ fault
  sequence := .next
  text _ := .reading _
  texts _ := .reading _
  resolve _ := .reading _
  field _ _ := .reading _

theorem Alike.mapM {f : α → Eval β} (hf : ∀ a, Alike (f a) s t) (items : List α) :
    Alike (items.mapM f) s t :=
  alike_calls.mapM (g := f) hf items

end Eval
end LayeredSite
