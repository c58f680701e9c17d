import LayeredSite.Template.Pipeline
import LayeredSite.Proofs.Cells.Parallel
import LayeredSite.Proofs.Cells.Steady
import LayeredSite.Proofs.Evaluation.Steps
import LayeredSite.Template.Document

namespace LayeredSite

/-- Cells with these outcomes, each computed already or about to be. -/
def Cells.Hold (outcomes : List Outcome) (cells : Cells) : Prop :=
  cells.length = outcomes.length ∧ ∀ c o, outcomes[c]? = some o →
    cells.state? c = some (.pending (.outcome o)) ∨ cells.state? c = some (.done o)

def Unlinked (outcomes : List Outcome) : Prop :=
  ∀ o ∈ outcomes, OutcomeIn (fun _ => False) anything o

/-- What forcing gives; a cell that is not there counts as one that cannot be read. -/
def outcomeIn (outcomes : List Outcome) (c : CellId) : Option Outcome :=
  some (outcomes[c]?.getD (.error .readWhileComputing))

variable {outcomes : List Outcome} {s : Cells} {c : CellId} {o : Outcome}

theorem Cells.Hold.computed (h : s.Hold outcomes) (ho : outcomes[c]? = some o)
    (hstate : s.state? c = some (.pending (.outcome o))) :
    ((s.start c).finish c o).Hold outcomes := by
  refine ⟨by simpa [Cells.start, Cells.finish] using h.1, fun d o' ho' => ?_⟩
  by_cases hd : c = d
  · subst hd
    obtain rfl : o = o' := Option.some.inj (ho.symm.trans ho')
    exact .inr (Cells.state?_finish_self (Cells.state?_start_self hstate) o)
  · rw [Cells.state?_finish, if_neg hd, Cells.state?_start, if_neg hd]
    exact h.2 d o' ho'

theorem Cells.Hold.add {cells : Cells} {outcomes : List Outcome} (h : cells.Hold outcomes)
    (o : Outcome) : Cells.Hold (outcomes ++ [o]) (cells ++ [⟨.pending (.outcome o), 0⟩]) := by
  obtain ⟨hlength, hstates⟩ := h
  refine ⟨by simp [hlength], fun c o' ho' => ?_⟩
  rcases Nat.lt_trichotomy c outcomes.length with hc | rfl | hc
  · rw [List.getElem?_append_left hc] at ho'
    rw [Cells.state?, List.getElem?_append_left (hlength ▸ hc)]
    exact hstates c o' ho'
  · rw [List.getElem?_concat_length] at ho'
    cases ho'
    rw [Cells.state?, ← hlength, List.getElem?_concat_length]
    exact .inl rfl
  · rw [List.getElem?_eq_none (by simp; omega)] at ho'
    cases ho'

/-- Outcomes without cells are walked in one step. -/
theorem ends_outcomeIn (h : Unlinked outcomes) (n : ℕ) (c : CellId) :
    Ends (outcomeIn outcomes) (n + 1) c := by
  refine ⟨_, rfl, ?_⟩
  cases ho : outcomes[c]? with
  | none => trivial
  | some o =>
    exact (h o (List.mem_of_getElem? ho)).mono (fun _ => False.elim) fun _ he => he

theorem stages_hold (h : Unlinked outcomes) :
    Stages (Cells.Hold outcomes) (outcomeIn outcomes) outcomes.length where
  length _ hs := hs.1
  force := by
    intro c o ho n s hs
    cases hc : outcomes[c]? with
    | none =>
      have hmissing : s.state? c = none := by
        have hlength := List.getElem?_eq_none_iff.mp hc
        rw [← hs.1] at hlength
        rw [Cells.state?, List.getElem?_eq_none hlength]
        rfl
      rw [outcomeIn, hc] at ho
      cases ho
      exact ⟨s, hs, forceWithin_missing n hmissing⟩
    | some o' =>
      rw [outcomeIn, hc] at ho
      cases ho
      rcases hs.2 c o' hc with hstate | hstate
      · exact ⟨_, hs.computed hc hstate, (forceWithin_pending hstate).mpr ⟨_, rfl, rfl⟩⟩
      · exact ⟨s, hs, forceWithin_done n hstate⟩
  bounded _ c _ := ends_outcomeIn h _ c

namespace Steady

variable {Stage : Cells → Prop} {α β : Type}

theorem next {x : Rendering α} {f : α → Rendering β} (hx : Steady Stage anything x)
    (hf : ∀ a, Steady Stage anything (f a)) : Steady Stage anything (x >>= f : Rendering β) := by
  refine sequence hx fun r _ => ?_
  cases r with
  | ok a => exact hf a
  | error e => exact result trivial

theorem lift {x : Reading α} (hx : Steady Stage anything x) :
    Steady Stage anything (liftM x : Rendering α) := by
  have hlift : (liftM x : Rendering α) = (do return .ok (← x) : Reading (Except _ α)) := rfl
  rw [hlift]
  exact sequence hx fun _ _ => result trivial

/-- Replacing nodes one by one. -/
theorem mapNodes {f : Node → Reading Value} (hf : ∀ n, Steady Stage anything (f n)) (v : Value) :
    Steady Stage anything (Value.mapNodes f v) :=
  parallel.mapNodes (P := fun _ _ => True) (g := f) ⟨fun _ _ => trivial, fun _ => trivial⟩ v
    fun tag attrs _ cs _ _ => hf ⟨tag, attrs, cs⟩

theorem transform {pipeline : Pipeline} (h : ∀ f ∈ pipeline, ∀ v, Steady Stage anything (f v))
    (v : Value) : Steady Stage anything (pipeline.transform v) := by
  unfold Pipeline.transform
  induction pipeline generalizing v with
  | nil => exact result trivial
  | cons f rest ih =>
    obtain ⟨hf, hrest⟩ := List.forall_mem_cons.mp h
    exact sequence (hf v) fun w _ => ih hrest w

end Steady

section Hold

variable (h : Unlinked outcomes)

include h

theorem steady_text (v : Value) : Steady (Cells.Hold outcomes) anything v.text :=
  Steady.text (stages_hold h) fun c _ => ⟨1, ends_outcomeIn h 0 c⟩

theorem steady_evaluation : EvalRules (fun _ => True) fun {α} (x : Eval α) =>
    ∀ scope, Steady (Cells.Hold outcomes) anything (x scope) :=
  (Steady.rules (stages_hold h)).evaluation fun c => ⟨1, ends_outcomeIn h 0 c⟩

theorem Body.steady_render (b : Body) (site : Value) (content : List Value) :
    Steady (Cells.Hold outcomes) anything (b.render site content) := by
  obtain ⟨⟨r, scope⟩, -, hrun⟩ :=
    (steady_evaluation h).evalEach b.forms (fun _ _ => trivial) (Scope.ofSite site content)
  refine ⟨match r with
    | .ok values => .ok (.list values)
    | .error e => .error (.evaluation b.name e.position e.fault), trivial, fun s hs => ?_⟩
  obtain ⟨t, ht, ho⟩ := hrun s hs
  refine ⟨t, ht, ?_⟩
  rw [Body.render, ho]
  cases r <;> rfl

theorem Layer.steady_wrap (layers : List Layer) (site inner : Value) :
    Steady (Cells.Hold outcomes) anything (Layer.wrap layers site inner) := by
  unfold Layer.wrap
  induction layers generalizing inner with
  | nil => exact .result trivial
  | cons layer rest ih => exact .next (layer.body.steady_render h site [inner]) ih

theorem Document.steady_render (d : Document) (site : Value) (content : List Value) :
    Steady (Cells.Hold outcomes) anything (d.render site content) :=
  .next (d.body.steady_render h _ content) fun inner => Layer.steady_wrap h d.layers _ inner

theorem Markup.steady_serialize (format : Option Dialect) (tree : Value) :
    Steady (Cells.Hold outcomes) anything (serialize format tree) :=
  (Steady.rules (stages_hold h)).any
    ((Steady.rules (stages_hold h)).serialize format fun c _ => ⟨1, ends_outcomeIn h 0 c⟩)

theorem Markdown.steady_transformer (render : String → String) (v : Value) :
    Steady (Cells.Hold outcomes) anything (transformer render v) := by
  refine Steady.mapNodes (fun n => ?_) v
  unfold renderNode
  split
  · exact .sequence (steady_text h _) fun _ _ => .result trivial
  · exact .result trivial

end Hold
end LayeredSite
