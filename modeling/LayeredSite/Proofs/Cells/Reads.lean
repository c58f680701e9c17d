import LayeredSite.Markup.Serialize
import LayeredSite.Proofs.Cells.Parallel

namespace LayeredSite

inductive Access
  | force
  | text
  | field (key : Value)
  | markup (format : Option Dialect)

inductive Answer
  | outcome (o : Outcome)
  | text (t : String)
  | markup (r : Except TemplateError String)

def Access.run (c : CellId) : Access → Reading Answer
  | .force => do return .outcome (← LayeredSite.force c)
  | .text => do return .text (← (Value.deferred c).text)
  | .field key => do return .outcome (← (Value.deferred c).field key)
  | .markup format => do return .markup (← (Markup.serialize format (.deferred c)).run)

def Access.runAll : List (CellId × Access) → Reading (List Answer)
  | [] => pure []
  | (c, access) :: rest => do
    let answer ← access.run c
    return answer :: (← runAll rest)

def Answer.In (P : CellId → Prop) (E : TemplateError → Prop) : Answer → Prop
  | outcome o => OutcomeIn P E o
  | text _ => True
  | markup r => ResultIn anything E r

theorem Answer.In.mono {P P' : CellId → Prop} {E E' : TemplateError → Prop} {a : Answer}
    (h : a.In P E) (hP : ∀ c, P c → P' c) (hE : ∀ e, E e → E' e) : a.In P' E' := by
  cases a with
  | outcome o => exact OutcomeIn.mono hP hE h
  | text t => trivial
  | markup r =>
    cases r with
    | ok t => trivial
    | error e => exact hE e h

/-- A property of readings and of their results. `Reach n c` says that a walk from the cell over
the outcomes of cells ends within `n` of them; errors are of the class `E`. -/
structure ReadRules (Rule : ∀ {α : Type}, (α → Prop) → Reading α → Prop)
    (Reach : ℕ → CellId → Prop) (E : TemplateError → Prop) : Prop where
  result : ∀ {α : Type} {Q : α → Prop} {a : α}, Q a → Rule Q (pure a)
  sequence : ∀ {α β : Type} {Q : α → Prop} {Q' : β → Prop} {x : Reading α} {f : α → Reading β},
    Rule Q x → (∀ a, Q a → Rule Q' (f a)) → Rule Q' (x >>= f)
  further : ∀ {n : ℕ} {c : CellId}, Reach n c → Reach (n + 1) c
  endless : ∀ {α : Type} {Q : α → Prop} {c : CellId}, Reach 0 c → Rule Q .endless
  force : ∀ {n : ℕ} {c : CellId}, Reach (n + 1) c → Rule (OutcomeIn (Reach n) E) (force c)
  text : ∀ {v : Value}, (∀ c ∈ v.cells, ∃ n, Reach n c) → Rule anything v.text
  /-- The depth of the cells is more than enough for every walk that ends. -/
  depth : ∀ {α : Type} {Q : α → Prop} {f : ℕ → Reading α},
    (∀ n, (∀ m c, Reach m c → Reach n c) → Rule Q (f (n + 1))) →
      Rule Q (get >>= fun cells => f cells.depth)
  markup : ∀ fault, E (.markup fault)

namespace ReadRules

variable {Rule : ∀ {α : Type}, (α → Prop) → Reading α → Prop} {Reach : ℕ → CellId → Prop}
  {E : TemplateError → Prop} {α β : Type} {Q : α → Prop} {Q' : β → Prop}

section Rendering

theorem ok (h : ReadRules Rule Reach E) {a : α} (ha : Q a) :
    Rule (ResultIn Q E) (pure a : Rendering α) := h.result ha

theorem error (h : ReadRules Rule Reach E) {e : TemplateError} (he : E e) :
    Rule (ResultIn Q E) (throw e : Rendering α) := h.result he

theorem lift (h : ReadRules Rule Reach E) {x : Reading α} (hx : Rule Q x) :
    Rule (ResultIn Q E) (liftM x : Rendering α) := by
  have hlift : (liftM x : Rendering α) = (do return .ok (← x) : Reading (Except _ α)) := rfl
  rw [hlift]
  exact h.sequence hx fun _ ha => h.result ha

theorem next (h : ReadRules Rule Reach E) {x : Rendering α} {f : α → Rendering β}
    (hx : Rule (ResultIn Q E) x) (hf : ∀ a, Q a → Rule (ResultIn Q' E) (f a)) :
    Rule (ResultIn Q' E) (x >>= f : Rendering β) := by
  refine h.sequence hx fun r hr => ?_
  cases r with
  | ok a => exact hf a hr
  | error e => exact h.result hr

/-- A check in front of a computation. -/
theorem check (h : ReadRules Rule Reach E) {p : Prop} [Decidable p] {fault : MarkupFault}
    {x : Rendering α} (hx : Rule (ResultIn Q E) x) :
    Rule (ResultIn Q E) (do
      if p then Markup.refuse fault
      x : Rendering α) := by
  split
  · exact h.next (Q := anything) (h.error (h.markup fault)) fun _ _ => hx
  · exact hx

end Rendering

abbrev Known (Reach : ℕ → CellId → Prop) (c : CellId) : Prop := ∃ n, Reach n c

open Markup

theorem attributes (h : ReadRules Rule Reach E) {s : Shorthand} {attrs : Fields Value}
    (hattrs : ∀ c ∈ Value.cellsOf attrs, Known Reach c) :
    Rule (fun fields => ∀ c ∈ Value.cellsOf fields, Known Reach c) (s.attributes attrs) := by
  have hid : ∀ c ∈ Value.cellsOf (s.withId attrs), Known Reach c := by
    intro c hc
    unfold Shorthand.withId at hc
    split at hc
    · rcases Value.mem_cellsOf_insert hc with hc | hc
      · cases hc
      · exact hattrs c hc
    · exact hattrs c hc
  have hclass (explicit : String) : ∀ c ∈ Value.cellsOf (Fields.insert "class"
      (.str (Shorthand.joinClasses s.classes explicit)) (s.withId attrs)), Known Reach c := by
    intro c hc
    rcases Value.mem_cellsOf_insert hc with hc | hc
    · cases hc
    · exact hid c hc
  unfold Shorthand.attributes
  split
  · exact h.result hid
  · cases hv : Fields.get? (s.withId attrs) "class" with
    | some v =>
      have htext := h.text fun c hc => hid c (Value.cellsOf_subset_of_get? hv hc)
      simp only [hv]
      refine h.sequence htext fun explicit _ => ?_
      exact h.result (hclass explicit)
    | none =>
      simp only [hv]
      refine h.sequence (Q := anything) (h.result trivial) fun explicit _ => ?_
      exact h.result (hclass explicit)

theorem attributeOf (h : ReadRules Rule Reach E) (key : String) {v : Value}
    (hv : ∀ c ∈ v.cells, Known Reach c) : Rule anything (Markup.attributeOf key v) := by
  unfold Markup.attributeOf
  split
  · exact h.result trivial
  · exact h.result trivial
  · exact h.sequence (h.text hv) fun _ _ => h.result trivial

theorem attributesOf (h : ReadRules Rule Reach E) (element : String) {fields : Fields Value}
    (hfields : ∀ c ∈ Value.cellsOf fields, Known Reach c) :
    Rule (ResultIn anything E) (Markup.attributesOf element fields) := by
  induction fields with
  | nil => exact h.ok trivial
  | cons e rest ih =>
    obtain ⟨hv, hrest⟩ := List.forall_mem_append.mp hfields
    refine h.check (h.next (h.lift (h.attributeOf e.1 hv)) fun _ _ => ?_)
    exact h.next (ih hrest) fun _ _ => h.ok trivial

theorem opening (h : ReadRules Rule Reach E) (tag : String) {attrs : Fields Value}
    (hattrs : ∀ c ∈ Value.cellsOf attrs, Known Reach c) :
    Rule (ResultIn anything E) (Markup.opening tag attrs) := by
  refine h.next (h.lift (h.attributes hattrs)) fun merged hmerged => h.check ?_
  exact h.next (h.attributesOf _ hmerged) fun _ _ => h.ok trivial

section Events

variable {cell : CellId → Rendering (List Event)}

mutual

theorem eventsWith (h : ReadRules Rule Reach E) : (v : Value) →
    (∀ c ∈ v.cells, Known Reach c ∧ Rule (ResultIn anything E) (cell c)) →
      Rule (ResultIn anything E) (Markup.eventsWith cell v)
  | .nil, _ => h.ok trivial
  | .raw _, _ => h.ok trivial
  | .list items, hcell => eventsAll h items hcell
  | .map _, _ => h.error (h.markup _)
  | .deferred c, hcell => (hcell c (List.mem_singleton_self c)).2
  | .node tag attrs children, hcell => by
    obtain ⟨hattrs, hchildren⟩ := List.forall_mem_append.mp hcell
    refine h.next (h.opening tag fun c hc => (hattrs c hc).1) fun _ _ => ?_
    exact h.next (eventsAll h children hchildren) fun _ _ => h.ok trivial
  | .bool _, hcell => h.next (h.lift (h.text fun c hc => (hcell c hc).1)) fun _ _ => h.ok trivial
  | .int _, hcell => h.next (h.lift (h.text fun c hc => (hcell c hc).1)) fun _ _ => h.ok trivial
  | .float _, hcell => h.next (h.lift (h.text fun c hc => (hcell c hc).1)) fun _ _ => h.ok trivial
  | .str _, _ => h.ok trivial
  | .keyword _, _ => h.ok trivial

theorem eventsAll (h : ReadRules Rule Reach E) : (items : List Value) →
    (∀ c ∈ Value.cellsAll items, Known Reach c ∧ Rule (ResultIn anything E) (cell c)) →
      Rule (ResultIn anything E) (Markup.eventsAll cell items)
  | [], _ => h.ok trivial
  | v :: rest, hcell => by
    obtain ⟨hv, hrest⟩ := List.forall_mem_append.mp hcell
    refine h.next (eventsWith h v hv) fun _ _ => ?_
    exact h.next (eventsAll h rest hrest) fun _ _ => h.ok trivial

end

theorem cellEventsWithin (h : ReadRules Rule Reach E) {n : ℕ} {c : CellId} (hc : Reach n c) :
    Rule (ResultIn anything E) (Markup.cellEventsWithin n c) := by
  induction n generalizing c with
  | zero => exact h.lift (Q := anything) (h.endless hc)
  | succ n ih =>
    refine h.next (h.force hc) fun v hv => h.eventsWith v fun d hd => ?_
    exact ⟨⟨n, hv d hd⟩, ih (hv d hd)⟩

end Events

theorem events (h : ReadRules Rule Reach E) {tree : Value}
    (htree : ∀ c ∈ tree.cells, Known Reach c) :
    Rule (ResultIn anything E) (Markup.events tree) := by
  refine h.depth (f := fun n => Markup.eventsWith (Markup.cellEventsWithin n) tree) fun n hn => ?_
  refine h.eventsWith tree fun c hc => ?_
  obtain ⟨m, hm⟩ := htree c hc
  exact ⟨⟨m, hm⟩, h.cellEventsWithin (h.further (hn m c hm))⟩

theorem serialize (h : ReadRules Rule Reach E) (format : Option Dialect) {tree : Value}
    (htree : ∀ c ∈ tree.cells, Known Reach c) :
    Rule (ResultIn anything E) (Markup.serialize format tree) :=
  h.next (h.events htree) fun _ _ => h.ok trivial

theorem resolve (h : ReadRules Rule Reach E) {v : Value} (hv : ∀ c ∈ v.cells, Known Reach c) :
    Rule (OutcomeIn (Known Reach) E) v.resolve := by
  unfold Value.resolve
  split
  · rename_i c
    obtain ⟨n, hn⟩ := hv c (List.mem_singleton_self c)
    have hknown (o : Outcome) (ho : OutcomeIn (Reach n) E o) : OutcomeIn (Known Reach) E o :=
      ho.mono (fun _ hd => ⟨n, hd⟩) fun _ he => he
    rw [← bind_pure (LayeredSite.force c)]
    exact h.sequence (h.force (h.further hn)) fun o ho => h.result (hknown o ho)
  · exact h.result hv

theorem fieldWithin (h : ReadRules Rule Reach E) (key : Value) {n : ℕ} {v : Value}
    (hv : ∀ c ∈ v.cells, Reach n c) :
    Rule (OutcomeIn (Known Reach) E) (Value.fieldWithin key (n + 1) v) := by
  have hentry (v : Value) (hv : ∀ c ∈ v.cells, Reach n c) :
      Rule (OutcomeIn (Known Reach) E) (v.entry key).resolve :=
    h.resolve fun c hc => ⟨n, hv c (Value.cells_entry_subset v key hc)⟩
  induction n generalizing v with
  | zero =>
    cases v with
    | deferred c =>
      have hc := hv c (List.mem_singleton_self c)
      refine h.sequence (h.force (h.further hc)) fun o ho => ?_
      cases o with
      | ok w => exact h.endless hc
      | error e => exact h.result ho
    | _ => exact hentry _ hv
  | succ n ih =>
    cases v with
    | deferred c =>
      refine h.sequence (h.force (hv c (List.mem_singleton_self c))) fun o ho => ?_
      cases o with
      | ok w =>
        refine ih ho fun u hu => h.resolve fun d hd => ?_
        exact ⟨n, hu d (Value.cells_entry_subset u key hd)⟩
      | error e => exact h.result ho
    | _ => exact hentry _ hv

theorem field (h : ReadRules Rule Reach E) (key : Value) {v : Value}
    (hv : ∀ c ∈ v.cells, Known Reach c) :
    Rule (OutcomeIn (Known Reach) E) (v.field key) := by
  refine h.depth (f := fun n => Value.fieldWithin key n v) fun n hn => ?_
  refine h.fieldWithin key fun c hc => ?_
  obtain ⟨m, hm⟩ := hv c hc
  exact hn m c hm

theorem access (h : ReadRules Rule Reach E) {c : CellId} (hc : Known Reach c) (a : Access) :
    Rule (Answer.In (Known Reach) E) (a.run c) := by
  have hcells : ∀ d ∈ (Value.deferred c).cells, Known Reach d := by
    intro d hd
    rwa [List.mem_singleton.mp hd]
  cases a with
  | force =>
    obtain ⟨n, hn⟩ := hc
    refine h.sequence (h.force (h.further hn)) fun o ho => h.result ?_
    exact ho.mono (fun d hd => ⟨n, hd⟩) fun e he => he
  | text => exact h.sequence (h.text hcells) fun _ _ => h.result trivial
  | field key => exact h.sequence (h.field key hcells) fun _ ho => h.result ho
  | markup format => exact h.sequence (h.serialize format hcells) fun _ hr => h.result hr

end ReadRules
end LayeredSite
