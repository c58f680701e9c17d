import LayeredSite.Markup.Shorthand
import LayeredSite.Proofs.Fields
import Mathlib.Data.List.Forall2

namespace LayeredSite

namespace Value

mutual

def cells : Value → List CellId
  | list items => cellsAll items
  | map fields => cellsOf fields
  | node _ attrs children => cellsOf attrs ++ cellsAll children
  | deferred c => [c]
  | _ => []

def cellsAll : List Value → List CellId
  | [] => []
  | v :: rest => v.cells ++ cellsAll rest

def cellsOf : List (String × Value) → List CellId
  | [] => []
  | (_, v) :: rest => v.cells ++ cellsOf rest

end

variable {c : CellId} {v : Value}

theorem mem_cellsAll {items : List Value} (hv : v ∈ items) (hc : c ∈ v.cells) :
    c ∈ cellsAll items := by
  induction items with
  | nil => cases hv
  | cons w rest ih =>
    rcases List.mem_cons.mp hv with rfl | hv
    · exact List.mem_append_left _ hc
    · exact List.mem_append_right _ (ih hv)

theorem mem_cellsOf_iff {fields : Fields Value} :
    c ∈ cellsOf fields ↔ ∃ e ∈ fields, c ∈ e.2.cells := by
  induction fields with
  | nil => simp [cellsOf]
  | cons e rest ih => simp [cellsOf, ih]

theorem cellsOf_subset_of_get? {fields : Fields Value} {key : String}
    (h : fields.get? key = some v) : v.cells ⊆ cellsOf fields := by
  intro c hc
  exact mem_cellsOf_iff.mpr ⟨(key, v), Fields.mem_of_get? h, hc⟩

theorem mem_cellsOf_insert {fields : Fields Value} {key : String}
    (h : c ∈ cellsOf (fields.insert key v)) : c ∈ v.cells ∨ c ∈ cellsOf fields := by
  obtain ⟨e, he, hc⟩ := mem_cellsOf_iff.mp h
  rcases Fields.mem_insert he with rfl | he
  · exact .inl hc
  · exact .inr (mem_cellsOf_iff.mpr ⟨e, he, hc⟩)

theorem cells_getD_subset {fields : Fields Value} (key : String) :
    ((fields.get? key).getD nil).cells ⊆ cellsOf fields := by
  cases h : fields.get? key with
  | none => exact List.nil_subset _
  | some v => exact cellsOf_subset_of_get? h

/-- An entry of a value refers to no other cells than the value. -/
theorem cells_entry_subset (v key : Value) : (v.entry key).cells ⊆ v.cells := by
  unfold entry
  split
  · exact cells_getD_subset _
  · exact cells_getD_subset _
  · exact List.Subset.trans (cells_getD_subset _) (List.subset_append_left _ _)
  · exact List.Subset.trans (cells_getD_subset _) (List.subset_append_left _ _)
  · rename_i items i
    split
    · exact List.nil_subset _
    · cases h : items[i.toInt.toNat]? with
      | none => exact List.nil_subset _
      | some v =>
        intro c hc
        exact mem_cellsAll (List.mem_of_getElem? h) hc
  · exact List.nil_subset _

end Value
end LayeredSite

namespace LayeredSite

variable {P P' : CellId → Prop} {E E' : TemplateError → Prop}

def ResultIn {α : Type} (Q : α → Prop) (E : TemplateError → Prop) : Except TemplateError α → Prop
  | .ok a => Q a
  | .error e => E e

abbrev OutcomeIn (P : CellId → Prop) (E : TemplateError → Prop) : Outcome → Prop :=
  ResultIn (fun v => ∀ c ∈ v.cells, P c) E

theorem OutcomeIn.mono (hP : ∀ c, P c → P' c) (hE : ∀ e, E e → E' e) {o : Outcome}
    (h : OutcomeIn P E o) : OutcomeIn P' E' o := by
  cases o with
  | ok v => exact fun c hc => hP c (h c hc)
  | error e => exact hE e h

/-- A recipe reads cells of a class only and has its own errors from a class, as long as the
outcomes that it reads are like this. -/
def Recipe.In (P : CellId → Prop) (E : TemplateError → Prop) : Recipe → Prop
  | outcome o => OutcomeIn P E o
  | force c => P c
  | text c => P c
  | same c => P c
  | andThen first next => first.In P E ∧ ∀ o, OutcomeIn P E o → (next o).In P E

/-- A relation between computations, and a class of their results, that sequences keep. -/
structure Parallel {m m' : Type → Type} [Monad m] [Monad m']
    (Rel : ∀ {α : Type}, (α → Prop) → m α → m' α → Prop) : Prop where
  result : ∀ {α : Type} {Q : α → Prop} {a : α}, Q a → Rel Q (pure a) (pure a)
  sequence : ∀ {α β : Type} {Q : α → Prop} {Q' : β → Prop} {x : m α} {y : m' α} {f : α → m β}
    {g : α → m' β}, Rel Q x y → (∀ a, Q a → Rel Q' (f a) (g a)) → Rel Q' (x >>= f) (y >>= g)

abbrev anything {α : Type} : α → Prop := fun _ => True

abbrev AnyOutcome : Outcome → Prop := OutcomeIn anything anything

theorem anyOutcome (o : Outcome) : AnyOutcome o := by
  cases o with
  | ok v => exact fun _ _ => trivial
  | error e => trivial

theorem anyRecipe (r : Recipe) : r.In anything anything := by
  induction r with
  | outcome o => exact anyOutcome o
  | andThen first next ihfirst ihnext => exact ⟨ihfirst, fun o _ => ihnext o⟩
  | _ => trivial

namespace Parallel

variable {m m' : Type → Type} [Monad m] [Monad m']
  {Rel : ∀ {α : Type}, (α → Prop) → m α → m' α → Prop} {f : CellId → m String}
  {g : CellId → m' String}

mutual

theorem textWith (h : Parallel Rel) : (v : Value) →
    (∀ c ∈ v.cells, Rel anything (f c) (g c)) → Rel anything (v.textWith f) (v.textWith g)
  | .nil, _ => h.result trivial
  | .bool _, _ => h.result trivial
  | .int _, _ => h.result trivial
  | .float _, _ => h.result trivial
  | .str _, _ => h.result trivial
  | .keyword _, _ => h.result trivial
  | .raw _, _ => h.result trivial
  | .list items, hcell => textAll h items hcell
  | .map fields, hcell => h.sequence (textEntries h fields hcell) fun _ _ => h.result trivial
  | .node _ _ children, hcell =>
    textAll h children fun c hc => hcell c (List.mem_append_right _ hc)
  | .deferred c, hcell => hcell c (List.mem_singleton_self c)

theorem textAll (h : Parallel Rel) : (items : List Value) →
    (∀ c ∈ Value.cellsAll items, Rel anything (f c) (g c)) →
      Rel anything (Value.textAll f items) (Value.textAll g items)
  | [], _ => h.result trivial
  | v :: rest, hcell => by
    obtain ⟨hv, hrest⟩ := List.forall_mem_append.mp hcell
    refine h.sequence (textWith h v hv) fun _ _ => ?_
    exact h.sequence (textAll h rest hrest) fun _ _ => h.result trivial

theorem textEntries (h : Parallel Rel) : (fields : List (String × Value)) →
    (∀ c ∈ Value.cellsOf fields, Rel anything (f c) (g c)) →
      Rel anything (Value.textEntries f fields) (Value.textEntries g fields)
  | [], _ => h.result trivial
  | (_, v) :: rest, hcell => by
    obtain ⟨hv, hrest⟩ := List.forall_mem_append.mp hcell
    refine h.sequence (textWith h v hv) fun _ _ => ?_
    exact h.sequence (textEntries h rest hrest) fun _ _ => h.result trivial

end

/-- Along a recipe: what it reads next is in the class if what it has read is. -/
theorem follow (h : Parallel Rel) {x : CellId → m Outcome} {y : CellId → m' Outcome}
    (hforce : ∀ c, P c → Rel (OutcomeIn P E) (x c) (y c))
    (htext : ∀ c, P c → Rel anything (f c) (g c)) (r : Recipe) (hr : r.In P E) :
    Rel (OutcomeIn P E) (r.follow x f) (r.follow y g) := by
  induction r with
  | outcome o => exact h.result hr
  | force c => exact hforce c hr
  | text c => exact h.sequence (htext c hr) fun t _ => h.result (by simp [ResultIn, Value.cells])
  | same c => exact h.result (by simpa [ResultIn, Value.cells, Recipe.In] using hr)
  | andThen first next ihfirst ihnext =>
    obtain ⟨hfirst, hnext⟩ := hr
    exact h.sequence (ihfirst hfirst) fun o ho => ihnext o (hnext o ho)

end Parallel
end LayeredSite

namespace LayeredSite

namespace Value

mutual

def parts : Value → List Value
  | list items => list items :: partsAll items
  | node tag attrs children => node tag attrs children :: partsAll children
  | v => [v]

def partsAll : List Value → List Value
  | [] => []
  | v :: rest => v.parts ++ partsAll rest

end

theorem mem_partsAll_iff {u : Value} {items : List Value} :
    u ∈ partsAll items ↔ ∃ v ∈ items, u ∈ v.parts := by
  induction items with
  | nil => simp [partsAll]
  | cons v rest ih => simp [partsAll, ih]

/-- A relation between values that holds of lists if it holds of their items. -/
structure Pointwise (P : Value → Value → Prop) : Prop where
  leaf : ∀ {v : Value}, v.kind ≠ .list → v.kind ≠ .node → P v v
  list : ∀ {items ws : List Value}, List.Forall₂ P items ws → P (.list items) (.list ws)

end Value

namespace Parallel

variable {m m' : Type → Type} [Monad m] [Monad m']
  {Rel : ∀ {α : Type}, (α → Prop) → m α → m' α → Prop} {f : Node → m Value} {g : Node → m' Value}
  {P : Value → Value → Prop}

mutual

/-- Each node is rewritten where its children have been. -/
theorem mapNodes (h : Parallel Rel) (hP : Value.Pointwise P) : (v : Value) →
    (∀ tag attrs children cs, .node tag attrs children ∈ v.parts → List.Forall₂ P children cs →
      Rel (P (.node tag attrs children)) (f ⟨tag, attrs, cs⟩) (g ⟨tag, attrs, cs⟩)) →
    Rel (P v) (v.mapNodes f) (v.mapNodes g)
  | .list items, hnode =>
    h.sequence (mapNodesAll h hP items fun tag attrs children cs hmem =>
      hnode tag attrs children cs (List.mem_cons_of_mem _ hmem)) fun _ hws => h.result (hP.list hws)
  | .node tag attrs children, hnode =>
    h.sequence (mapNodesAll h hP children fun tag attrs children cs hmem =>
      hnode tag attrs children cs (List.mem_cons_of_mem _ hmem)) fun cs hcs =>
        hnode tag attrs children cs List.mem_cons_self hcs
  | .nil, _ => h.result (hP.leaf nofun nofun)
  | .bool _, _ => h.result (hP.leaf nofun nofun)
  | .int _, _ => h.result (hP.leaf nofun nofun)
  | .float _, _ => h.result (hP.leaf nofun nofun)
  | .str _, _ => h.result (hP.leaf nofun nofun)
  | .keyword _, _ => h.result (hP.leaf nofun nofun)
  | .raw _, _ => h.result (hP.leaf nofun nofun)
  | .map _, _ => h.result (hP.leaf nofun nofun)
  | .deferred _, _ => h.result (hP.leaf nofun nofun)

theorem mapNodesAll (h : Parallel Rel) (hP : Value.Pointwise P) : (items : List Value) →
    (∀ tag attrs children cs, .node tag attrs children ∈ Value.partsAll items →
      List.Forall₂ P children cs →
        Rel (P (.node tag attrs children)) (f ⟨tag, attrs, cs⟩) (g ⟨tag, attrs, cs⟩)) →
    Rel (List.Forall₂ P items) (Value.mapNodesAll f items) (Value.mapNodesAll g items)
  | [], _ => h.result .nil
  | v :: rest, hnode => by
    refine h.sequence (mapNodes h hP v fun tag attrs children cs hmem =>
      hnode tag attrs children cs (List.mem_append_left _ hmem)) fun w hw => ?_
    refine h.sequence (mapNodesAll h hP rest fun tag attrs children cs hmem =>
      hnode tag attrs children cs (List.mem_append_right _ hmem)) fun ws hws => ?_
    exact h.result (.cons hw hws)

end
end Parallel

end LayeredSite
