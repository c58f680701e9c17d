import LayeredSite.Template.Pipeline
import LayeredSite.Proofs.Cells.Foreseen
import LayeredSite.Proofs.Cells.Parallel

namespace LayeredSite

variable {α β : Type} {cells cells' : Cells} {render : String → String} {tag : String}
  {v w : Value}

namespace Reading

def Yields (Q : α → Prop) (x : Reading α) : Prop := ∀ ⦃s a t⦄, x s = some (a, t) → Q a

/-- The reading reads nothing, and its result is of the class. -/
def ReadsNothing (Q : α → Prop) (x : Reading α) : Prop := ∃ a, Q a ∧ x = pure a

theorem yields_parallel : @Parallel Reading Reading _ _ fun Q x _ => Yields Q x where
  result ha s b t h := by
    cases h
    exact ha
  sequence hx hf s b t h := by
    obtain ⟨a, between, hfirst, hrest⟩ := bind_eq_some_iff.mp h
    exact hf a (hx hfirst) hrest

theorem readsNothing_parallel : @Parallel Reading Reading _ _ fun Q x _ => ReadsNothing Q x where
  result ha := ⟨_, ha, rfl⟩
  sequence := by
    rintro _ _ _ _ _ _ _ _ ⟨a, ha, rfl⟩ hf
    rw [pure_bind]
    exact hf a ha

end Reading

namespace Value

def Without (tag : String) (v : Value) : Prop :=
  ∀ attrs children, .node tag attrs children ∉ v.parts

theorem without_list {items : List Value} (h : ∀ v ∈ items, v.Without tag) :
    (list items).Without tag := by
  intro attrs children hmem
  rw [parts, List.mem_cons, mem_partsAll_iff] at hmem
  rcases hmem with hmem | ⟨v, hv, hmem⟩
  · cases hmem
  · exact h v hv attrs children hmem

theorem without_node {t : String} {attrs : Fields Value} {children : List Value} (ht : t ≠ tag)
    (h : ∀ v ∈ children, v.Without tag) : (node t attrs children).Without tag := by
  intro attrs' children' hmem
  rw [parts, List.mem_cons, mem_partsAll_iff] at hmem
  rcases hmem with hmem | ⟨v, hv, hmem⟩
  · cases hmem
    exact ht rfl
  · exact h v hv attrs' children' hmem

theorem without_of_kind (hlist : v.kind ≠ .list) (hnode : v.kind ≠ .node) : v.Without tag := by
  intro attrs children hmem
  cases v with
  | list items => exact hlist rfl
  | node t attrs children => exact hnode rfl
  | _ => simp [parts] at hmem

theorem without_raw (tag markup : String) : (raw markup).Without tag :=
  without_of_kind (by simp [kind]) (by simp [kind])

/-- The second tree is the first one with the outermost nodes of the tag replaced by raw markup. -/
inductive OutermostRaw (tag : String) : Value → Value → Prop
  | tagged {attrs : Fields Value} {children : List Value} {markup : String} :
      OutermostRaw tag (.node tag attrs children) (.raw markup)
  | node {t : String} {attrs : Fields Value} {children cs : List Value} : t ≠ tag →
      List.Forall₂ (OutermostRaw tag) children cs →
      OutermostRaw tag (.node t attrs children) (.node t attrs cs)
  | list {items ws : List Value} : List.Forall₂ (OutermostRaw tag) items ws →
      OutermostRaw tag (.list items) (.list ws)
  | leaf {v : Value} : v.kind ≠ .list → v.kind ≠ .node → OutermostRaw tag v v

theorem forall₂_right {P : Value → Prop} {items ws : List Value}
    (h : List.Forall₂ (fun _ w => P w) items ws) : ∀ w ∈ ws, P w := by
  induction h with
  | nil => simp
  | cons hw _ ih => exact List.forall_mem_cons.mpr ⟨hw, ih⟩

theorem pointwise_without (tag : String) : Pointwise fun _ w => w.Without tag where
  leaf := without_of_kind
  list h := without_list (forall₂_right h)

theorem pointwise_outermostRaw (tag : String) : Pointwise (OutermostRaw tag) where
  leaf := .leaf
  list := .list

theorem pointwise_eq : Pointwise (· = ·) where
  leaf _ _ := rfl
  list h := by
    rw [List.forall₂_eq_eq_eq] at h
    rw [h]

theorem cellsAll_subset {items ws : List Value}
    (h : List.Forall₂ (fun v w => w.cells ⊆ v.cells) items ws) : cellsAll ws ⊆ cellsAll items := by
  induction h with
  | nil => exact fun _ => id
  | cons hw _ ih =>
    exact List.append_subset.mpr ⟨List.subset_append_of_subset_left _ hw,
      List.subset_append_of_subset_right _ ih⟩

theorem pointwise_cells : Pointwise fun v w => w.cells ⊆ v.cells where
  leaf _ _ := fun _ => id
  list h := cellsAll_subset h

mutual

/-- Replaces the nodes of a tag from the root, and none that stand inside of such a node. -/
def replaceOutermost (tag : String) (f : List Value → Reading Value) : Value → Reading Value
  | list items => do return list (← replaceOutermostAll tag f items)
  | node t attrs children =>
    if t = tag then f children
    else do return node t attrs (← replaceOutermostAll tag f children)
  | v => pure v

def replaceOutermostAll (tag : String) (f : List Value → Reading Value) :
    List Value → Reading (List Value)
  | [] => pure []
  | v :: rest => do
    let w ← replaceOutermost tag f v
    return w :: (← replaceOutermostAll tag f rest)

end

end Value

namespace Markdown

open Value

/-- The markup of a Markdown node: the Markdown nodes among its children are rendered first, and
then its own text. -/
def markupOf (render : String → String) (children : List Value) : Reading Value := do
  let inner ← children.mapM (transformer render)
  return .raw (render (← (Value.list inner).text))

theorem mapM_transformer (render : String → String) (items : List Value) :
    mapNodesAll (renderNode render) items = items.mapM (transformer render) := by
  induction items with
  | nil => rfl
  | cons v rest ih =>
    rw [mapNodesAll, List.mapM_cons, ih]
    rfl

theorem renderNode_markdown (render : String → String) (attrs : Fields Value)
    (children : List Value) : renderNode render ⟨"markdown", attrs, children⟩ =
      (Value.list children).text >>= fun source => pure (.raw (render source)) := rfl

theorem renderNode_of_ne (render : String → String) (h : tag ≠ "markdown") (attrs : Fields Value)
    (children : List Value) :
    renderNode render ⟨tag, attrs, children⟩ = pure (.node tag attrs children) := if_neg h

mutual

theorem transformer_eq (render : String → String) : (v : Value) →
    transformer render v = v.replaceOutermost "markdown" (markupOf render)
  | .list items => by
    rw [replaceOutermost, ← transformerAll_eq render items]
    rfl
  | .node t attrs children => by
    rw [replaceOutermost, ← transformerAll_eq render children, markupOf]
    by_cases ht : t = "markdown"
    · subst ht
      rw [if_pos rfl, ← mapM_transformer]
      rfl
    · rw [if_neg ht]
      exact bind_congr fun cs => renderNode_of_ne render ht attrs cs
  | .nil => rfl
  | .bool _ => rfl
  | .int _ => rfl
  | .float _ => rfl
  | .str _ => rfl
  | .keyword _ => rfl
  | .raw _ => rfl
  | .map _ => rfl
  | .deferred _ => rfl

theorem transformerAll_eq (render : String → String) : (items : List Value) →
    mapNodesAll (renderNode render) items =
      replaceOutermostAll "markdown" (markupOf render) items
  | [] => rfl
  | v :: rest => by
    rw [replaceOutermostAll, ← transformer_eq render v, ← transformerAll_eq render rest]
    rfl

end

/-- What holds of raw markup in place of a Markdown node, and of the other nodes if it holds of
their children, holds of every tree that comes out. -/
theorem yields_transformer {P : Value → Value → Prop} (hP : Pointwise P)
    (hraw : ∀ attrs children markup, P (.node "markdown" attrs children) (.raw markup))
    (hnode : ∀ t attrs children cs, t ≠ "markdown" → List.Forall₂ P children cs →
      P (.node t attrs children) (.node t attrs cs)) (render : String → String) (v : Value) :
    Reading.Yields (P v) (transformer render v) := by
  refine Reading.yields_parallel.mapNodes (g := renderNode render) hP v
    fun t attrs children cs _ hcs => ?_
  by_cases ht : t = "markdown"
  · subst ht
    rw [renderNode_markdown]
    exact Reading.yields_parallel.sequence (Q := anything) (y := (Value.list cs).text)
      (g := fun source => pure (.raw (render source))) (fun _ _ _ _ => trivial)
      fun source _ => Reading.yields_parallel.result (hraw attrs children (render source))
  · rw [renderNode_of_ne render ht]
    exact Reading.yields_parallel.result (hnode t attrs children cs ht hcs)

theorem outermostRaw_transformer (render : String → String) (v : Value) :
    Reading.Yields (OutermostRaw "markdown" v) (transformer render v) :=
  yields_transformer (pointwise_outermostRaw "markdown") (fun _ _ _ => .tagged)
    (fun _ _ _ _ => .node) render v

theorem without_transformer (render : String → String) (v : Value) :
    Reading.Yields (Without "markdown") (transformer render v) :=
  yields_transformer (pointwise_without "markdown") (fun _ _ => without_raw "markdown")
    (fun _ _ _ _ ht hcs => without_node ht (forall₂_right hcs)) render v

theorem transformer_of_without (render : String → String) (h : v.Without "markdown") :
    transformer render v = pure v := by
  obtain ⟨w, rfl, hw⟩ := Reading.readsNothing_parallel.mapNodes (f := renderNode render)
    (g := renderNode render) pointwise_eq v fun t attrs children cs hmem hcs => by
      rw [List.forall₂_eq_eq_eq] at hcs
      subst hcs
      refine ⟨_, rfl, renderNode_of_ne render ?_ attrs children⟩
      rintro rfl
      exact h attrs children hmem
  exact hw

theorem transformer_twice (render : String → String) (v : Value) :
    transformer render v >>= transformer render = transformer render v := by
  rw [← bind_pure (transformer render v), bind_assoc]
  funext cells
  refine Reading.bind_congr_run fun w between hrun => ?_
  rw [pure_bind, transformer_of_without render (without_transformer render v hrun)]

/-- What is read is the text inside of Markdown nodes. -/
theorem settled_transformer (render : String → String)
    (h : ∀ attrs children, .node "markdown" attrs children ∈ v.parts →
      ∀ c ∈ cellsAll children, ∃ n, Ends cells.uncached n c) :
    cells.SettledIn (fun w => w.cells ⊆ v.cells) (transformer render v) := by
  refine Cells.settledIn_parallel.mapNodes (g := renderNode render) pointwise_cells v
    fun t attrs children cs hmem hcs => ?_
  by_cases ht : t = "markdown"
  · subst ht
    rw [renderNode_markdown]
    have hcells : ∀ c ∈ (Value.list cs).cells, ∃ n, Ends cells.uncached n c :=
      fun c hc => h attrs children hmem c (cellsAll_subset hcs hc)
    exact Cells.settledIn_sequence ((Cells.settled_rules cells).text hcells) fun source _ =>
      Cells.settledIn_parallel.result (List.nil_subset _)
  · rw [renderNode_of_ne render ht]
    refine Cells.settledIn_parallel.result (List.append_subset.mpr ⟨?_, ?_⟩)
    · exact List.subset_append_left _ _
    · exact List.subset_append_of_subset_right _ (cellsAll_subset hcs)

/-- Rendering the Markdown nodes of a tree, by any function from text to text, is replacing the
outermost ones by the markup of their text, in which those inside have been rendered before. Of
every tree that it gives, the rest is as it was, and no Markdown node is left. It does nothing to a
tree without Markdown nodes, so doing it twice is doing it once. It ends if the deferred values
inside of Markdown nodes can be read. -/
theorem transformer_complete_local_idempotent (render : String → String) (v : Value) :
    transformer render v = v.replaceOutermost "markdown" (markupOf render) ∧
    (∀ cells w cells', transformer render v cells = some (w, cells') →
      w.Without "markdown" ∧ OutermostRaw "markdown" v w) ∧
    (v.Without "markdown" → transformer render v = pure v) ∧
    transformer render v >>= transformer render = transformer render v ∧
    ∀ cells : Cells,
      (∀ attrs children, .node "markdown" attrs children ∈ v.parts →
        ∀ c ∈ cellsAll children, ∃ n, Ends cells.uncached n c) →
      ∃ w cells', transformer render v cells = some (w, cells') := by
  refine ⟨transformer_eq render v, fun cells w cells' hrun => ?_, transformer_of_without render,
    transformer_twice render v, fun cells hcells => ?_⟩
  · exact ⟨without_transformer render v hrun, outermostRaw_transformer render v hrun⟩
  · obtain ⟨w, -, hsettled⟩ := settled_transformer render hcells
    exact ⟨w, hsettled.run⟩

/-- The tree of `[:div [:markdown "a" [:markdown "b"]] "c"]`. -/
def nested : Value :=
  .node "div" [] [.node "markdown" [] [.str "a", .node "markdown" [] [.str "b"]], .str "c"]

/-- The inner node is rendered first and becomes a part of the text of the outer one. -/
theorem transformer_nested :
    let bracket : String → String := fun source => "<" ++ source ++ ">"
    let rendered : Value := .node "div" [] [.raw "<a<b>>", .str "c"]
    transformer bracket nested [] = some (rendered, []) ∧ rendered.Without "markdown" ∧
      OutermostRaw "markdown" nested rendered ∧ transformer bracket rendered = pure rendered ∧
      ∃ w cells', transformer bracket nested [] = some (w, cells') := by
  intro bracket rendered
  have hrun : transformer bracket nested [] = some (rendered, []) := rfl
  obtain ⟨-, hresults, -, -, hends⟩ := transformer_complete_local_idempotent bracket nested
  obtain ⟨-, -, hsame, -⟩ := transformer_complete_local_idempotent bracket rendered
  obtain ⟨hwithout, houtermost⟩ := hresults [] rendered [] hrun
  have hcells : ∀ u ∈ nested.parts, u.cells = [] := by
    simp [nested, parts, partsAll, Value.cells, cellsAll, cellsOf]
  refine ⟨hrun, hwithout, houtermost, hsame hwithout, hends [] fun attrs children hmem c hc => ?_⟩
  have hmem' : c ∈ (Value.node "markdown" attrs children).cells := List.mem_append_right _ hc
  rw [hcells _ hmem] at hmem'
  cases hmem'

end Markdown
end LayeredSite
