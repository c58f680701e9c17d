import LayeredSite.Proofs.Fields
import LayeredSite.Proofs.Layouts.Chain
import LayeredSite.Proofs.Rendering
import LayeredSite.Template.Document

namespace LayeredSite

/-- The innermost body gets the content, and each body around it the result inside it as its only
content. The bodies around it are given from the outside. -/
def Body.nested (innermost : Body) (site : Value) (content : List Value) :
    List Body → Rendering Value
  | [] => innermost.render site content
  | outer :: inner => do
    let v ← innermost.nested site content inner
    outer.render site [v]

/-- The site that a document and all of its layouts see. -/
theorem entry_mergeSite {fields : Fields Value} (h : fields.Sorted) (entries : Fields Value)
    (key : String) :
    (mergeSite (.map entries) fields).entry (.str key) =
      (fields.get? key).getD ((Value.map entries).entry (.str key)) := by
  unfold mergeSite
  split
  · rename_i he
    obtain rfl := List.isEmpty_iff.mp he
    rfl
  · simp only [Value.entry, Fields.get?_merge h]
    cases fields.get? key <;> rfl

theorem DocumentOptions.sorted_toFields (o : DocumentOptions) : o.toFields.Sorted :=
  Fields.sorted_ofList _

namespace Body

variable {innermost : Body} {site : Value} {content : List Value}

/-- A failure goes through every body around it. -/
theorem nested_eq_error {inner : List Body} {cells cells' : Cells} {e : TemplateError}
    (h : innermost.nested site content inner cells = some (.error e, cells')) (outer : List Body) :
    innermost.nested site content (outer ++ inner) cells = some (.error e, cells') := by
  induction outer with
  | nil => exact h
  | cons b outer ih => exact Rendering.bind_eq_error ih

end Body

namespace Layer

theorem bind_wrap (layers : List Layer) (innermost : Body) (site : Value) (content : List Value)
    (inner : List Body) :
    (do
      let v ← innermost.nested site content inner
      wrap layers site v) =
      innermost.nested site content ((layers.map Layer.body).reverse ++ inner) := by
  -- From the innermost layer: its body joins those that are already inside.
  induction layers generalizing inner with
  | nil => simp [wrap]
  | cons l layers ih =>
    have hshift : ((l :: layers).map Layer.body).reverse ++ inner =
        (layers.map Layer.body).reverse ++ (l.body :: inner) := by simp
    rw [hshift, ← ih]
    simp [wrap, Body.nested]

theorem format?_eq_getLast? (layers : List Layer) :
    format? layers = (layers.filterMap fun l => l.options.format).getLast? := by
  -- A format that was declared before gives way to each later one.
  have hfold (init : Option Dialect) :
      layers.foldl (fun acc l => l.options.format.or acc) init =
        ((layers.filterMap fun l => l.options.format).getLast?).or init := by
    induction layers generalizing init with
    | nil => rfl
    | cons l layers ih =>
      rw [List.foldl_cons, ih]
      cases hl : l.options.format with
      | none => simp [hl]
      | some f =>
        simp only [List.filterMap_cons, hl, List.getLast?_cons]
        cases (layers.filterMap fun l => l.options.format).getLast? <;> rfl
  simpa [format?] using hfold none

theorem format?_cons (first : Layer) (rest : List Layer) :
    format? (first :: rest) = (format? rest).or first.options.format := by
  rw [format?_eq_getLast?, format?_eq_getLast?, List.filterMap_cons]
  cases first.options.format with
  | none => simp
  | some f =>
    rw [List.getLast?_cons]
    cases (rest.filterMap fun l => l.options.format).getLast? <;> rfl

theorem renderChain_cons (first : Layer) {rest : List Layer} (h : rest ≠ []) (site : Value)
    (content : List Value) :
    renderChain (first :: rest) site content = (do
      let v ← first.body.render site content
      renderChain rest site [v]) := by
  obtain ⟨second, rest, rfl⟩ := List.exists_cons_of_ne_nil h
  simp [renderChain, wrap]

theorem IsLayer.unique {layouts : Source} {name : String} {layer other : Layer}
    (h : IsLayer layouts name layer) (h' : IsLayer layouts name other) : layer = other := by
  obtain ⟨raw, hread, hcompile⟩ := h
  obtain ⟨raw', hread', hcompile'⟩ := h'
  obtain rfl := Except.ok.inj (hread.symm.trans hread')
  exact Except.ok.inj (hcompile.symm.trans hcompile')

theorem chain_ne_nil {layouts : Source} {start : String} {layers : List Layer}
    (h : chain layouts start = .ok layers) : layers ≠ [] := by
  cases chain_eq_iff.mp h with
  | ends hw hlast hl =>
    rintro rfl
    have hlen := hl.length_eq
    simp at hlen

/-- The chain of a layout that names another is its own layer and the chain of the other. -/
theorem chain_cons_iff {layouts : Source} {start next : String} {first : Layer}
    (hf : IsLayer layouts start first) (hn : first.options.layout = some next)
    {layers : List Layer} :
    chain layouts start = .ok layers ↔ ∃ rest, chain layouts next = .ok rest ∧
      layers = first :: rest := by
  have hnext : nextName layouts start = some next := by rw [hf.nextName_eq, hn]
  simp only [chain_eq_iff]
  constructor
  · intro h
    cases h with
    | @ends before last _ hw hlast hl =>
      cases hw with
      | here _ => simp [hnext] at hlast
      | step hs hw =>
        obtain rfl := Option.some.inj (hnext.symm.trans hs)
        obtain ⟨layer, rest, hlayer, hrest, rfl⟩ := List.forall₂_cons_left_iff.mp hl
        exact ⟨rest, .ends hw hlast hrest, by rw [hf.unique hlayer]⟩
  · rintro ⟨rest, h, rfl⟩
    cases h with
    | ends hw hlast hl => exact .ends (.step hnext hw) hlast (.cons hf hl)

theorem layers_of_chain {layouts : Source} {start : String} {layers : List Layer}
    (h : chain layouts start = .ok layers) :
    List.Forall₂ (IsLayer layouts) (names layers) layers := by
  cases chain_eq_iff.mp h with
  | ends hw hlast hl => exact (names_of_layers hl).symm ▸ hl

end Layer

theorem Document.render_eq_nested (d : Document) (site : Value) (content : List Value) :
    d.render site content = d.body.nested (mergeSite site d.options.toFields) content
      (d.layers.map Layer.body).reverse := by
  have h := Layer.bind_wrap d.layers d.body (mergeSite site d.options.toFields) content []
  rw [List.append_nil] at h
  exact h

theorem Document.compile_eq_ok {layouts : Source} {name raw start : String} {layer : Layer}
    {layers : List Layer} (hd : Layer.compile name raw = .ok layer)
    (hs : layer.options.layout = some start) (hc : Layer.chain layouts start = .ok layers) :
    Document.compile layouts name raw true = .ok ⟨layer.options, layer.body, layers⟩ := by
  simp [Document.compile, hd, hs, hc, bind, Except.bind, pure, Except.pure]

theorem Document.render_eq_error (d : Document) {site : Value} {content : List Value}
    (inner outer : List Layer) (hl : d.layers = inner ++ outer) {cells cells' : Cells}
    {e : TemplateError}
    (h : d.body.nested (mergeSite site d.options.toFields) content (inner.map Layer.body).reverse
      cells = some (.error e, cells')) :
    d.render site content cells = some (.error e, cells') := by
  rw [d.render_eq_nested, hl, List.map_append, List.reverse_append]
  exact Body.nested_eq_error h _

/-- A document with a layout is rendered as the nested application of its own body and those of its
layers to the one merged site, fails as the innermost failure of these, and has the outermost
declared format. A chain unfolds from the inside. -/
theorem document_nests_in_layouts {layouts : Source} {name raw start : String} {document : Layer}
    {layers : List Layer} (hd : Layer.compile name raw = .ok document)
    (hs : document.options.layout = some start) (hc : Layer.chain layouts start = .ok layers) :
    (∃ d, Document.compile layouts name raw true = .ok d ∧
      d.format? =
        ((layers.filterMap fun l => l.options.format).getLast?).or document.options.format ∧
      ∀ site content s, s = mergeSite site document.options.toFields →
        d.render site content =
          document.body.nested s content (layers.map Layer.body).reverse ∧
        (∀ cells cells' e, document.body.render s content cells = some (.error e, cells') →
          d.render site content cells = some (.error e, cells')) ∧
        ∀ inner l outer v cells cells₁ cells₂ e, layers = inner ++ l :: outer →
          document.body.nested s content (inner.map Layer.body).reverse cells =
            some (.ok v, cells₁) →
          l.body.render s [v] cells₁ = some (.error e, cells₂) →
          d.render site content cells = some (.error e, cells₂)) ∧
    (∀ entries key, (mergeSite (.map entries) document.options.toFields).entry (.str key) =
      (document.options.toFields.get? key).getD ((Value.map entries).entry (.str key))) ∧
    List.Forall₂ (Layer.IsLayer layouts) (Layer.names layers) layers ∧
    (∀ (inner next : String) (first : Layer), Layer.IsLayer layouts inner first →
      first.options.layout = some next → ∀ chain, Layer.chain layouts inner = .ok chain ↔
        ∃ rest, Layer.chain layouts next = .ok rest ∧ chain = first :: rest ∧
          Layer.names chain = inner :: Layer.names rest ∧
          Layer.format? chain = (Layer.format? rest).or first.options.format ∧
          ∀ site content, Layer.renderChain chain site content = (do
            let v ← first.body.render site content
            Layer.renderChain rest site [v])) := by
  refine ⟨⟨_, Document.compile_eq_ok hd hs hc, ?format, ?render⟩,
    entry_mergeSite document.options.sorted_toFields, Layer.layers_of_chain hc, ?unfold⟩
  case format => rw [Document.format?, Layer.format?_eq_getLast?]
  case render =>
    rintro site content s rfl
    refine ⟨Document.render_eq_nested _ site content, ?_, ?_⟩
    · intro cells cells' e h
      exact Document.render_eq_error _ [] layers rfl h
    -- What is inside the failing layer has succeeded, what is outside is never reached.
    · intro inner l outer v cells cells₁ cells₂ e hl hv he
      refine Document.render_eq_error _ (inner ++ [l]) outer (by simp [hl]) ?_
      rw [List.map_append, List.reverse_append]
      exact (Rendering.bind_eq_ok hv).trans he
  case unfold =>
    intro inner next first hfirst hnext chain
    rw [Layer.chain_cons_iff hfirst hnext]
    constructor
    · rintro ⟨rest, hrest, rfl⟩
      refine ⟨rest, hrest, rfl, ?_, Layer.format?_cons first rest, ?_⟩
      · rw [Layer.names, List.map_cons, hfirst.name_eq]
        rfl
      · exact Layer.renderChain_cons first (Layer.chain_ne_nil hrest)
    · rintro ⟨rest, hrest, rfl, -⟩
      exact ⟨rest, hrest, rfl⟩

def twoLayouts : Source := .ofList [
  ("inner", ";layout:outer\n;format:xhtml\n;title:hidden\n[:main content]"),
  ("outer", "[:h1 (:title site)]\ncontent")]

theorem page_nests_in_two_layouts : ∃ document layers,
    Layer.compile "page" ";layout:inner\n;title:shown\n[:p content]" = .ok document ∧
    document.options.layout = some "inner" ∧ Layer.chain twoLayouts "inner" = .ok layers ∧
    ∃ d, Document.compile twoLayouts "page" ";layout:inner\n;title:shown\n[:p content]" true =
      .ok d ∧ d.format? = some .xhtml ∧ ∀ site content, d.render site content =
        document.body.nested (mergeSite site document.options.toFields) content
          (layers.map Layer.body).reverse := by
  obtain ⟨document, hd, hs⟩ : ∃ document, Layer.compile "page"
      ";layout:inner\n;title:shown\n[:p content]" = .ok document ∧
      document.options.layout = some "inner" := ⟨_, rfl, rfl⟩
  obtain ⟨layers, hc, hf⟩ : ∃ layers, Layer.chain twoLayouts "inner" = .ok layers ∧
      (layers.filterMap fun l => l.options.format).getLast? = some .xhtml := ⟨_, rfl, rfl⟩
  obtain ⟨⟨d, hd', hformat, hr⟩, _⟩ := document_nests_in_layouts hd hs hc
  refine ⟨document, layers, hd, hs, hc, d, hd', ?_, fun site content => (hr site content _ rfl).1⟩
  rw [hformat, hf]
  rfl

end LayeredSite
