import LayeredSite.Build.Page
import LayeredSite.Proofs.Evaluation.Conditionals
import LayeredSite.Proofs.Site.Loading

namespace LayeredSite

open Eval

namespace Value

theorem ForcedFields.merge {fields entries : Fields Value} (h : ForcedFields fields)
    (hentries : ForcedFields entries) : ForcedFields (Fields.merge fields entries) := by
  unfold Fields.merge
  induction entries generalizing fields with
  | nil => exact h
  | cons e rest ih => exact ih (h.insert hentries.1 e.1) hentries.2

theorem ForcedFields.ofList {entries : List (String × Value)} (h : ForcedFields entries) :
    ForcedFields (Fields.ofList entries) :=
  ForcedFields.merge (show ForcedFields [] from trivial) h

theorem forced_record {entries : List (String × Value)} (h : ForcedFields entries) :
    (record entries).Forced := h.ofList

theorem forced_ofString? (s : Option String) : (ofString? s).Forced := by
  cases s <;> trivial

end Value

namespace Toml

mutual

theorem Value.forced_toTemplate : (v : Toml.Value) → v.toTemplate.Forced
  | .string _ | .integer _ | .float _ | .boolean _ | .datetime _ => trivial
  | .array items => forced_itemsToTemplate items
  | .table entries => forced_entriesToTemplate entries

theorem forced_itemsToTemplate : (items : List Toml.Value) →
    LayeredSite.Value.ForcedAll (itemsToTemplate items)
  | [] => trivial
  | v :: rest => ⟨v.forced_toTemplate, forced_itemsToTemplate rest⟩

theorem forced_entriesToTemplate : (entries : List (String × Toml.Value)) →
    LayeredSite.Value.ForcedFields (entriesToTemplate entries)
  | [] => trivial
  | (_, v) :: rest => ⟨.inr v.forced_toTemplate, forced_entriesToTemplate rest⟩

end

end Toml

theorem SiteConfig.forced_baseValue (c : SiteConfig) : c.baseValue.Forced := by
  refine Value.forced_record ?_
  simp [Value.ForcedFields, Value.Forced, Value.forced_ofString?]

theorem DocumentOptions.forced_toFields (o : DocumentOptions) :
    Value.ForcedFields o.toFields := by
  refine Value.ForcedFields.ofList (Value.forcedFields_iff.mpr ?_)
  have htags : (Value.list (o.tags.map tagValue)).Forced := by
    refine Value.forced_list fun v hv => ?_
    obtain ⟨name, -, rfl⟩ := List.mem_map.mp hv
    exact Value.forced_record ⟨.inr trivial, trivial⟩
  intro e he
  simp only [List.mem_append, Option.mem_toList, Option.map_eq_some_iff] at he
  rcases he with ((⟨_, -, rfl⟩ | ⟨_, -, rfl⟩) | he) | ⟨_, -, rfl⟩
  · exact .inr trivial
  · exact .inr trivial
  · split at he
    · cases he
    · rw [List.mem_singleton.mp he]
      exact .inr htags
  · exact .inr trivial

theorem forced_mergeSite {site : Value} (h : site.Forced) {fields : Fields Value}
    (hfields : Value.ForcedFields fields) : (mergeSite site fields).Forced := by
  unfold mergeSite
  split
  · exact h
  · split
    · exact Value.ForcedFields.merge h hfields
    · exact hfields
    · exact h

theorem Scope.forced_ofSite {site : Value} (h : site.Forced) {content : List Value}
    (hcontent : ∀ v ∈ content, v.Forced) : (Scope.ofSite site content).Forced := by
  simp [Scope.Forced, Scope.ofSite, h, Value.forced_list hcontent]

section Render

variable {outcomes : List Outcome} {site : Value} {content : List Value}

theorem Body.forced_render (h : Unlinked outcomes) (b : Body) (hsite : site.Forced)
    (hcontent : ∀ v ∈ content, v.Forced) :
    Steady (Cells.Hold outcomes) (ResultIn Value.Forced anything) (b.render site content) := by
  obtain ⟨⟨r, scope⟩, ⟨hvalues, -⟩, hrun⟩ :=
    gives_evalEach h b.forms (Scope.ofSite site content) (Scope.forced_ofSite hsite hcontent)
  refine ⟨match r with
    | .ok values => .ok (.list values)
    | .error e => .error (.evaluation b.name e.position e.fault), ?_, fun s hs => ?_⟩
  · cases r with
    | ok values => exact Value.forced_list (hvalues values rfl)
    | error e => trivial
  · obtain ⟨t, ht, ho⟩ := hrun s hs
    refine ⟨t, ht, ?_⟩
    rw [Body.render, ho]
    cases r <;> rfl

/-- Each layout gets a forced value as its content, and gives one. -/
theorem Layer.forced_wrap (h : Unlinked outcomes) (layers : List Layer) (hsite : site.Forced)
    {inner : Value} (hinner : inner.Forced) :
    Steady (Cells.Hold outcomes) (ResultIn Value.Forced anything)
      (Layer.wrap layers site inner) := by
  unfold Layer.wrap
  induction layers generalizing inner with
  | nil => exact Steady.result hinner
  | cons layer rest ih =>
    have hbody := layer.body.forced_render h hsite (List.forall_mem_singleton.mpr hinner)
    exact (Steady.rules (stages_hold h)).next hbody fun v hv => ih hv

theorem Document.forced_render (h : Unlinked outcomes) (d : Document) (hsite : site.Forced)
    (hcontent : ∀ v ∈ content, v.Forced) :
    Steady (Cells.Hold outcomes) (ResultIn Value.Forced anything) (d.render site content) := by
  have hmerged := forced_mergeSite hsite d.options.forced_toFields
  exact (Steady.rules (stages_hold h)).next (d.body.forced_render h hmerged hcontent)
    fun inner hinner => Layer.forced_wrap h d.layers hmerged hinner

end Render

theorem Post.forced_contentSite {base : Value} (h : base.Forced) (date : Date) (url : String) :
    (contentSite base date url).Forced :=
  Value.forced_record ⟨.inr h, .inr trivial, .inr trivial, trivial⟩

section Sites

variable [Toolkit]

theorem Post.forced_toValue (p : Post) (tagUrl : String) : (p.toValue tagUrl).Forced := by
  have htags : (Value.list (p.options.tags.map (tagValue tagUrl))).Forced := by
    refine Value.forced_list fun v hv => ?_
    obtain ⟨name, -, rfl⟩ := List.mem_map.mp hv
    exact Value.forced_record ⟨.inr trivial, .inr trivial, trivial⟩
  exact Value.forced_record ⟨.inr (Value.forced_ofString? _), .inr trivial, .inr trivial,
    .inr trivial, .inr htags, .inl rfl, trivial⟩

/-- In what a page sees of a site only the contents of posts are deferred. -/
theorem Site.forced_context (s : Site) (date : Date) (tag : Option String) :
    (s.context date tag).Forced := by
  have hposts : (Value.list ((s.postsWith tag.toList).map
      (·.toValue s.config.build.tagUrl))).Forced := by
    refine Value.forced_list fun v hv => ?_
    obtain ⟨post, -, rfl⟩ := List.mem_map.mp hv
    exact post.forced_toValue _
  have htags : (Value.list (s.tags.map fun t => s.tagEntry t.1 t.2)).Forced := by
    refine Value.forced_list fun v hv => ?_
    obtain ⟨e, -, rfl⟩ := List.mem_map.mp hv
    exact Value.forced_record ⟨.inr trivial, .inr trivial, .inr trivial, trivial⟩
  have hbase := s.config.forced_baseValue
  have hextra : s.config.extraValue.Forced := Toml.forced_entriesToTemplate _
  refine Value.forced_record (Value.forcedFields_iff.mpr ?_)
  refine List.forall_mem_append.mpr ⟨?_, fun e he => ?_⟩
  · exact Value.forcedFields_iff.mp
      ⟨.inr hposts, .inr htags, .inr trivial, .inr hbase, .inr hextra, trivial⟩
  · obtain ⟨name, -, rfl⟩ := Option.map_eq_some_iff.mp (Option.mem_toList.mp he)
    exact .inr trivial

theorem Builder.forced_postContext (b : Builder) (site : Site) (post : Post) :
    (b.postContext site post).Forced :=
  forced_mergeSite (site.forced_context _ _)
    ⟨.inr (post.forced_toValue _), .inr trivial, trivial⟩

/-- What the documents of a site are rendered for: pages of templates and tags, pages of posts, and
the contents of posts. -/
inductive Builder.Sees (b : Builder) (site : Site) : Value → Prop
  | page (date : Date) (tag : Option String) : b.Sees site (site.context date tag)
  | post (post : Post) : b.Sees site (b.postContext site post)
  | content (date : Date) (url : String) :
    b.Sees site (Post.contentSite site.config.baseValue date url)

theorem Builder.Sees.forced {b : Builder} {site : Site} {value : Value} (h : b.Sees site value) :
    value.Forced := by
  cases h with
  | page date tag => exact site.forced_context date tag
  | post post => exact b.forced_postContext site post
  | content date url => exact Post.forced_contentSite site.config.forced_baseValue date url

/-- In the documents of a loaded site no condition is deferred, so the two conditionals agree
there, whichever cells have been read. A layout has what it stands around as its content. -/
theorem Builder.conditionals_run_eq_of_load (b : Builder) {disk : Disk} {site : Site}
    {cells : Cells} {errors : List LogLine}
    (h : Site.load disk b.clock.today b.config b.pipeline = (site, cells, errors)) :
    ∃ outcomes, cells.Hold outcomes ∧ ∀ (s : Cells) (value : Value) (options : DocumentOptions)
      (content : List Value), s.Hold outcomes → b.Sees site value → (∀ v ∈ content, v.Forced) →
        ∀ (c yes no : Form) (p q p' q' r r' : Position),
          let scope := Scope.ofSite (mergeSite value options.toFields) content
          eval (.call p [.symbol q "if", c, yes, no]) scope s =
            eval (.call p' [.symbol q' "if", .call r [.symbol r' "not", c], no, yes]) scope s := by
  obtain ⟨outcomes, hunlinked, hcells⟩ := Site.exists_hold_of_load h
  refine ⟨outcomes, hcells, ?_⟩
  intro s value options content hs hsees hcontent c yes no p q p' q' r r' scope
  have hscope : scope.Forced :=
    Scope.forced_ofSite (forced_mergeSite hsees.forced options.forced_toFields) hcontent
  exact conditionals_run_eq_of_forced hunlinked hs hscope

end Sites

end LayeredSite
