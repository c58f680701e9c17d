import LayeredSite.Proofs.Build.Arrangement
import LayeredSite.Proofs.Build.Turns
import LayeredSite.Proofs.Cells.Loaded

namespace LayeredSite

namespace Paging

variable {Stage : Cells → Prop} {α β : Type}

/-- A computation that gives the same on all cells of a class and stays in the class. -/
def Steady (Stage : Cells → Prop) (x : Paging α) : Prop :=
  ∃ r, ∀ s, Stage s → ∃ t, Stage t ∧ x.run s = (r, t)

namespace Steady

theorem result (r : Except BuildError α) : Steady Stage (liftM r : Paging α) := by
  refine ⟨r, fun s hs => ⟨s, hs, ?_⟩⟩
  cases r <;> rfl

theorem next {x : Paging α} {f : α → Paging β} (hx : Steady Stage x)
    (hf : ∀ a, Steady Stage (f a)) : Steady Stage (x >>= f) := by
  obtain ⟨r, hrun⟩ := hx
  cases r with
  | error e =>
    refine ⟨.error e, fun s hs => ?_⟩
    obtain ⟨t, ht, he⟩ := hrun s hs
    refine ⟨t, ht, ?_⟩
    change ExceptT.bindCont f (x.run s).1 (x.run s).2 = _
    rw [he]
    rfl
  | ok a =>
    obtain ⟨r', hnext⟩ := hf a
    refine ⟨r', fun s hs => ?_⟩
    obtain ⟨between, hbetween, ha⟩ := hrun s hs
    obtain ⟨t, ht, hr'⟩ := hnext between hbetween
    refine ⟨t, ht, ?_⟩
    change ExceptT.bindCont f (x.run s).1 (x.run s).2 = _
    rw [ha]
    exact hr'

theorem render {x : Rendering α} (hx : LayeredSite.Steady Stage anything x) :
    Steady Stage (Builder.render x) := by
  obtain ⟨r, -, hrun⟩ := hx
  refine ⟨r.mapError .template, fun s hs => ?_⟩
  obtain ⟨t, ht, hr⟩ := hrun s hs
  refine ⟨t, ht, ?_⟩
  change Builder.render x s = _
  unfold Builder.render Rendering.settle
  rw [hr]
  cases r <;> rfl

theorem compiled (x : Except TemplateError α) : Steady Stage (Builder.compiled x) := by
  cases x with
  | ok a => exact result (.ok a)
  | error e => exact result (.error (.template e))

end Steady
end Paging

/-- Transformers that give the same whichever cells of a loaded site have been read. -/
def Pipeline.Steady (pipeline : Pipeline) : Prop :=
  ∀ outcomes, Unlinked outcomes → ∀ f ∈ pipeline, ∀ v,
    LayeredSite.Steady (Cells.Hold outcomes) anything (f v)

theorem SiteConfig.steady_pipeline [Toolkit] (config : SiteConfig) : config.pipeline.Steady := by
  intro outcomes h f hf v
  unfold SiteConfig.pipeline at hf
  split at hf
  · rw [List.mem_singleton.mp hf]
    exact Markdown.steady_transformer h _ v
  · exact absurd hf List.not_mem_nil

namespace Builder

variable [Toolkit] {b : Builder} {outcomes : List Outcome}

section Hold

variable (hpipeline : b.pipeline.Steady) (h : Unlinked outcomes)

include hpipeline h

theorem steady_page (doc : Document) (site : Value) (url : String) :
    Paging.Steady (Cells.Hold outcomes) (b.page doc site url) := by
  refine .next (.render (doc.steady_render h site [])) fun tree => ?_
  refine .next (.render (.lift (.transform (hpipeline outcomes h) tree))) fun tree => ?_
  exact .next (.render (Markup.steady_serialize h _ tree)) fun html => .result (.ok _)

theorem steady_task (site : Site) (disk : Disk) (task : Task) :
    Paging.Steady (Cells.Hold outcomes) (task.page b site disk) := by
  cases task with
  | template path =>
    unfold Task.page templatePage
    dsimp only
    split
    · exact .result (.error _)
    · exact .next (.compiled _) fun doc => steady_page hpipeline h doc _ _
  | post post =>
    exact .next (.compiled _) fun raw => .next (.compiled _) fun doc =>
      steady_page hpipeline h doc _ _
  | tag name =>
    unfold Task.page tagPage
    dsimp only
    split
    · exact .next (.result (.error _)) fun _ => .next (.compiled _) fun doc =>
        steady_page hpipeline h doc _ _
    · exact .next (.compiled _) fun doc => steady_page hpipeline h doc _ _

end Hold

/-- Turns leave the outcomes of the cells as they are, and none of their pages depends on which of
them have been read. -/
theorem Turns.page_eq {site : Site} {s t : Disk × Cells} {turns : List Turn} {cells : Cells}
    (hpipeline : b.pipeline.Steady) (hunlinked : Unlinked outcomes) (hcells : cells.Hold outcomes)
    (h : b.Turns site s turns t) (hs : s.2.Hold outcomes) :
    ∀ turn ∈ turns, turn.page = ((turn.task.page b site turn.before.disk).run cells).1 := by
  -- What carries the induction is that the cells hold the same outcomes before every turn.
  induction h with
  | nil => exact fun _ hturn => absurd hturn List.not_mem_nil
  | @cons s t turn turns hturn _ ih =>
    obtain ⟨r, hrun⟩ := steady_task hpipeline hunlinked site s.1 turn.task
    obtain ⟨after, hafter, hpage⟩ := hrun s.2 hs
    obtain ⟨_, -, hpage'⟩ := hrun cells hcells
    obtain ⟨hr, hbefore⟩ := Prod.mk.inj (hturn.page.symm.trans hpage)
    refine List.forall_mem_cons.mpr ⟨?_, ih ?_⟩
    · rw [hturn.disk, hr, hpage']
    · rw [Workshop.state, hturn.cells, hbefore]
      exact hafter

end Builder
end LayeredSite

namespace LayeredSite

open LayeredSite.Path

namespace Builder

variable {b : Builder} {site : Site} {w : Workshop} {d left : Disk} {cells : Cells}
  {errors : List LogLine} {path : String} {task : Task}

section Alone

variable [Toolkit]

/-- How a unit is made alone: a template or a post by its path from the templates, a tag by its
name. -/
def alone? (b : Builder) : Task → Option (Building Bool)
  | .template path => (relativeTo? path b.config.build.templates).map b.compileTemplate
  | .post post => (relativeTo? post.source b.config.build.templates).map b.compileTemplate
  | .tag name => some (b.compileTag name)

/-- The layouts of a unit are read apart from the output. -/
def LayoutsApart (b : Builder) (d : Disk) (task : Task) : Prop :=
  ∀ name, task.Uses b d name → b.Apart d (b.layoutPath name)

/-- A unit that is made alone is made from the loaded site. -/
theorem alone_apply (h : b.Arranged w.disk)
    (hload : Site.load w.disk b.clock.today b.config b.pipeline = (site, cells, errors))
    (htask : task ∈ b.tasks w.disk site) :
    ∃ x name, b.alone? task = some x ∧ x w = b.makeUnit name (task.page b site w.disk)
      { w with cells, log := w.log ++ errors } := by
  rcases of_mem_tasks htask with ⟨path, hpath, rfl⟩ | ⟨post, hpost, rfl⟩ | ⟨name, -, rfl⟩
  · -- The path leads back to the template itself, which is not among the posts.
    obtain ⟨rel, hrel, hjoin, -⟩ := h.relative_template hpath
    refine ⟨b.compileTemplate rel, path, by rw [alone?, hrel]; rfl, ?_⟩
    rw [compileTemplate, Building.bind_apply, loadSite_apply hload]
    dsimp only
    rw [hjoin, h.not_startsWith hpath]
    rfl
  · -- The path may be spelled in another way than the post's file, but has its components.
    obtain ⟨rel, hrel, hstarts, hcomponents⟩ :=
      h.relative_post (Separated.source_mem hload hpost).1
    refine ⟨b.compileTemplate rel, join b.config.build.templates rel, by rw [alone?, hrel]; rfl, ?_⟩
    rw [compileTemplate, Building.bind_apply, loadSite_apply hload]
    dsimp only
    rw [hstarts, if_pos rfl, h.find?_post hload hpost hcomponents]
    rfl
  · refine ⟨b.compileTag name, tagUnit name, rfl, ?_⟩
    rw [compileTag, Building.bind_apply, loadSite_apply hload]
    rfl

/-- A post that cannot be loaded is not made alone either; all that is logged is the errors of
loading. -/
theorem compileTemplate_of_failure (h : b.Arranged w.disk)
    (hload : Site.load w.disk b.clock.today b.config b.pipeline = (site, cells, errors))
    (hpath : path ∈ Site.postFiles w.disk b.config) {e : TemplateError}
    (he : Site.document w.disk b.config path = .error e) :
    ⟨"error", path ++ ": " ++ e.message⟩ ∈ errors ∧
      ∃ rel, relativeTo? path b.config.build.templates = some rel ∧
        b.compileTemplate rel w = (false, { w with cells, log := w.log ++ errors }) := by
  obtain ⟨rel, hrel, hstarts, hcomponents⟩ := h.relative_post hpath
  have hfailure : Site.failure? w.disk b.config path =
      some ⟨"error", path ++ ": " ++ e.message⟩ := by
    rw [Site.failure?, he]
  refine ⟨?_, rel, hrel, ?_⟩
  · rw [(Site.errors_of_load hload).1]
    exact List.mem_filterMap.mpr ⟨path, hpath, hfailure⟩
  · have hnone := h.find?_failure hload hpath (by simp [hfailure]) hcomponents
    rw [compileTemplate, Building.bind_apply, loadSite_apply hload]
    dsimp only
    rw [hstarts, if_pos rfl, hnone]
    rfl

/-- The page that a unit has when it is made alone. -/
theorem page_of_turn (hpipeline : b.pipeline.Steady) (h : b.Arranged d)
    (hleft : b.cleared d = .ok left)
    (hload : Site.load d b.clock.today b.config b.pipeline = (site, cells, errors))
    {turns : List Turn} {t : Disk × Cells} (hbuilds : b.Builds left site errors turns t)
    {turn : Turn} (hturn : turn ∈ turns) (hlayouts : b.LayoutsApart d turn.task) :
    turn.page = ((turn.task.page b site d).run cells).1 := by
  obtain ⟨cells', hload', hturns⟩ := hbuilds.load
  rw [(h.sources_of_cleared hleft).2, hload] at hload'
  obtain rfl : cells = cells' := congrArg (fun loaded => loaded.2.1) hload'
  -- Earlier turns may have read cells and written pages: neither matters to this one.
  obtain ⟨outcomes, hunlinked, hcells⟩ := Site.exists_hold_of_load hload
  have hdiffers := differsIn_of_turns hleft hbuilds h.urls turn hturn
  have htask : turn.task ∈ b.tasks d site := by
    rw [← h.tasks_of_cleared hleft, ← hbuilds.tasks]
    exact List.mem_map_of_mem hturn
  rw [hturns.page_eq hpipeline hunlinked hcells hcells turn hturn,
    page_congr (fun _ => h.named_of_mem_tasks htask)
      (fun _ hpath => hdiffers.alike (h.apart_of_mem_tasks hload htask hpath))
      fun name hname => hdiffers.alike (hlayouts name hname)]

/-- A build of everything takes every unit in turn, unless it cannot clear the output. A template, a
post or a tag that is made alone instead, from the same sources, attempts the same page, or
fails with the same error, if its layouts are read apart from the output. A post that cannot be
loaded is logged by both with the same error. -/
theorem build_alone (hpipeline : b.pipeline = b.config.pipeline) (h : b.Arranged w.disk) :
    (∃ e, b.cleared w.disk = .error e ∧ b.build w = (.error e, w)) ∨
    ∃ left site errors turns ok w', b.cleared w.disk = .ok left ∧ b.build w = (.ok ok, w') ∧
      b.Builds left site errors turns w'.state ∧ errors <:+: w'.log ∧
      turns.map Turn.task = b.tasks w.disk site ∧
      (∀ turn ∈ turns, b.LayoutsApart w.disk turn.task →
        ∃ x name start, b.alone? turn.task = some x ∧ start.disk = w.disk ∧
          x w = b.attempt name turn.page start) ∧
      ∀ path ∈ Site.postFiles w.disk b.config, ∀ e, Site.document w.disk b.config path = .error e →
        ⟨"error", path ++ ": " ++ e.message⟩ ∈ errors ∧
          ∃ rel last, relativeTo? path b.config.build.templates = some rel ∧
            b.compileTemplate rel w = (false, last) ∧ last.disk = w.disk ∧
            last.log = w.log ++ errors := by
  have hsteady : b.pipeline.Steady := hpipeline ▸ b.config.steady_pipeline
  cases hleft : b.cleared w.disk with
  | error e => exact .inl ⟨e, rfl, build_of_not_cleared hleft⟩
  | ok left =>
    obtain ⟨site, errors, turns, ok, w', hbuild, hbuilds, hlogged, -⟩ := build_of_cleared hleft
    obtain ⟨cells, hload, -⟩ := hbuilds.load
    rw [(h.sources_of_cleared hleft).2] at hload
    have htasks := hbuilds.tasks.trans (h.tasks_of_cleared hleft site)
    refine .inr
      ⟨left, site, errors, turns, ok, w', rfl, hbuild, hbuilds, hlogged, htasks, ?_, ?_⟩
    -- The build has cleared its output and written pages; the layouts are apart from both.
    · intro turn hturn hlayouts
      obtain ⟨x, name, hx, hmade⟩ :=
        alone_apply h hload (htasks ▸ List.mem_map_of_mem hturn)
      refine ⟨x, name, { w with
        cells := ((turn.task.page b site w.disk).run cells).2
        log := w.log ++ errors }, hx, rfl, ?_⟩
      rw [hmade, makeUnit_apply, page_of_turn hsteady h hleft hload hbuilds hturn hlayouts]
    · intro path hpath e he
      obtain ⟨hmem, rel, hrel, hmade⟩ := compileTemplate_of_failure h hload hpath he
      exact ⟨hmem, rel, _, hrel, hmade, rfl, rfl⟩

end Alone

/-- Every unit of this site is made alone as in a build. -/
theorem journal_alone : ∃ site errors turns ok w', usual.build journal = (.ok ok, w') ∧
    usual.Builds journal.disk site errors turns w'.state ∧
    turns.map (fun turn => turn.task.name) =
      ["template/index.sx", "template/_posts/2024-01-01-a.sx", tagUnit "x"] ∧
    ∀ turn ∈ turns, ∃ x name start, usual.alone? turn.task = some x ∧ start.disk = journal.disk ∧
      x journal = usual.attempt name turn.page start := by
  rcases build_alone (b := usual) (w := journal) rfl arranged_journal with ⟨e, he, -⟩ |
    ⟨left, site, errors, turns, ok, w', hleft, hbuild, hbuilds, -, htasks, halone, -⟩
  · cases he
  · cases hleft
    obtain ⟨cells, hload, -⟩ := hbuilds.load
    refine ⟨site, errors, turns, ok, w', hbuild, hbuilds, ?_, fun turn hturn =>
      halone turn hturn fun name hname => ?_⟩
    · have hnames := tasks_journal hload
      rwa [← htasks, List.map_map] at hnames
    · rcases uses_journal hload (htasks ▸ List.mem_map_of_mem hturn) hname with rfl | rfl
      · decide +kernel
      · decide +kernel

/-- The layout of one template is the page of the other. -/
def leaky : Workshop :=
  ⟨⟨.dir [("template", .dir [("_layouts", .dir []),
    ("frag.sx.sx", .file "(raw \"\\\"A\\\"\")" 0),
    ("z.sx", .file ";layout: ../../public/frag\n\"z\"" 0)])], []⟩, [], []⟩

theorem arranged_leaky : usual.Arranged leaky.disk where
  proper := by decide +kernel
  isDir := by decide +kernel
  relative := by decide +kernel
  below := by decide +kernel
  underscore := by decide +kernel
  postsDir := by decide +kernel
  apart := by decide +kernel
  output := by decide +kernel
  opens := by decide +kernel
  urls := by decide +kernel

/-- A build writes a page of the template whose layout it has just made, which cannot be made
alone. -/
theorem leaky_not_alone : usual.Arranged leaky.disk ∧
    (usual.build leaky).1.toOption = some true ∧
    ((usual.build leaky).2.disk.read "public/z.html").toOption = some "A" ∧
    (usual.compileTemplate "z.sx" leaky).1 = false ∧
    ((usual.compileTemplate "z.sx" leaky).2.disk.read "public/z.html").toOption = none := by
  refine ⟨arranged_leaky, ?_, ?_, ?_, ?_⟩
  · decide +kernel
  · decide +kernel
  · decide +kernel
  · decide +kernel

end Builder
end LayeredSite
