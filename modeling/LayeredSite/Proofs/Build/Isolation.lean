import LayeredSite.Proofs.Build.Alone
import LayeredSite.Proofs.Disk.Edits

namespace LayeredSite

open LayeredSite.Path

namespace Builder

variable {b : Builder} {site : Site} {w w' : Workshop} {d d' left : Disk} {path : String}
  {task : Task} {names : List String} {turn : Turn} {turns : List Turn} {s t : Disk × Cells}

section Edited

variable (hedit : Disk.Edited names d d')

include hedit

theorem touches_of_edited {other : List String} : b.Touches d' other ↔ b.Touches d other := by
  rw [Touches, Touches, hedit.place, hedit.opens_iff]

theorem apart_of_edited : b.Apart d' path ↔ b.Apart d path := by
  unfold Apart
  simp only [hedit.passes_iff, touches_of_edited hedit]

theorem separated_of_edited (h : b.Separated d) : b.Separated d' where
  proper := hedit.proper_iff.mpr h.proper
  isDir := (hedit.isDir _).trans h.isDir
  relative := h.relative
  below := h.below
  underscore := h.underscore
  postsDir := by
    rw [hedit.place, hedit.shapeAt]
    exact h.postsDir
  apart := (apart_of_edited hedit).mpr h.apart
  output := by
    rw [hedit.place, hedit.place]
    exact h.output
  opens names hpasses hmissing := by
    rw [hedit.place]
    exact h.opens names (hedit.passes_iff.mp hpasses) (hedit.lookAt_eq_error_iff.mp hmissing)

theorem regularTemplates_of_edited : b.regularTemplates d' = b.regularTemplates d :=
  hedit.listFiles _ _ _

theorem exists_cleared (hleft : b.cleared d = .ok left) : ∃ left', b.cleared d' = .ok left' := by
  unfold cleared at hleft ⊢
  split at hleft
  · rename_i hclean
    rw [if_pos hclean]
    exact hedit.exists_clear hleft
  · rename_i hclean
    exact ⟨d', if_neg hclean⟩

end Edited

theorem edited_of_template (h : b.Separated d) (hpath : path ∈ b.regularTemplates d) {text : String}
    {time : Int} (hwrite : d.write path text time = .ok d') : Disk.Edited (d.place path) d d' := by
  obtain ⟨names, -, hlisted, rfl⟩ := h.exists_template hpath
  obtain ⟨before, modified, hfile⟩ := hlisted.file
  rw [← hlisted.place_eq] at hfile
  exact Disk.edited_of_write h.proper hfile hwrite

section Isolation

variable [Toolkit]

/-- The posts of a site are not templates, so it is loaded as before an edit of a template. -/
theorem load_of_edited (h : b.Separated d) (hpath : path ∈ b.regularTemplates d)
    (hedit : Disk.Edited (d.place path) d d') (today : Date) (pipeline : Pipeline) :
    Site.load d' today b.config pipeline = Site.load d today b.config pipeline :=
  Site.load_congr (hedit.listFiles _ _ _)
    (fun _ hother => hedit.alike (h.place_post_ne hpath hother)) today pipeline

theorem builtUrls_eq (h : b.Separated d) (hleft : b.cleared d = .ok left) :
    b.builtUrls d = b.urls d (Site.load d b.clock.today b.config b.pipeline).1 := by
  rw [builtUrls, hleft]
  dsimp only
  rw [urls, urls, (h.sources_of_cleared hleft).1, (h.sources_of_cleared hleft).2]

theorem arranged_of_edited (h : b.Arranged d) (hpath : path ∈ b.regularTemplates d)
    (hedit : Disk.Edited (d.place path) d d') : b.Arranged d' where
  toSeparated := separated_of_edited hedit h.toSeparated
  urls := by
    cases hleft' : b.cleared d' with
    | error e =>
      rw [builtUrls, hleft']
      exact fun _ hurl => absurd hurl List.not_mem_nil
    | ok left' =>
      obtain ⟨left, hleft⟩ := exists_cleared hedit.symm hleft'
      have hurls := h.urls
      rw [builtUrls_eq h.toSeparated hleft, urls] at hurls
      rw [builtUrls_eq (separated_of_edited hedit h.toSeparated) hleft', urls,
        regularTemplates_of_edited hedit, load_of_edited h.toSeparated hpath hedit]
      exact hurls

/-- A build of everything, with the turns of its units. -/
structure Run (b : Builder) (w : Workshop) (site : Site) (turns : List Turn) (ok : Bool)
    (w' : Workshop) : Prop where
  build : b.build w = (.ok ok, w')
  turns : ∃ left errors, b.cleared w.disk = .ok left ∧ b.Builds left site errors turns w'.state

/-- A unit has the same page in the builds before and after an edit. -/
theorem page_of_edited (hpipeline : b.pipeline.Steady) (h : b.Arranged d)
    (hpath : path ∈ b.regularTemplates d) (hedit : Disk.Edited (d.place path) d d')
    {left left' : Disk} {cells : Cells} {errors : List LogLine} {turns' : List Turn}
    {t' : Disk × Cells} {turn' : Turn}
    (hload : Site.load d b.clock.today b.config b.pipeline = (site, cells, errors))
    (hleft : b.cleared d = .ok left) (hbuilds : b.Builds left site errors turns t)
    (hleft' : b.cleared d' = .ok left') (hbuilds' : b.Builds left' site errors turns' t')
    (hturn : turn ∈ turns) (hturn' : turn' ∈ turns') (htask : turn'.task = turn.task)
    (hother : turn.task ≠ .template path) (hlayouts : b.LayoutsApart d turn.task)
    (hnot : ∀ name, turn.task.Uses b d name → d.place (b.layoutPath name) ≠ d.place path) :
    turn'.page = turn.page := by
  have hload' := (load_of_edited h.toSeparated hpath hedit _ _).trans hload
  have hmem : turn.task ∈ b.tasks d site := by
    rw [← h.tasks_of_cleared hleft, ← hbuilds.tasks]
    exact List.mem_map_of_mem hturn
  -- The edit is seen neither at the unit's own file nor at a layout of it.
  have hfile : ∀ file, turn.task.file? = some file → d.Alike file d' :=
    fun _ hfile => hedit.alike (h.place_ne hload hpath hmem hother hfile)
  have halike : ∀ name, turn.task.Uses b d name → d.Alike (b.layoutPath name) d' :=
    fun name hname => hedit.alike (hnot name hname)
  have hlayouts' : b.LayoutsApart d' turn'.task := by
    intro name hname
    rw [htask] at hname
    exact (apart_of_edited hedit).mpr (hlayouts name (uses_of_alike hfile halike hname))
  have harranged := arranged_of_edited h hpath hedit
  rw [page_of_turn hpipeline harranged hleft' hload' hbuilds' hturn' hlayouts',
    page_of_turn hpipeline h hleft hload hbuilds hturn hlayouts, htask,
    page_congr (fun _ => h.named_of_mem_tasks hmem) hfile halike]

/-- When a template gets any other text, a build takes the same units from the same site, and every
other unit has the same page or the same error, if it has no layout from the output or from the
template. A unit without a page changes no file. A build succeeds if every post can be
loaded, every page is computed and written, and no two tags have one URL. -/
theorem build_isolates (hpipeline : b.pipeline = b.config.pipeline) (h : b.Arranged w.disk)
    (hpath : path ∈ b.regularTemplates w.disk) {text : String} {time : Int}
    (hwrite : w.disk.write path text time = .ok d') :
    (∃ e e', b.build w = (.error e, w) ∧
      b.build { w with disk := d' } = (.error e', { w with disk := d' })) ∨
    ∃ site turns ok last turns' ok' last', b.Run w site turns ok last ∧
      b.Run { w with disk := d' } site turns' ok' last' ∧
      turns'.map Turn.task = turns.map Turn.task ∧
      (∀ turn ∈ turns, ∀ turn' ∈ turns', turn'.task = turn.task → turn.task ≠ .template path →
        b.LayoutsApart w.disk turn.task →
        (∀ name, turn.task.Uses b w.disk name →
          w.disk.place (b.layoutPath name) ≠ w.disk.place path) →
        turn'.page = turn.page) ∧
      (∀ turn ∈ turns, ∀ e, turn.page = .error e → turn.after.disk = turn.before.disk) ∧
      (ok = true ↔
        (∀ file ∈ Site.postFiles w.disk b.config, ∃ doc,
          Site.document w.disk b.config file = .ok doc) ∧
        (∀ turn ∈ turns, b.Written turn) ∧
        ((Fields.keys site.tags).map (Url.ofTag b.config.build.tagUrl)).Nodup) := by
  have hsteady : b.pipeline.Steady := hpipeline ▸ b.config.steady_pipeline
  have hedit := edited_of_template h.toSeparated hpath hwrite
  have harranged := arranged_of_edited h hpath hedit
  cases hleft : b.cleared w.disk with
  | error e =>
    cases hleft' : b.cleared d' with
    | error e' =>
      exact .inl ⟨e, e', build_of_not_cleared hleft,
        build_of_not_cleared (w := { w with disk := d' }) hleft'⟩
    | ok left' =>
      obtain ⟨left, hok⟩ := exists_cleared hedit.symm hleft'
      cases hleft.symm.trans hok
  | ok left =>
    obtain ⟨left', hleft'⟩ := exists_cleared hedit hleft
    obtain ⟨site, errors, turns, ok, last, hbuild, hbuilds, -, hok⟩ := build_of_cleared hleft
    obtain ⟨site', errors', turns', ok', last', hbuild', hbuilds', -, -⟩ :=
      build_of_cleared (w := { w with disk := d' }) hleft'
    obtain ⟨cells, hload, hturns⟩ := hbuilds.load
    obtain ⟨cells', hload', -⟩ := hbuilds'.load
    rw [(h.sources_of_cleared hleft).2] at hload
    rw [(harranged.sources_of_cleared hleft').2, load_of_edited h.toSeparated hpath hedit, hload]
      at hload'
    -- Both builds have loaded the same site, with the same cells.
    cases hload'
    refine .inr ⟨site, turns, ok, last, turns', ok', last', ⟨hbuild, left, errors, hleft, hbuilds⟩,
      ⟨hbuild', left', errors, hleft', hbuilds'⟩, ?_, ?_, ?_, ?_⟩
    · rw [hbuilds.tasks, hbuilds'.tasks, h.tasks_of_cleared hleft,
        harranged.tasks_of_cleared hleft', tasks, tasks, regularTemplates_of_edited hedit]
    · intro turn hturn turn' hturn' htask hother hlayouts hnot
      exact page_of_edited hsteady h hpath hedit hload hleft hbuilds hleft' hbuilds' hturn hturn'
        htask hother hlayouts hnot
    · intro turn hturn e he
      obtain ⟨s, htakes⟩ := hturns.takes hturn
      exact htakes.disk_of_error he
    · rw [hok, Site.failed_eq_zero_iff hload]
      refine and_congr_right fun _ => and_congr_left fun _ => forall₂_congr fun turn hturn => ?_
      obtain ⟨s, htakes⟩ := hturns.takes hturn
      exact htakes.ok_iff

end Isolation

/-- The template of this site can be broken without the other pages. -/
theorem journal_isolated : ∃ edited site turns ok last turns' ok' last',
    journal.disk.write "template/index.sx" "(" 1 = .ok edited ∧
    usual.Run journal site turns ok last ∧
    usual.Run { journal with disk := edited } site turns' ok' last' ∧
    turns.map (fun turn => turn.task.name) =
      ["template/index.sx", "template/_posts/2024-01-01-a.sx", tagUnit "x"] ∧
    (∀ turn ∈ turns, ∀ turn' ∈ turns', turn'.task = turn.task →
      turn.task ≠ .template "template/index.sx" → turn'.page = turn.page) ∧
    ∀ turn ∈ turns, ∀ e, turn.page = .error e → turn.after.disk = turn.before.disk := by
  obtain ⟨edited, hwrite⟩ :
      ∃ edited, journal.disk.write "template/index.sx" "(" 1 = .ok edited := by
    have hdone : (journal.disk.write "template/index.sx" "(" 1).toOption.isSome = true := by
      decide +kernel
    cases hwrite : journal.disk.write "template/index.sx" "(" 1 with
    | error e =>
      rw [hwrite] at hdone
      cases hdone
    | ok edited => exact ⟨edited, rfl⟩
  have hpath : "template/index.sx" ∈ usual.regularTemplates journal.disk := by decide +kernel
  rcases build_isolates (b := usual) (w := journal) rfl arranged_journal hpath hwrite with
    ⟨e, e', hbuild, -⟩ |
    ⟨site, turns, ok, last, turns', ok', last', hrun, hrun', -, hpages, herrors, -⟩
  · have hdone : (usual.build journal).1.toOption.isSome = true := by decide +kernel
    rw [hbuild] at hdone
    cases hdone
  · obtain ⟨left, errors, hleft, hbuilds⟩ := hrun.turns
    cases hleft
    obtain ⟨cells, hload, -⟩ := hbuilds.load
    refine ⟨edited, site, turns, ok, last, turns', ok', last', hwrite, hrun, hrun', ?_, ?_, herrors⟩
    · have hnames := tasks_journal hload
      rwa [← hbuilds.tasks, List.map_map] at hnames
    · intro turn hturn turn' hturn' htask hother
      have huses : ∀ name, turn.task.Uses usual journal.disk name → name = "base" ∨ name = "tag" :=
        fun _ => uses_journal hload (hbuilds.tasks ▸ List.mem_map_of_mem hturn)
      refine hpages turn hturn turn' hturn' htask hother (fun name hname => ?_) fun name hname => ?_
      · rcases huses name hname with rfl | rfl
        · decide +kernel
        · decide +kernel
      · rcases huses name hname with rfl | rfl
        · decide +kernel
        · decide +kernel

/-- An edit of the first template changes the page of the second, whose layout is none of the
templates. -/
theorem leaky_not_isolated : usual.Arranged leaky.disk ∧
    usual.regularTemplates leaky.disk = ["template/frag.sx.sx", "template/z.sx"] ∧
    (usual.regularTemplates leaky.disk).map
      (fun path => Layer.layoutOf (leaky.disk.readTemplate path)) =
        [none, some "../../public/frag"] ∧
    leaky.disk.place (usual.layoutPath "../../public/frag") = ["public", "frag.sx"] ∧
    (leaky.disk.write "template/frag.sx.sx" "(raw \"\\\"B\\\"\")" 1).toOption.map (fun edited =>
      (((usual.build leaky).2.disk.read "public/z.html").toOption,
        ((usual.build { leaky with disk := edited }).2.disk.read "public/z.html").toOption)) =
          some (some "A", some "B") := by
  refine ⟨arranged_leaky, ?_, ?_, ?_, ?_⟩
  · decide +kernel
  · decide +kernel
  · decide +kernel
  · decide +kernel

end Builder
end LayeredSite
