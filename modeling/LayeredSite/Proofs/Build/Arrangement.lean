import LayeredSite.Program
import LayeredSite.Proofs.Build.Apart
import LayeredSite.Proofs.Disk.Covered
import LayeredSite.Proofs.Site.Loading

namespace LayeredSite

open LayeredSite.Path

namespace Builder

/-- The posts lie below the templates in a directory with an underscore, and the output is apart
from the templates, the way to them and everything in them. -/
structure Separated (b : Builder) (d : Disk) : Prop where
  proper : d.root.Proper
  isDir : d.isDir b.config.build.templates = true
  relative : isAbsolute b.config.build.posts = false
  below : Component.parent ∉ moves b.config.build.posts
  underscore : ∃ c ∈ moves b.config.build.posts, c.text.toList.head? = some '_'
  postsDir : d.shapeAt (d.place b.config.postsDir) ≠ .ok false
  apart : b.Apart d b.config.build.templates
  output : ¬ d.place b.config.build.templates <+: d.place b.config.build.output
  /-- Making the output directory makes none in the templates. -/
  opens : ∀ names, d.Passes b.config.build.output names →
    d.lookAt names = .error .notFound → ¬ d.place b.config.build.templates <+: names

/-- Besides, no page that a build writes leaves the output. -/
structure Arranged [Toolkit] (b : Builder) (d : Disk) : Prop extends b.Separated d where
  urls : ∀ url ∈ b.builtUrls d, Component.parent ∉ moves url

variable {b : Builder} {site : Site} {task : Task} {path : String} {d d' left : Disk}
  {names : List String}

namespace Separated

theorem templates_ne_empty (h : b.Separated d) : b.config.build.templates ≠ "" :=
  Disk.ne_empty_of_isDir h.isDir

theorem descends (h : b.Separated d) : Descends b.config.build.posts := ⟨h.relative, h.below⟩

theorem covered (h : b.Separated d) : d.Covered b.config.build.templates b.config.build.posts
    b.config.build.extension :=
  Disk.covered_of_underscore h.postsDir h.underscore

theorem posts_ne_empty (h : b.Separated d) : b.config.build.posts ≠ "" := by
  intro hempty
  obtain ⟨c, hc, -⟩ := h.underscore
  rw [hempty] at hc
  cases hc

theorem moves_postsDir (h : b.Separated d) :
    isAbsolute b.config.postsDir = isAbsolute b.config.build.templates ∧
      moves b.config.postsDir = moves b.config.build.templates ++ moves b.config.build.posts :=
  ⟨isAbsolute_join h.relative _, moves_join h.relative _⟩

theorem postsDir_ne_empty (h : b.Separated d) : b.config.postsDir ≠ "" := by
  intro hempty
  obtain ⟨c, hc, -⟩ := h.underscore
  have hmem : c ∈ moves b.config.postsDir := h.moves_postsDir.2 ▸ List.mem_append_right _ hc
  rw [hempty] at hmem
  cases hmem

theorem postsDir_not_file (h : b.Separated d) (text : String) (time : Int) :
    d.root.get (d.place b.config.postsDir) ≠ .ok (.file text time) := by
  intro hfile
  refine h.postsDir ?_
  rw [Disk.shapeAt, hfile]
  rfl

/-- Nothing in the templates is touched. -/
theorem not_touches (h : b.Separated d) (hbelow : d.place b.config.build.templates <+: names) :
    ¬ b.Touches d names := by
  rintro (houtput | ⟨hpasses, hmissing⟩)
  · rcases List.prefix_or_prefix_of_prefix houtput hbelow with hin | hin
    · exact h.apart _ (Disk.passes_place d _) (.inl hin)
    · exact h.output hin
  · exact h.opens names hpasses hmissing hbelow

/-- A path that leads from the templates down through names is apart from the output. -/
theorem apart_of_below (h : b.Separated d)
    (hroot : isAbsolute path = isAbsolute b.config.build.templates)
    (hmoves : moves path = moves b.config.build.templates ++ names.map .name) : b.Apart d path := by
  intro other hother
  have hdown : ∀ c ∈ names.map Component.name, ∃ name, c = .name name := by
    intro c hc
    obtain ⟨name, -, rfl⟩ := List.mem_map.mp hc
    exact ⟨name, rfl⟩
  rcases hother.of_below hroot hmoves hdown with hpasses | hbelow
  · exact h.apart other hpasses
  · exact h.not_touches hbelow

end Separated

namespace Separated

theorem exists_template (h : b.Separated d) (hpath : path ∈ b.regularTemplates d) :
    ∃ names, names ≠ [] ∧ d.Listed b.config.build.templates true names ∧
      path = names.foldl join b.config.build.templates := by
  obtain ⟨-, names, rfl, hlisted⟩ := Disk.listed_of_mem h.proper hpath
  exact ⟨names, hlisted.ne_nil h.isDir, hlisted, rfl⟩

theorem apart_template (h : b.Separated d) (hpath : path ∈ b.regularTemplates d) :
    b.Apart d path := by
  obtain ⟨names, -, hlisted, rfl⟩ := h.exists_template hpath
  obtain ⟨hroot, hmoves⟩ := Disk.moves_of_names hlisted.isName b.config.build.templates
  exact h.apart_of_below hroot hmoves

/-- A template has a path from the templates, which leads back to it, as a name too. -/
theorem relative_template (h : b.Separated d) (hpath : path ∈ b.regularTemplates d) :
    ∃ rel, relativeTo? path b.config.build.templates = some rel ∧
      join b.config.build.templates rel = path ∧
      Disk.templatePath b.config.build.templates b.config.build.extension rel = path := by
  obtain ⟨names, hne, hlisted, hnames⟩ := h.exists_template hpath
  obtain ⟨hext, -⟩ := Disk.listed_of_mem h.proper hpath
  have hjoin : join b.config.build.templates ("/".intercalate names) = path :=
    (foldl_join_eq hne hlisted.isName _).symm.trans hnames.symm
  refine ⟨"/".intercalate names, ?_, hjoin, ?_⟩
  · rw [← hjoin]
    exact relativeTo?_names h.templates_ne_empty hne hlisted.isName
  · -- The last name ends with the extension, so it is not added again.
    obtain ⟨init, last, rfl⟩ := (List.eq_nil_or_concat' names).resolve_left hne
    have hlast : fileName? path = some last := by
      rw [hnames, fileName?_eq_some_iff, (Disk.moves_of_names hlisted.isName _).2]
      exact ⟨moves b.config.build.templates ++ init.map .name, by simp⟩
    rw [Path.extension?, hlast, Option.bind_some] at hext
    obtain ⟨stem, hstem⟩ : ∃ stem, last = stem ++ "." ++ b.config.build.extension :=
      ⟨_, (splitName_eq_iff.mp (Prod.ext rfl hext)).1⟩
    have hsuffix : ("." ++ b.config.build.extension).toList <:+
        ("/".intercalate (init ++ [last])).toList := by
      have hend : ("." ++ b.config.build.extension).toList <:+ last.toList := by
        rw [hstem, String.append_assoc, String.toList_append (s := stem)]
        exact List.suffix_append _ _
      have hsegs := segments_names hne hlisted.isName
      rw [List.map_append, List.map_singleton] at hsegs
      rcases (segments_eq_concat_iff.mp hsegs).2 with ⟨-, htext⟩ | ⟨a, htext, -⟩
      · rwa [htext]
      · rw [htext]
        exact hend.trans ((List.suffix_cons _ _).trans (List.suffix_append _ _))
    rw [Disk.templatePath, if_pos (List.isSuffixOf_iff_suffix.mpr hsuffix), hjoin]

/-- No template lies in the directory of the posts. -/
theorem not_startsWith (h : b.Separated d) (hpath : path ∈ b.regularTemplates d) :
    startsWith path b.config.postsDir = false :=
  h.covered.not_startsWith h.descends h.proper hpath

theorem exists_post (h : b.Separated d) (hpath : path ∈ Site.postFiles d b.config) :
    ∃ names, names ≠ [] ∧ d.Listed b.config.postsDir false names ∧
      path = names.foldl join b.config.postsDir := by
  obtain ⟨-, names, rfl, hlisted⟩ := Disk.listed_of_mem h.proper hpath
  refine ⟨names, ?_, hlisted, rfl⟩
  rintro rfl
  obtain ⟨text, time, hfile⟩ := hlisted.file
  rw [List.append_nil] at hfile
  exact h.postsDir_not_file text time hfile

theorem apart_post (h : b.Separated d) (hpath : path ∈ Site.postFiles d b.config) :
    b.Apart d path := by
  obtain ⟨names, -, hlisted, rfl⟩ := h.exists_post hpath
  obtain ⟨hroot, hmoves⟩ := h.moves_postsDir
  obtain ⟨names', -, hposts⟩ := h.descends.exists_names
  obtain ⟨hroot', hmoves'⟩ := Disk.moves_of_names hlisted.isName b.config.postsDir
  rw [hmoves, hposts, List.append_assoc, ← List.map_append] at hmoves'
  exact h.apart_of_below (hroot'.trans hroot) hmoves'

/-- A post and a template are different files. -/
theorem place_post_ne (h : b.Separated d) {other : String} (hpath : path ∈ b.regularTemplates d)
    (hother : other ∈ Site.postFiles d b.config) : d.place other ≠ d.place path :=
  h.covered.place_ne h.descends h.proper hpath hother

/-- A post has a path from the templates too, which leads into the directory of the posts and has
the components of the post's file. -/
theorem relative_post (h : b.Separated d) (hpath : path ∈ Site.postFiles d b.config) :
    ∃ rel, relativeTo? path b.config.build.templates = some rel ∧
      startsWith (join b.config.build.templates rel) b.config.postsDir = true ∧
      components (join b.config.build.templates rel) = components path := by
  obtain ⟨names, hne, hlisted, hnames⟩ := h.exists_post hpath
  have hdir := h.templates_ne_empty
  have hbehind := isAbsolute_names hne hlisted.isName
  have hjoin : path = join b.config.build.templates
      (join b.config.build.posts ("/".intercalate names)) := by
    rw [hnames, foldl_join_eq hne hlisted.isName]
    exact join_assoc h.relative h.posts_ne_empty hbehind _
  have hroot := (isAbsolute_join hbehind b.config.build.posts).trans h.relative
  obtain ⟨front, last, hsegs, hlast⟩ :=
    segments_join_names h.posts_ne_empty hne hlisted.isName
  -- Blank segments of the directory's path, as in `./_posts`, are not in the path from the
  -- templates.
  have hcomponents := (components_join_skipBlank hdir hroot).trans (congrArg components hjoin.symm)
  refine ⟨_, hjoin ▸ relativeTo?_join hdir hroot hsegs hlast, ?_, hcomponents⟩
  rw [startsWith, hcomponents, hnames, foldl_join_eq hne hlisted.isName,
    components_join h.postsDir_ne_empty hbehind, List.isPrefixOf_iff_prefix]
  exact List.prefix_append _ _

theorem nodup_postFiles (h : b.Separated d) : ((Site.postFiles d b.config).map moves).Nodup :=
  List.pairwise_map.mpr (Disk.pairwise_listFiles h.proper _ _ _)

/-- Files of posts with the same components are the same. -/
theorem eq_of_components (h : b.Separated d) {other : String}
    (hpath : path ∈ Site.postFiles d b.config) (hother : other ∈ Site.postFiles d b.config)
    (hsame : components path = components other) : path = other := by
  refine List.inj_on_of_nodup_map h.nodup_postFiles hpath hother ?_
  rw [← filter_components_eq_moves, ← filter_components_eq_moves, hsame]

section Load

variable [Toolkit] {today : Date} {pipeline : Pipeline} {cells : Cells} {errors : List LogLine}

theorem source_mem (hload : Site.load d today b.config pipeline = (site, cells, errors))
    {post : Post} (hpost : post ∈ site.posts) :
    post.source ∈ Site.postFiles d b.config ∧ Site.failure? d b.config post.source = none := by
  have hmem := (Site.sources_of_load hload).mem_iff.mp (List.mem_map_of_mem hpost)
  obtain ⟨hfile, hnone⟩ := List.mem_filter.mp hmem
  exact ⟨hfile, Option.isNone_iff_eq_none.mp hnone⟩

/-- A post is found by any path with the components of its file. -/
theorem find?_post (h : b.Separated d)
    (hload : Site.load d today b.config pipeline = (site, cells, errors))
    {post : Post} (hpost : post ∈ site.posts) (hpath : components path = components post.source) :
    site.posts.find? (fun other => Path.same other.source path) = some post := by
  have hnodup : (site.posts.map Post.source).Nodup :=
    (Site.sources_of_load hload).nodup_iff.mpr (h.nodup_postFiles.of_map.filter _)
  cases hfind : site.posts.find? fun other => Path.same other.source path with
  | none =>
    have hnone := List.find?_eq_none.mp hfind post hpost
    exact absurd (beq_iff_eq.mpr hpath.symm) hnone
  | some other =>
    have hfound : Path.same other.source path = true :=
      List.find?_some (p := fun other : Post => Path.same other.source path) hfind
    have hother := List.mem_of_find?_eq_some hfind
    have hsource := h.eq_of_components (source_mem hload hother).1 (source_mem hload hpost).1
      ((beq_iff_eq.mp hfound).trans hpath)
    rw [List.inj_on_of_nodup_map hnodup hother hpost hsource]

/-- A post file that does not compile is none of the posts. -/
theorem find?_failure (h : b.Separated d)
    (hload : Site.load d today b.config pipeline = (site, cells, errors)) {other : String}
    (hother : other ∈ Site.postFiles d b.config) (hfailure : Site.failure? d b.config other ≠ none)
    (hpath : components path = components other) :
    site.posts.find? (fun post => Path.same post.source path) = none := by
  rw [List.find?_eq_none]
  intro post hpost hsame
  obtain ⟨hfile, hnone⟩ := source_mem hload hpost
  have hsource := h.eq_of_components hfile hother ((beq_iff_eq.mp hsame).trans hpath)
  exact hfailure (hsource ▸ hnone)

theorem named_of_mem_tasks (h : b.Separated d) (htask : task ∈ b.tasks d site)
    (hpath : task = .template path) : b.Named path := by
  subst hpath
  have hmem : path ∈ b.regularTemplates d := by
    simpa [tasks] using htask
  obtain ⟨rel, hrel, -, hname⟩ := h.relative_template hmem
  intro name hname'
  rw [hrel] at hname'
  cases hname'
  exact hname

theorem apart_of_mem_tasks (h : b.Separated d)
    (hload : Site.load d today b.config pipeline = (site, cells, errors))
    (htask : task ∈ b.tasks d site) (hpath : task.file? = some path) : b.Apart d path := by
  rcases of_mem_tasks htask with ⟨path, hmem, rfl⟩ | ⟨post, hmem, rfl⟩ | ⟨name, -, rfl⟩
  · cases hpath
    exact h.apart_template hmem
  · cases hpath
    exact h.apart_post (source_mem hload hmem).1
  · cases hpath

/-- No other unit is compiled from the file of a template. -/
theorem place_ne (h : b.Separated d)
    (hload : Site.load d today b.config pipeline = (site, cells, errors))
    {other : String} (hpath : path ∈ b.regularTemplates d) (htask : task ∈ b.tasks d site)
    (hne : task ≠ .template path) (hother : task.file? = some other) :
    d.place other ≠ d.place path := by
  rcases of_mem_tasks htask with ⟨path', hmem, rfl⟩ | ⟨post, hmem, rfl⟩ | ⟨name, -, rfl⟩
  · obtain rfl := Option.some.inj hother
    obtain ⟨names, -, hlisted, rfl⟩ := h.exists_template hpath
    obtain ⟨names', -, hlisted', rfl⟩ := h.exists_template hmem
    rw [hlisted.place_eq, hlisted'.place_eq]
    intro hsame
    exact hne (by rw [List.append_cancel_left hsame])
  · obtain rfl := Option.some.inj hother
    exact h.place_post_ne hpath (source_mem hload hmem).1
  · cases hother

end Load

/-- A directory at or below the templates has the same files when the output is cleared. -/
theorem listFiles_of_cleared (h : b.Separated d) (hleft : b.cleared d = .ok left)
    (hapart : b.Apart d path) (hbelow : d.place b.config.build.templates <+: d.place path)
    (extension : String) (skip : Bool) :
    left.listFiles path extension skip = d.listFiles path extension skip := by
  have hlocate : left.locate path = d.locate path := by
    have halike := (differsIn_of_cleared hleft).alike hapart
    exact Disk.locate_congr halike.current halike.way
  have hget : left.root.get (d.place path) = d.root.get (d.place path) := by
    unfold cleared at hleft
    split at hleft
    · refine Disk.get_of_clear_apart hleft (fun hin => h.not_touches hbelow (.inl hin))
        fun habove => ?_
      exact h.output (hbelow.trans habove)
    · cases hleft
      rfl
  have hnode : left.node path = d.node path := by
    unfold Disk.node
    rw [hlocate]
    cases hpath : d.locate path with
    | error e => rfl
    | ok names =>
      rw [Disk.place_of_locate hpath]
      exact hget
  exact Disk.listFiles_congr (congrArg _ hnode) extension skip

/-- Clearing the output changes neither the templates nor the site. -/
theorem sources_of_cleared [Toolkit] (h : b.Separated d) (hleft : b.cleared d = .ok left) :
    b.regularTemplates left = b.regularTemplates d ∧
      Site.load left b.clock.today b.config b.pipeline =
        Site.load d b.clock.today b.config b.pipeline := by
  have hfiles : Site.postFiles left b.config = Site.postFiles d b.config := by
    obtain ⟨hroot, hmoves⟩ := h.moves_postsDir
    obtain ⟨names, -, hposts⟩ := h.descends.exists_names
    rw [hposts] at hmoves
    refine h.listFiles_of_cleared hleft (h.apart_of_below hroot hmoves) ?_ _ _
    rw [Disk.place_append hroot hmoves]
    exact List.prefix_append _ _
  refine ⟨h.listFiles_of_cleared hleft h.apart List.prefix_rfl _ _,
    Site.load_congr hfiles (fun path hpath => ?_) _ _⟩
  exact (differsIn_of_cleared hleft).alike (h.apart_post hpath)

theorem tasks_of_cleared [Toolkit] (h : b.Separated d) (hleft : b.cleared d = .ok left)
    (site : Site) : b.tasks left site = b.tasks d site := by
  rw [tasks, tasks, (h.sources_of_cleared hleft).1]

end Separated

def usual : Builder := .standard {} ⟨0, Date.epoch⟩

def journal : Workshop :=
  ⟨⟨.dir [("template", .dir [
    ("_layouts", .dir [("base.sx", .file "(slot)" 0)]),
    ("_posts", .dir [("2024-01-01-a.sx", .file ";tags: x\n\"post\"" 0)]),
    ("index.sx", .file ";layout: base\n\"home\"" 0)])], []⟩, [], []⟩

theorem arranged_journal : usual.Arranged journal.disk where
  proper := by decide +kernel
  isDir := by decide +kernel
  relative := by decide +kernel
  below := by decide +kernel
  underscore := by decide +kernel
  postsDir := by decide +kernel
  apart := by decide +kernel
  output := by decide +kernel
  opens := by decide +kernel
  urls := by decide +kernel

theorem tasks_journal {cells : Cells} {errors : List LogLine}
    (hload : Site.load journal.disk usual.clock.today usual.config usual.pipeline =
      (site, cells, errors)) : (usual.tasks journal.disk site).map Task.name =
        ["template/index.sx", "template/_posts/2024-01-01-a.sx", tagUnit "x"] := by
  have hnames : (usual.tasks journal.disk (Site.load journal.disk usual.clock.today usual.config
      usual.pipeline).1).map Task.name =
        ["template/index.sx", "template/_posts/2024-01-01-a.sx", tagUnit "x"] := by
    decide +kernel
  rwa [hload] at hnames

theorem uses_journal {cells : Cells} {errors : List LogLine} {name : String}
    (hload : Site.load journal.disk usual.clock.today usual.config usual.pipeline =
      (site, cells, errors)) (htask : task ∈ usual.tasks journal.disk site)
    (h : task.Uses usual journal.disk name) : name = "base" ∨ name = "tag" := by
  have hbase : Layer.nextName (usual.layouts journal.disk) "base" = none := by decide +kernel
  have htag : Layer.nextName (usual.layouts journal.disk) "tag" = none := by decide +kernel
  rcases of_mem_tasks htask with ⟨path, hpath, rfl⟩ | ⟨post, hpost, rfl⟩ | ⟨tag, -, rfl⟩
  · have hpaths : usual.regularTemplates journal.disk = ["template/index.sx"] := by decide +kernel
    rw [hpaths, List.mem_singleton] at hpath
    subst hpath
    obtain ⟨raw, hraw, start, before, hstart, hwalk⟩ := h
    have hlayout : Layer.layoutOf (journal.disk.readTemplate "template/index.sx") =
        some "base" := by decide +kernel
    rw [hraw] at hlayout
    obtain rfl : start = "base" := Option.some.inj (hstart.symm.trans hlayout)
    exact .inl (hwalk.eq_start hbase)
  · obtain ⟨raw, hraw, start, before, hstart, hwalk⟩ := h
    have hfile := (Separated.source_mem hload hpost).1
    have hfiles : Site.postFiles journal.disk usual.config =
        ["template/_posts/2024-01-01-a.sx"] := by decide +kernel
    rw [hfiles, List.mem_singleton] at hfile
    have hlayout : Layer.layoutOf (journal.disk.readTemplate "template/_posts/2024-01-01-a.sx") =
        none := by decide +kernel
    rw [hfile] at hraw
    rw [hraw] at hlayout
    cases hlayout.symm.trans hstart
  · obtain ⟨before, hwalk⟩ := h
    exact .inr (hwalk.eq_start htag)

end Builder
end LayeredSite
