import LayeredSite.Proofs.Build.Arrangement
import LayeredSite.Proofs.Disk.Covered

namespace LayeredSite

def Workshop.Says (w w' : Workshop) (line : LogLine) : Prop :=
  ∃ lines, w'.log = w.log ++ lines ∧ line ∈ lines

namespace Workshop.Says

variable {w v w' : Workshop} {line : LogLine}

theorem since (hlog : w.log <+: v.log) (h : v.Says w' line) : w.Says w' line := by
  obtain ⟨before, hbefore⟩ := hlog
  obtain ⟨lines, hlines, hmem⟩ := h
  refine ⟨before ++ lines, ?_, List.mem_append_right _ hmem⟩
  rw [hlines, ← hbefore, List.append_assoc]

theorem upTo (h : w.Says v line) (hlog : v.log <+: w'.log) : w.Says w' line := by
  obtain ⟨after, hafter⟩ := hlog
  obtain ⟨lines, hlines, hmem⟩ := h
  refine ⟨lines ++ after, ?_, List.mem_append_left _ hmem⟩
  rw [← hafter, hlines, List.append_assoc]

end Workshop.Says

def Workshop.Reports (w w' : Workshop) : Prop :=
  ∃ lines, w'.log = w.log ++ lines ∧ ∃ line ∈ lines, line.channel = "error"

namespace Workshop.Reports

variable {w v w' : Workshop}

theorem iff_says : w.Reports w' ↔ ∃ line, w.Says w' line ∧ line.channel = "error" := by
  constructor
  · rintro ⟨lines, hlines, line, hmem, herror⟩
    exact ⟨line, ⟨lines, hlines, hmem⟩, herror⟩
  · rintro ⟨line, ⟨lines, hlines, hmem⟩, herror⟩
    exact ⟨lines, hlines, line, hmem, herror⟩

theorem since (hlog : w.log <+: v.log) (h : v.Reports w') : w.Reports w' := by
  obtain ⟨line, hsays, herror⟩ := iff_says.mp h
  exact iff_says.mpr ⟨line, hsays.since hlog, herror⟩

theorem upTo (h : w.Reports v) (hlog : v.log <+: w'.log) : w.Reports w' := by
  obtain ⟨line, hsays, herror⟩ := iff_says.mp h
  exact iff_says.mpr ⟨line, hsays.upTo hlog, herror⟩

theorem log_ne (h : w.Reports w') : w'.log ≠ w.log := by
  obtain ⟨lines, hlines, line, hmem, -⟩ := h
  intro hsame
  rw [List.self_eq_append_right.mp (hsame.symm.trans hlines)] at hmem
  cases hmem

end Workshop.Reports

namespace Builder

variable {b : Builder} {site : Site} {w : Workshop}

/-- A part of a build that adds to the log, and adds an error to it if it fails. -/
structure Tells (x : Building Bool) : Prop where
  logs : Logs x
  reports : ∀ w, (x w).1 = false → w.Reports (x w).2

namespace Tells

variable {α : Type}

theorem done : Tells (pure true) := ⟨Logs.result true, nofun⟩

theorem after {x : Building α} {f : α → Building Bool} (hx : Logs x) (hf : ∀ a, Tells (f a)) :
    Tells (x >>= f) :=
  ⟨hx.next fun a => (hf a).logs,
    fun w hfalse => ((hf (x w).1).reports (x w).2 hfalse).since (hx w)⟩

/-- A part of a build that begins by looking at what there is. -/
theorem look {f : Workshop → Building Bool} (hf : ∀ w, Tells (f w)) : Tells (get >>= f) :=
  ⟨Logs.look fun w => (hf w).logs, fun w => (hf w).reports w⟩

/-- Of two parts that must both succeed, the one that fails tells. -/
theorem both {x y : Building Bool} (hx : Tells x) (hy : Tells y) : Tells (do
    let ok ← x
    let more ← y
    return ok && more) := by
  refine ⟨hx.logs.next fun _ => hy.logs.next fun _ => Logs.result _, fun w hfalse => ?_⟩
  have hand : ((x w).1 && (y (x w).2).1) = false := hfalse
  -- The second part is run in any case, and what the first one has logged stays.
  rcases Bool.and_eq_false_iff.mp hand with hfirst | hsecond
  · exact (hx.reports w hfirst).upTo (hy.logs _)
  · exact (hy.reports _ hsecond).since (hx.logs w)

/-- A part that logs an error tells, whatever follows. -/
theorem error {x : Building α} {f : α → Building Bool} (hx : Logs x) (hf : ∀ a, Logs (f a))
    (message : String) : Tells (do
      Building.say "error" message
      f (← x)) := by
  have hlogs : Logs (x >>= f) := hx.next hf
  refine ⟨(Logs.say "error" message).next fun _ => hlogs, fun w _ => ?_⟩
  have hsaid : w.Reports (Building.say "error" message w).2 :=
    ⟨[⟨"error", message⟩], rfl, _, List.mem_singleton_self _, rfl⟩
  exact hsaid.upTo (hlogs _)

theorem makeUnit (name : String) (x : Paging Page) : Tells (b.makeUnit name x) := by
  refine ⟨Logs.makeUnit name x, fun w hfalse => ?_⟩
  rw [makeUnit_apply] at hfalse ⊢
  generalize (x.run w.cells).2 = cells at hfalse ⊢
  cases hpage : (x.run w.cells).1 with
  | error e => exact ⟨[failure name e], rfl, _, List.mem_singleton_self _, rfl⟩
  | ok page =>
    rw [hpage, attempt_ok] at hfalse
    rw [attempt_ok]
    cases hwrite : Output.write w.disk page.path page.text b.clock.now with
    | error e => exact ⟨[failure name e], rfl, _, List.mem_singleton_self _, rfl⟩
    | ok disk =>
      rw [hwrite] at hfalse
      cases hfalse

theorem makeAll {make : α → Building Bool} (h : ∀ a, Tells (make a)) (all : List α) :
    Tells (Builder.makeAll make all) := by
  induction all with
  | nil => exact done
  | cons a rest ih => exact (h a).both ih

variable [Toolkit]

/-- If all posts are loaded, the units tell of every failure. -/
theorem makeTemplates (b : Builder) {site : Site} (h : site.failed = 0) :
    Tells (b.makeTemplates site) := by
  unfold Builder.makeTemplates
  rw [h]
  exact look fun w => after (Logs.say _ _) fun _ =>
    (makeAll (fun _ => look fun _ => makeUnit _ _) _).both
      (makeAll (fun _ => look fun _ => makeUnit _ _) _)

theorem makeTagsFrom (claimed : List (String × String)) (names : List String) :
    Tells (b.makeTagsFrom site claimed names) := by
  induction names generalizing claimed with
  | nil => exact done
  | cons name rest ih =>
    rw [Builder.makeTagsFrom]
    split
    · exact error (ih _).logs (fun _ => Logs.result false) _
    · exact both (look fun _ => makeUnit _ _) (ih _)

theorem makeTags (b : Builder) (site : Site) : Tells (b.makeTags site) := by
  unfold Builder.makeTags
  split
  · exact done
  · exact after (Logs.say _ _) fun _ => makeTagsFrom _ _

end Tells

section Calls

variable [Toolkit]

def loaded (b : Builder) (disk : Disk) : Site :=
  (Site.load disk b.clock.today b.config b.pipeline).1

theorem logs_loadSite (b : Builder) : Logs b.loadSite := fun _ => List.prefix_append _ _

/-- Loading reports exactly the posts that are left out. -/
theorem reports_loadSite_iff : w.Reports (b.loadSite w).2 ↔ (b.loaded w.disk).failed ≠ 0 := by
  rcases hload : Site.load w.disk b.clock.today b.config b.pipeline with ⟨site, cells, errors⟩
  obtain ⟨herrors, hfailed⟩ := Site.errors_of_load hload
  rw [loadSite_apply hload, loaded, hload, hfailed, Ne, List.length_eq_zero_iff]
  constructor
  · rintro ⟨lines, hlines, line, hmem, -⟩ hnone
    rw [List.append_cancel_left hlines] at hnone
    rw [hnone] at hmem
    cases hmem
  · intro hsome
    obtain ⟨line, hline⟩ := List.exists_mem_of_ne_nil errors hsome
    refine ⟨errors, rfl, line, hline, ?_⟩
    rw [herrors] at hline
    obtain ⟨path, -, hfailure⟩ := List.mem_filterMap.mp hline
    unfold Site.failure? at hfailure
    split at hfailure
    · cases hfailure
    · rw [← Option.some.inj hfailure]

/-- A path inside the directory of the posts that is not the file of a post, on a disk where every
post compiles. -/
structure Overlooks (b : Builder) (disk : Disk) (path : String) : Prop where
  inside : Path.startsWith (Path.join b.config.build.templates path) b.config.postsDir = true
  compiles : ∀ file ∈ Site.postFiles disk b.config,
    ∃ doc, Site.document disk b.config file = .ok doc
  missing : ∀ file ∈ Site.postFiles disk b.config,
    Path.same file (Path.join b.config.build.templates path) = false

/-- If all posts are loaded, a file of a post is found among them. -/
theorem find?_eq_none_iff (h : (b.loaded w.disk).failed = 0) (path : String) :
    (b.loaded w.disk).posts.find? (fun post => Path.same post.source path) = none ↔
      ∀ file ∈ Site.postFiles w.disk b.config, Path.same file path = false := by
  have hload : Site.load w.disk b.clock.today b.config b.pipeline = (b.loaded w.disk, _, _) := rfl
  have hperm := Site.sources_of_load hload
  have hall : (Site.postFiles w.disk b.config).filter
      (fun path => (Site.failure? w.disk b.config path).isNone) =
        Site.postFiles w.disk b.config := by
    refine List.filter_eq_self.mpr fun file hfile => ?_
    rw [Option.isNone_iff_eq_none, Site.failure?_eq_none_iff]
    exact (Site.failed_eq_zero_iff hload).mp h file hfile
  rw [hall] at hperm
  rw [List.find?_eq_none]
  constructor
  · intro hnone file hfile
    obtain ⟨post, hpost, rfl⟩ := List.mem_map.mp (hperm.mem_iff.mpr hfile)
    exact Bool.eq_false_iff.mpr (hnone post hpost)
  · intro hnone post hpost
    exact Bool.eq_false_iff.mp
      (hnone post.source (hperm.mem_iff.mp (List.mem_map_of_mem hpost)))

theorem overlooks_iff (path : String) : b.Overlooks w.disk path ↔
    Path.startsWith (Path.join b.config.build.templates path) b.config.postsDir = true ∧
      (b.loaded w.disk).failed = 0 ∧ (b.loaded w.disk).posts.find?
        (fun post => Path.same post.source (Path.join b.config.build.templates path)) = none := by
  have hfailed : (b.loaded w.disk).failed = 0 ↔ ∀ file ∈ Site.postFiles w.disk b.config,
      ∃ doc, Site.document w.disk b.config file = .ok doc := Site.failed_eq_zero_iff rfl
  constructor
  · rintro ⟨hinside, hcompiles, hmissing⟩
    have hzero := hfailed.mpr hcompiles
    exact ⟨hinside, hzero, (find?_eq_none_iff hzero _).mpr hmissing⟩
  · rintro ⟨hinside, hzero, hnone⟩
    exact ⟨hinside, hfailed.mp hzero, (find?_eq_none_iff hzero _).mp hnone⟩

/-- What a call does once the site is loaded. -/
theorem compileTemplate_apply (b : Builder) (path : String) (w : Workshop) :
    b.compileTemplate path w =
      (let path := Path.join b.config.build.templates path
      if Path.startsWith path b.config.postsDir then
        match (b.loaded w.disk).posts.find? fun post => Path.same post.source path with
        | some post => get >>= fun v => b.makeUnit path (b.postPage v.disk (b.loaded w.disk) post)
        | none => pure false
      else b.makeTemplate (b.loaded w.disk) path : Building Bool) (b.loadSite w).2 := rfl

/-- A single template fails silently exactly if its path is overlooked. -/
theorem compileTemplate_silent_iff (b : Builder) (path : String) (w : Workshop) :
    ((b.compileTemplate path w).1 = false ∧ ¬ w.Reports (b.compileTemplate path w).2) ↔
      b.Overlooks w.disk path := by
  rw [overlooks_iff, compileTemplate_apply]
  have hsince : ∀ v, (b.loadSite w).2.Reports v → w.Reports v :=
    fun v hv => hv.since (logs_loadSite b w)
  have htells : ∀ {x : Building Bool}, Tells x →
      ¬ ((x (b.loadSite w).2).1 = false ∧ ¬ w.Reports (x (b.loadSite w).2).2) :=
    fun hx ⟨hfalse, hsilent⟩ => hsilent (hsince _ (hx.reports _ hfalse))
  dsimp only
  by_cases hinside : Path.startsWith (Path.join b.config.build.templates path) b.config.postsDir
  · rw [if_pos hinside]
    cases hfind : (b.loaded w.disk).posts.find? fun post =>
        Path.same post.source (Path.join b.config.build.templates path) with
    | some post =>
      refine iff_of_false (htells (.look fun _ => .makeUnit _ _)) ?_
      rintro ⟨-, -, hnone⟩
      cases hnone
    | none =>
      -- No unit is made, so that only the posts left out in loading can be in the log.
      constructor
      · rintro ⟨-, hsilent⟩
        exact ⟨hinside, not_not.mp fun hfailed => hsilent (reports_loadSite_iff.mpr hfailed), rfl⟩
      · rintro ⟨-, hzero, -⟩
        exact ⟨rfl, fun hreports => reports_loadSite_iff.mp hreports hzero⟩
  · rw [if_neg hinside]
    refine iff_of_false (htells (.look fun _ => .makeUnit _ _)) ?_
    rintro ⟨hinside', -, -⟩
    exact hinside hinside'

theorem tells_compileTag (b : Builder) (name : String) : Tells (b.compileTag name) :=
  .after (logs_loadSite b) fun _ => .look fun _ => .makeUnit _ _

theorem tells_compileTags (b : Builder) : Tells b.compileTags :=
  .after (logs_loadSite b) fun site => .makeTags b site

/-- A post that is left out is reported when it is loaded, all else when it is made. -/
theorem tells_compileTemplates (b : Builder) : Tells b.compileTemplates := by
  refine ⟨(logs_loadSite b).next fun site => Logs.rules.makeTemplates b site, fun w hfalse => ?_⟩
  by_cases hzero : (b.loaded w.disk).failed = 0
  · exact ((Tells.makeTemplates b hzero).reports _ hfalse).since (logs_loadSite b w)
  · exact (reports_loadSite_iff.mpr hzero).upTo (Logs.rules.makeTemplates b _ _)

/-- Every call that fails logs an error, but for a single template that is overlooked. -/
theorem reports_of_failed (b : Builder) (w : Workshop) :
    (∀ path, ((b.compileTemplate path w).1 = false ∧ ¬ w.Reports (b.compileTemplate path w).2) ↔
      b.Overlooks w.disk path) ∧
    (∀ name, (b.compileTag name w).1 = false → w.Reports (b.compileTag name w).2) ∧
    ((b.compileTemplates w).1 = false → w.Reports (b.compileTemplates w).2) ∧
    ((b.compileTags w).1 = false → w.Reports (b.compileTags w).2) :=
  ⟨fun path => compileTemplate_silent_iff b path w, fun name => (tells_compileTag b name).reports w,
    (tells_compileTemplates b).reports w, (tells_compileTags b).reports w⟩

end Calls

/-- No post of the journal has the tag `y`, and the log says so. -/
theorem journal_reports : (usual.compileTag "y" journal).1 = false ∧
    journal.Reports (usual.compileTag "y" journal).2 :=
  have hfalse : (usual.compileTag "y" journal).1 = false := by decide +kernel
  ⟨hfalse, (reports_of_failed usual journal).2.1 "y" hfalse⟩

/-- The journal has no post `missing.sx`. Asking for it fails, and nothing is logged. -/
theorem journal_silent : ¬ ((usual.compileTemplate "_posts/missing.sx" journal).1 = false →
    journal.Reports (usual.compileTemplate "_posts/missing.sx" journal).2) := by
  have hfalse : (usual.compileTemplate "_posts/missing.sx" journal).1 = false := by decide +kernel
  have hlog : (usual.compileTemplate "_posts/missing.sx" journal).2.log = journal.log := by
    decide +kernel
  exact fun hreports => (hreports hfalse).log_ne hlog

end Builder
end LayeredSite

namespace LayeredSite

open LayeredSite.Path

namespace Builder

section Kinds

variable [Toolkit] {b : Builder} {d : Disk}

/-- All templates of a site are neither posts nor layouts, and each is built alone as in a build of
everything. -/
structure TellsKinds (b : Builder) (d : Disk) : Prop where
  outside : (b.regularTemplates d).filter (fun path =>
    !startsWith path b.config.postsDir && !startsWith path b.config.layoutsDir) =
      b.regularTemplates d
  alone : ∀ path ∈ b.regularTemplates d, ∃ rel, join b.config.build.templates rel = path ∧
    ∀ w : Workshop, w.disk = d →
      b.compileTemplate rel w = b.makeTemplate (b.loaded d) path (b.loadSite w).2
  posts : ∀ path ∈ b.regularTemplates d, ∀ file ∈ Site.postFiles d b.config,
    d.place file ≠ d.place path
  layouts : ∀ path ∈ b.regularTemplates d,
    ∀ file ∈ d.listFiles b.config.layoutsDir b.config.build.extension false,
      d.place file ≠ d.place path

/-- A template that is not in the directory of the posts is built alone as in a build of
everything. -/
theorem compileTemplate_of_outside {rel path : String} {w : Workshop}
    (hrel : join b.config.build.templates rel = path)
    (hpath : startsWith path b.config.postsDir = false) : b.compileTemplate rel w =
      b.makeTemplate (b.loaded w.disk) path (b.loadSite w).2 := by
  rw [compileTemplate_apply]
  dsimp only
  rw [hrel, if_neg (by rw [hpath]; exact Bool.false_ne_true)]

/-- A site tells its templates from posts and layouts exactly if every file in the directories of
these is behind an underscore. -/
theorem tellsKinds_iff (hproper : d.root.Proper) (hdir : d.isDir b.config.build.templates = true)
    (hposts : Descends b.config.build.posts) (hlayouts : Descends b.config.build.layouts) :
    b.TellsKinds d ↔
      d.Covered b.config.build.templates b.config.build.posts b.config.build.extension ∧
      d.Covered b.config.build.templates b.config.build.layouts b.config.build.extension := by
  have houtside := List.filter_eq_self (l := b.regularTemplates d)
    (p := fun path => !startsWith path b.config.postsDir && !startsWith path b.config.layoutsDir)
  constructor
  · intro h
    have hall := houtside.mp h.outside
    simp only [Bool.and_eq_true, Bool.not_eq_true'] at hall
    exact ⟨(Disk.covered_iff hposts hproper hdir).mpr fun path hpath => (hall path hpath).1,
      (Disk.covered_iff hlayouts hproper hdir).mpr fun path hpath => (hall path hpath).2⟩
  · rintro ⟨hcovered, hcovered'⟩
    have hpost : ∀ path ∈ b.regularTemplates d, startsWith path b.config.postsDir = false :=
      fun path hpath => hcovered.not_startsWith hposts hproper hpath
    refine ⟨houtside.mpr fun path hpath => ?_, fun path hpath => ?_,
      fun path hpath file => hcovered.place_ne hposts hproper hpath,
      fun path hpath file => hcovered'.place_ne hlayouts hproper hpath⟩
    · have hlayout := hcovered'.not_startsWith hlayouts hproper hpath
      change startsWith path b.config.layoutsDir = false at hlayout
      rw [hpost path hpath, hlayout]
      rfl
    · obtain ⟨-, names, hnames, hlisted⟩ := Disk.listed_of_mem hproper hpath
      obtain ⟨rel, hrel, -⟩ := hlisted.exists_join hdir
      refine ⟨rel, hrel.symm.trans hnames.symm, fun w hw => ?_⟩
      rw [compileTemplate_of_outside (hrel.symm.trans hnames.symm) (hpost path hpath), hw]

end Kinds

/-- With the usual directories the journal tells its template from its post and its layout. -/
theorem tellsKinds_journal : usual.TellsKinds journal.disk :=
  (tellsKinds_iff (b := usual) (d := journal.disk) (by decide +kernel) (by decide +kernel)
    (by decide +kernel) (by decide +kernel)).mpr
      ⟨Disk.covered_of_underscore (by decide +kernel) (by decide +kernel),
        Disk.covered_of_underscore (by decide +kernel) (by decide +kernel)⟩

def flat : Builder := .standard { build := { posts := "posts" } } ⟨0, Date.epoch⟩

def flatDisk : Disk :=
  ⟨.dir [("template", .dir [("posts", .dir [("2024-01-01-a.sx", .file "\"x\"" 0)])])], []⟩

/-- The settings are valid, but the post is a template too, and is built as both. -/
theorem flat_not_tellsKinds :
    flat.config.validateSettings.toOption = some () ∧
    (flat.regularTemplates flatDisk = ["template/posts/2024-01-01-a.sx"] ∧
      (flat.loaded flatDisk).posts.map Post.source = ["template/posts/2024-01-01-a.sx"]) ∧
    ¬ flat.TellsKinds flatDisk := by
  have htemplates : flat.regularTemplates flatDisk = ["template/posts/2024-01-01-a.sx"] := by
    decide +kernel
  refine ⟨by decide +kernel, ⟨htemplates, by decide +kernel⟩, fun h => ?_⟩
  have hposts : Site.postFiles flatDisk flat.config = ["template/posts/2024-01-01-a.sx"] := by
    decide +kernel
  have hmem := List.mem_singleton_self "template/posts/2024-01-01-a.sx"
  exact h.posts _ (htemplates ▸ hmem) _ (hposts ▸ hmem) rfl

end Builder
end LayeredSite
