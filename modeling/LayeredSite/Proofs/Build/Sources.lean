import LayeredSite.Config.Resolve
import LayeredSite.Proofs.Build.Pages
import LayeredSite.Proofs.Disk.Differences

namespace LayeredSite

namespace Paging

/-- A sequence of two computations gives a result if both do. -/
theorem bind_eq_ok {α β : Type} {x : Paging α} {f : α → Paging β} {b : β} {cells cells' : Cells}
    (h : (x >>= f) cells = (.ok b, cells')) :
    ∃ a between, x cells = (.ok a, between) ∧ f a between = (.ok b, cells') := by
  change ExceptT.bindCont f (x cells).1 (x cells).2 = _ at h
  rcases hx : x cells with ⟨e | a, between⟩
  · rw [hx] at h
    cases h
  · rw [hx] at h
    exact ⟨a, between, rfl, h⟩

end Paging

/-- Files are written one after another, each at a path of a class, or fail to be. Nothing else
changes. -/
inductive Disk.Writes (P : String → Prop) : Disk → Disk → Prop
  | refl (d : Disk) : Writes P d d
  | step {d d' : Disk} {path text : String} {time : Int} : P path →
      Writes P (Output.put d path text time).2 d' → Writes P d d'

namespace Disk.Writes

variable {P : String → Prop} {d d' d'' : Disk} {names : List String} {text : String} {time : Int}

theorem trans (h : Writes P d d') (h' : Writes P d' d'') : Writes P d d'' := by
  induction h with
  | refl => exact h'
  | step hpath _ ih => exact .step hpath (ih h')

/-- A file is kept if no path of the class leads to it. -/
theorem get_eq (h : Writes P d d') (hfile : d.root.get names = .ok (.file text time))
    (hother : ∀ path, P path → d.place path ≠ names) :
    d'.root.get names = .ok (.file text time) := by
  induction h with
  | refl => exact hfile
  | @step d d' path text time hpath _ ih =>
    have hkeeps := Output.keeps_put d path text time
    obtain ⟨n, hn, hkept⟩ := hkeeps.node names _ hfile (.inr (hother path hpath).symm)
    cases hkept with
    | file =>
      exact ih hn fun path hP => place_eq_of_current hkeeps.current path ▸ hother path hP

end Disk.Writes

namespace Builder

variable {b : Builder} {w : Workshop} {P : String → Prop} {site : Site} {s t : Disk × Cells}
  {turn : Turn} {turns : List Turn} {task : Task} {url : String}

def PagesAt (P : String → Prop) (x : Paging Page) : Prop :=
  ∀ cells page cells', x cells = (.ok page, cells') → P page.path

namespace PagesAt

variable {α : Type}

theorem next {x : Paging α} {f : α → Paging Page} (hf : ∀ a, PagesAt P (f a)) :
    PagesAt P (x >>= f) := by
  intro cells page cells' h
  obtain ⟨a, between, -, ha⟩ := Paging.bind_eq_ok h
  exact hf a between page cells' ha

theorem refuse (e : BuildError) : PagesAt P (throw e) := by
  intro cells page cells' h
  cases h

end PagesAt

abbrev OutputIn (b : Builder) (P : String → Prop) (url : String) : Prop :=
  P (Url.outputPath b.config.build.output url)

section Builds

variable [Toolkit]

theorem pagesAt_page (doc : Document) (site : Value) (h : b.OutputIn P url) :
    PagesAt P (b.page doc site url) := by
  refine .next fun _ => .next fun _ => .next fun html => ?_
  intro cells page cells' hpage
  cases hpage
  exact h

def templateUrl? (b : Builder) (path : String) : Option String :=
  (Path.relativeTo? path b.config.build.templates).map fun name =>
    Url.ofTemplate name b.config.build.extension

def url? (b : Builder) : Task → Option String
  | .template path => b.templateUrl? path
  | .post post => some post.url
  | .tag name => some (Url.ofTag b.config.build.tagUrl name)

/-- The page of a unit belongs to its URL. -/
theorem pagesAt_task (site : Site) (disk : Disk) (task : Task)
    (h : ∀ url, b.url? task = some url → b.OutputIn P url) :
    PagesAt P (task.page b site disk) := by
  cases task with
  | template path =>
    unfold Task.page templatePage
    dsimp only
    split
    · exact .refuse _
    · rename_i name hname
      have hurl := h (Url.ofTemplate name b.config.build.extension)
        (by rw [url?, templateUrl?, hname]; rfl)
      exact .next fun doc => pagesAt_page doc _ hurl
  | post post => exact .next fun _ => .next fun doc => pagesAt_page doc _ (h post.url rfl)
  | tag name =>
    unfold Task.page tagPage
    dsimp only
    split
    · exact .next fun _ => .next fun doc => pagesAt_page doc _ (h _ rfl)
    · exact .next fun doc => pagesAt_page doc _ (h _ rfl)

/-- Whether a unit fails or not, it writes at most its page. -/
theorem writes_of_takes (h : b.Takes site s turn) (hP : PagesAt P (turn.task.page b site s.1)) :
    s.1.Writes P turn.after.disk := by
  rw [← h.disk]
  cases hpage : turn.page with
  | error e =>
    rw [h.disk_of_error hpage]
    exact .refl _
  | ok page =>
    rw [h.disk_of_ok hpage]
    exact .step (hP _ _ _ (hpage ▸ h.page)) (.refl _)

/-- Turns write pages of their units only, before each of them and in the end. -/
theorem writes_of_turns (h : b.Turns site s turns t)
    (hP : ∀ task ∈ turns.map Turn.task, ∀ disk, PagesAt P (task.page b site disk)) :
    s.1.Writes P t.1 ∧ ∀ turn ∈ turns, s.1.Writes P turn.before.disk := by
  induction h with
  | nil s => exact ⟨.refl s.1, fun _ hturn => absurd hturn List.not_mem_nil⟩
  | @cons s t turn turns hturn _ ih =>
    rw [List.map_cons] at hP
    obtain ⟨hfirst, hrest⟩ := List.forall_mem_cons.mp hP
    have hwrites := writes_of_takes hturn (hfirst s.1)
    obtain ⟨hlast, hbefore⟩ := ih hrest
    refine ⟨hwrites.trans hlast, List.forall_mem_cons.mpr ⟨?_, fun other hother => ?_⟩⟩
    · rw [hturn.disk]
      exact .refl s.1
    · exact hwrites.trans (hbefore other hother)

def urls (b : Builder) (disk : Disk) (site : Site) : List String :=
  (b.regularTemplates disk).filterMap b.templateUrl? ++ site.posts.map Post.url ++
    (Fields.keys site.tags).map (Url.ofTag b.config.build.tagUrl)

/-- The URLs of what a build makes from a disk: of what is left on it when the output is cleared. -/
def builtUrls (b : Builder) (disk : Disk) : List String :=
  match b.cleared disk with
  | .error _ => []
  | .ok left => b.urls left (Site.load left b.clock.today b.config b.pipeline).1

theorem ownTags_subset (b : Builder) (claimed names : List String) :
    b.ownTags claimed names ⊆ names := by
  induction names generalizing claimed with
  | nil => exact List.Subset.refl []
  | cons name rest ih =>
    rw [ownTags]
    split
    · exact List.subset_cons_of_subset name (ih claimed)
    · exact List.cons_subset_cons name (ih _)

theorem url_mem_urls {disk : Disk} (htask : task ∈ b.tasks disk site)
    (hurl : b.url? task = some url) : url ∈ b.urls disk site := by
  rw [urls, List.mem_append, List.mem_append]
  rcases of_mem_tasks htask with ⟨path, hpath, rfl⟩ | ⟨post, hpost, rfl⟩ | ⟨name, hname, rfl⟩
  · exact .inl (.inl (List.mem_filterMap.mpr ⟨path, hpath, hurl⟩))
  · exact .inl (.inr (List.mem_map.mpr ⟨post, hpost, Option.some.inj hurl⟩))
  · exact .inr (List.mem_map.mpr ⟨name, ownTags_subset b _ _ hname, Option.some.inj hurl⟩)

/-- The pages of a build from a cleared disk are at the paths of its URLs. -/
theorem Builds.pagesAt {disk left : Disk} {errors : List LogLine}
    (hleft : b.cleared disk = .ok left)
    (hbuilds : b.Builds left site errors turns t)
    (h : ∀ url ∈ b.builtUrls disk, b.OutputIn P url) :
    ∀ task ∈ turns.map Turn.task, ∀ disk, PagesAt P (task.page b site disk) := by
  obtain ⟨⟨cells, hload, -⟩, htasks⟩ := hbuilds
  have hurls : b.builtUrls disk = b.urls left site := by
    rw [builtUrls, hleft]
    dsimp only
    rw [hload]
  rw [hurls] at h
  rw [htasks]
  exact fun task htask disk => pagesAt_task site disk task fun url hurl =>
    h url (url_mem_urls htask hurl)

/-- A build that could clear the output has only written pages of its units after that. -/
theorem writes_of_build {left : Disk} (hleft : b.cleared w.disk = .ok left)
    (h : ∀ url ∈ b.builtUrls w.disk, b.OutputIn P url) :
    left.Writes P (b.build w).2.disk := by
  obtain ⟨site, errors, turns, ok, w', hbuild, hbuilds, -⟩ := build_of_cleared hleft
  obtain ⟨cells, -, hturns⟩ := hbuilds.load
  rw [hbuild]
  exact (writes_of_turns hturns (hbuilds.pagesAt hleft h)).1

theorem disk_of_build {e : BuildError} (hleft : b.cleared w.disk = .error e) :
    (b.build w).2.disk = w.disk := by
  rw [build_of_not_cleared hleft]

/-- A file stays as it is in a build, however that ends, unless the output is cleared and it lies in
there, or the output path of a template, a post or a tag leads to it. So it stays if it lies outside
of the output and no URL goes up. -/
theorem build_keeps_file {w' : Workshop} {r : Except BuildError Bool} (h : b.build w = (r, w'))
    {names : List String} {text : String} {time : Int}
    (hfile : w.disk.root.get names = .ok (.file text time)) :
    (w'.disk.root.get names = .ok (.file text time) ∨
      b.config.build.clean = true ∧ w.disk.place b.config.build.output <+: names ∨
      ∃ url ∈ b.builtUrls w.disk,
        w.disk.place (Url.outputPath b.config.build.output url) = names) ∧
    (¬ w.disk.place b.config.build.output <+: names →
      (∀ url ∈ b.builtUrls w.disk, Path.Component.parent ∉ Path.moves url) →
        w'.disk.root.get names = .ok (.file text time)) := by
  -- Both parts follow from this one: what is not reached by the clearing or by a page stays.
  have hkept : ¬ (b.config.build.clean = true ∧ w.disk.place b.config.build.output <+: names) →
      (∀ url ∈ b.builtUrls w.disk,
        w.disk.place (Url.outputPath b.config.build.output url) ≠ names) →
      w'.disk.root.get names = .ok (.file text time) := by
    intro hclean hother
    obtain rfl : (b.build w).2 = w' := by rw [h]
    cases hleft : b.cleared w.disk with
    | error e => rwa [disk_of_build hleft]
    | ok left =>
      obtain ⟨hstart, hcurrent⟩ : left.root.get names = .ok (.file text time) ∧
          left.current = w.disk.current := by
        unfold cleared at hleft
        split at hleft
        · rename_i hset
          refine ⟨Disk.get_of_clear hleft hfile fun hout => hclean ⟨hset, hout⟩, ?_⟩
          rcases Disk.clear_eq_ok hleft with rfl | rfl <;> rfl
        · cases hleft
          exact ⟨hfile, rfl⟩
      have hwrites := writes_of_build (P := fun path => w.disk.place path ≠ names) hleft hother
      refine hwrites.get_eq hstart fun path hpath => ?_
      rwa [Disk.place, hcurrent]
  refine ⟨?_, fun hout hurls => hkept (fun hclean => hout hclean.2) fun url hurl hplace => ?_⟩
  · by_contra hnot
    obtain ⟨hlost, hnot⟩ := not_or.mp hnot
    obtain ⟨hclean, hpage⟩ := not_or.mp hnot
    exact hlost (hkept hclean fun url hurl hplace => hpage ⟨url, hurl, hplace⟩)
  · exact hout (hplace ▸ Disk.place_outputPath w.disk _ (hurls url hurl))

end Builds

def smallSite (settings : String) : Workshop :=
  ⟨⟨.dir [("kasane.toml", .file settings 0), ("template", .dir [("a.sx", .file "\"page\"" 0)])],
    []⟩, [], []⟩

theorem clearing_build_keeps_template : ∃ r w',
    (⟨{ build := { clean := true } }, [], ⟨0, Date.epoch⟩⟩ : Builder).build (smallSite "") =
        (r, w') ∧
      w'.disk.root.get ["template", "a.sx"] = .ok (.file "\"page\"" 0) := by
  refine ⟨_, _, (Prod.eta _).symm, (build_keeps_file (Prod.eta _).symm rfl).2 ?_ ?_⟩
  · decide +kernel
  · decide +kernel

/-- The settings put the output where the templates are. -/
def overTemplates : Workshop := smallSite "[build]\noutput = \"template\"\nclean = true\n"

def buildLine : CommandLine := { command := .build false none }

theorem clearing_build_loses_template :
    ∃ config, SiteConfig.forCommand overTemplates.disk buildLine = .ok config ∧
      (config.validate overTemplates.disk buildLine).toOption = some () ∧
      (overTemplates.disk.read "template/a.sx").toOption = some "\"page\"" ∧
      ((⟨config, [], ⟨0, Date.epoch⟩⟩ : Builder).build overTemplates).1.toOption = some true ∧
      (((⟨config, [], ⟨0, Date.epoch⟩⟩ : Builder).build overTemplates).2.disk.read
        "template/a.sx").toOption = none := by
  have hrun : (SiteConfig.forCommand overTemplates.disk buildLine).toOption.map (fun config =>
      ((config.validate overTemplates.disk buildLine).toOption,
        ((⟨config, [], ⟨0, Date.epoch⟩⟩ : Builder).build overTemplates).1.toOption,
        (((⟨config, [], ⟨0, Date.epoch⟩⟩ : Builder).build overTemplates).2.disk.read
          "template/a.sx").toOption)) = some (some (), some true, none) := by decide +kernel
  cases hconfig : SiteConfig.forCommand overTemplates.disk buildLine with
  | error e =>
    rw [hconfig] at hrun
    cases hrun
  | ok config =>
    rw [hconfig] at hrun
    obtain ⟨hvalid, hrest⟩ := Prod.mk.inj (Option.some.inj hrun)
    obtain ⟨hbuilt, hread⟩ := Prod.mk.inj hrest
    exact ⟨config, rfl, hvalid, by decide +kernel, hbuilt, hread⟩

end Builder
end LayeredSite
