import LayeredSite.Program
import LayeredSite.Proofs.Build.Turns

namespace LayeredSite

namespace Builder

/-- Units whose pages are computed and written one after another. -/
inductive Makes (b : Builder) :
    List (Disk → Paging Page) → Disk × Cells → List Page → Disk × Cells → Prop
  | nil {s : Disk × Cells} : Makes b [] s [] s
  | cons {unit : Disk → Paging Page} {units : List (Disk → Paging Page)} {s t : Disk × Cells}
      {page : Page} {pages : List Page} {disk : Disk} {cells : Cells} :
      (unit s.1).run s.2 = (.ok page, cells) →
      Output.write s.1 page.path page.text b.clock.now = .ok disk →
      Makes b units (disk, cells) pages t → Makes b (unit :: units) s (page :: pages) t

def units [Toolkit] (b : Builder) (disk : Disk) (site : Site) : List (Disk → Paging Page) :=
  (b.regularTemplates disk).map (fun path d => b.templatePage d site path) ++
    site.posts.map (fun post d => b.postPage d site post) ++
    (Fields.keys site.tags).map fun name d => b.tagPage d site name

variable {b : Builder} {site : Site} {w w' : Workshop} {units units' : List (Disk → Paging Page)}
  {s t u : Disk × Cells} {pages pages' : List Page}

/-- Units whose turns all succeed have their pages written. -/
theorem makes_of_turns [Toolkit] {turns : List Turn} (h : b.Turns site s turns t)
    (hok : ∀ turn ∈ turns, turn.ok = true) :
    ∃ pages, b.Makes ((turns.map Turn.task).map fun task disk => task.page b site disk) s pages
      t := by
  induction h with
  | nil s => exact ⟨[], .nil⟩
  | @cons s t turn turns hturn _ ih =>
    obtain ⟨hfirst, hrest⟩ := List.forall_mem_cons.mp hok
    obtain ⟨pages, hpages⟩ := ih hrest
    obtain ⟨page, hpage, hwrite⟩ := hturn.ok_iff.mp hfirst
    rw [Workshop.state, hturn.cells] at hpages
    exact ⟨page :: pages, .cons (hpage ▸ hturn.page) (hturn.disk ▸ hwrite) hpages⟩

/-- A build that succeeds has cleared the output if it should, loaded every post and made every
unit. -/
theorem makes_of_build [Toolkit] (h : b.build w = (.ok true, w')) :
    ∃ disk site cells errors pages,
      (if b.config.build.clean then Output.clear w.disk b.config.build.output else .ok w.disk) =
        .ok disk ∧
      Site.load disk b.clock.today b.config b.pipeline = (site, cells, errors) ∧
      site.failed = 0 ∧ b.Makes (b.units disk site) (disk, cells) pages w'.state ∧
      ((Fields.keys site.tags).map (Url.ofTag b.config.build.tagUrl)).Nodup := by
  cases hleft : b.cleared w.disk with
  | error e =>
    rw [build_of_not_cleared hleft] at h
    cases h
  | ok left =>
    obtain ⟨site, errors, turns, ok, w'', hbuild, ⟨⟨cells, hload, hturns⟩, htasks⟩, -, hok⟩ :=
      build_of_cleared hleft
    rw [hbuild] at h
    obtain ⟨hresult, rfl⟩ := Prod.mk.inj h
    obtain rfl := Except.ok.inj hresult
    obtain ⟨hfailed, hall, hnodup⟩ := hok.mp rfl
    obtain ⟨pages, hpages⟩ := makes_of_turns hturns hall
    -- Without shared URLs every tag is attempted, so the turns are all the units.
    have hunits : b.units left site =
        (turns.map Turn.task).map fun task disk => task.page b site disk := by
      rw [htasks, tasks, ownTags_of_nodup hnodup fun _ _ => List.not_mem_nil, units]
      simp only [List.map_append, List.map_map]
      rfl
    exact ⟨left, site, cells, errors, pages, hleft, hload, hfailed, hunits ▸ hpages, hnodup⟩

/-- A path goes on leading to the same place while pages are written. -/
theorem Makes.locate (h : b.Makes units s pages t) {path : String} {names : List String}
    (hpath : s.1.locate path = .ok names) : t.1.locate path = .ok names := by
  induction h with
  | nil => exact hpath
  | cons _ hwrite _ ih =>
    obtain ⟨_, -, hkeeps, -⟩ := Output.write_eq_ok hwrite
    exact ih (hkeeps.locate hpath)

/-- A file stays as it is while no page is written in its place. -/
theorem Makes.read (h : b.Makes units s pages t) {path text : String} {names : List String}
    (hpath : s.1.locate path = .ok names) (hread : s.1.read path = .ok text)
    (hother : ∀ page ∈ pages, t.1.locate page.path ≠ .ok names) : t.1.read path = .ok text := by
  induction h with
  | nil => exact hread
  | cons _ hwrite hrest ih =>
    obtain ⟨place, hplace, hkeeps, -⟩ := Output.write_eq_ok hwrite
    obtain ⟨hpage, hothers⟩ := List.forall_mem_cons.mp hother
    have hne : names ≠ place := by
      rintro rfl
      exact hpage (hrest.locate hplace)
    exact ih (hkeeps.locate hpath) (hkeeps.read hpath hne hread) hothers

/-- The last page that is written in a place is there in the end. -/
theorem Makes.read_last {page : Page} (h : b.Makes units s (pages ++ page :: pages') t)
    (hlast : ∀ later ∈ pages', t.1.locate later.path ≠ t.1.locate page.path) :
    t.1.read page.path = .ok page.text := by
  generalize hall : pages ++ page :: pages' = all at h
  induction h generalizing pages with
  | nil => simp at hall
  | cons _ hwrite hrest ih =>
    cases pages with
    | nil =>
      obtain ⟨rfl, rfl⟩ := List.cons.inj hall
      obtain ⟨place, hplace, -, hread⟩ := Output.write_eq_ok hwrite
      refine hrest.read hplace hread fun later hlater => ?_
      rw [← hrest.locate hplace]
      exact hlast later hlater
    | cons first rest =>
      obtain ⟨rfl, hrest'⟩ := List.cons.inj hall
      exact ih hlast hrest'

/-- Of the elements with a property there is a last one. -/
theorem exists_last {α : Type} {P : α → Prop} {l : List α} (h : ∃ a ∈ l, P a) :
    ∃ earlier last later, l = earlier ++ last :: later ∧ P last ∧ ∀ a ∈ later, ¬ P a := by
  induction l with
  | nil => simp at h
  | cons a rest ih =>
    by_cases hrest : ∃ b ∈ rest, P b
    · obtain ⟨earlier, last, later, rfl, hlast, hlater⟩ := ih hrest
      exact ⟨a :: earlier, last, later, rfl, hlast, hlater⟩
    · obtain ⟨b, hb, hP⟩ := h
      rcases List.mem_cons.mp hb with rfl | hb
      · exact ⟨[], b, rest, rfl, hP, fun c hc hP' => hrest ⟨c, hc, hP'⟩⟩
      · exact absurd ⟨b, hb, hP⟩ hrest

/-- Every page is there in the end exactly if pages with the same place have the same text. -/
theorem Makes.all_read_iff (h : b.Makes units s pages t) :
    (∀ page ∈ pages, t.1.read page.path = .ok page.text) ↔
      ∀ page ∈ pages, ∀ other ∈ pages, t.1.locate other.path = t.1.locate page.path →
        other.text = page.text := by
  constructor
  · intro hread page hpage other hother hplace
    have hsame : t.1.read other.path = t.1.read page.path := Disk.read_congr hplace
    rw [hread page hpage, hread other hother] at hsame
    exact Except.ok.inj hsame
  · intro htexts page hpage
    obtain ⟨earlier, last, later, rfl, hplace, hlater⟩ :=
      exists_last (P := fun other : Page => t.1.locate other.path = t.1.locate page.path)
        ⟨page, hpage, rfl⟩
    have hlast : last ∈ earlier ++ last :: later := by simp
    have hread := h.read_last fun other hother => hplace ▸ hlater other hother
    rw [← Disk.read_congr hplace, hread, htexts page hpage last hlast hplace]

/-- A build that succeeds has written the page of every unit, and tags have different URLs. Of the
pages in one place the last one is there in the end, so that all are there exactly if those in one
place have the same text. -/
theorem build_keeps_pages_iff [Toolkit] (h : b.build w = (.ok true, w')) :
    ∃ disk site cells errors pages,
      (if b.config.build.clean then Output.clear w.disk b.config.build.output else .ok w.disk) =
        .ok disk ∧
      Site.load disk b.clock.today b.config b.pipeline = (site, cells, errors) ∧
      site.failed = 0 ∧ b.Makes (b.units disk site) (disk, cells) pages w'.state ∧
      ((Fields.keys site.tags).map (Url.ofTag b.config.build.tagUrl)).Nodup ∧
      (∀ earlier page later, pages = earlier ++ page :: later →
        (∀ other ∈ later, w'.disk.locate other.path ≠ w'.disk.locate page.path) →
          w'.disk.read page.path = .ok page.text) ∧
      ((∀ page ∈ pages, w'.disk.read page.path = .ok page.text) ↔
        ∀ page ∈ pages, ∀ other ∈ pages,
          w'.disk.locate other.path = w'.disk.locate page.path → other.text = page.text) := by
  obtain ⟨disk, site, cells, errors, pages, hcleared, hload, hfailed, hmakes, hnodup⟩ :=
    makes_of_build h
  refine ⟨disk, site, cells, errors, pages, hcleared, hload, hfailed, hmakes, hnodup, ?_,
    hmakes.all_read_iff⟩
  rintro earlier page later rfl hlast
  exact hmakes.read_last hlast

def twins : Workshop :=
  ⟨⟨.dir [("template", .dir [("a.html.sx", .file "\"two\"" 0), ("a.sx", .file "\"one\"" 0)])],
    []⟩, [], []⟩

def plain : Builder := ⟨{}, [], ⟨0, Date.epoch⟩⟩

theorem twins_built : (plain.build twins).1.toOption = some true := by decide +kernel

theorem twins_keep_last : ∃ w' units s pages, plain.build twins = (.ok true, w') ∧
    plain.Makes units s pages w'.state ∧
    ((∀ page ∈ pages, w'.disk.read page.path = .ok page.text) ↔
      ∀ page ∈ pages, ∀ other ∈ pages,
        w'.disk.locate other.path = w'.disk.locate page.path → other.text = page.text) := by
  have hok := twins_built
  rcases hresult : plain.build twins with ⟨e | done, w'⟩
  · rw [hresult] at hok
    cases hok
  · rw [hresult] at hok
    obtain rfl : done = true := Option.some.inj hok
    obtain ⟨disk, site, cells, errors, pages, -, -, -, hmakes, -, -, hkept⟩ :=
      build_keeps_pages_iff hresult
    exact ⟨w', _, _, pages, rfl, hmakes, hkept⟩

/-- The page of the first template is gone, though the build succeeds. -/
theorem twins_lose_page :
    (plain.build twins).1.toOption = some true ∧
    (let loaded := Site.load twins.disk plain.clock.today plain.config plain.pipeline
    ((plain.templatePage twins.disk loaded.1 "template/a.html.sx").run loaded.2.1).1.toOption =
      some ⟨"public/a.html", "two"⟩) ∧
    ((plain.build twins).2.disk.read "public/a.html").toOption = some "one" := by
  refine ⟨twins_built, ?_, ?_⟩
  · decide +kernel
  · decide +kernel

end Builder
end LayeredSite
