import LayeredSite.Proofs.Build.Sources
import LayeredSite.Proofs.Disk.Differences
import LayeredSite.Proofs.Layouts.Agreement

namespace LayeredSite

open LayeredSite.Path

/-- The names of the layouts that a unit reads. -/
def Task.Uses (b : Builder) (disk : Disk) : Task → String → Prop
  | template path, name =>
    ∃ raw, disk.readTemplate path = .ok raw ∧ Layer.NamedBy (b.layouts disk) raw name
  | post p, name =>
    ∃ raw, disk.readTemplate p.source = .ok raw ∧ Layer.NamedBy (b.layouts disk) raw name
  | tag _, name => ∃ before, Layer.Walk (b.layouts disk) b.config.build.tagLayout before name

/-- The file that a unit is compiled from; a tag has none. -/
def Task.file? : Task → Option String
  | template path => some path
  | post p => some p.source
  | tag _ => none

namespace Builder

variable {b : Builder} {site : Site} {task : Task} {path name : String} {d d' left : Disk}
  {names : List String} {s t : Disk × Cells} {turns : List Turn}

/-- The places that a build changes: those in the output directory, and those on the way to it
where nothing is. -/
def Touches (b : Builder) (d : Disk) (names : List String) : Prop :=
  d.place b.config.build.output <+: names ∨ d.Opens b.config.build.output names

instance : DecidablePred (b.Touches d) := fun names =>
  inferInstanceAs (Decidable
    (d.place b.config.build.output <+: names ∨ d.Opens b.config.build.output names))

/-- A path that leads past all places that a build changes. -/
def Apart (b : Builder) (d : Disk) (path : String) : Prop :=
  ∀ names, d.Passes path names → ¬ b.Touches d names

instance : DecidablePred (b.Apart d) := fun path =>
  inferInstanceAs (Decidable (∀ names, d.Passes path names → ¬ b.Touches d names))

def layoutPath (b : Builder) (name : String) : String :=
  Disk.templatePath b.config.layoutsDir b.config.build.extension name

/-- An output path that does not leave the output directory. -/
def InOutput (b : Builder) (path : String) : Prop :=
  ∃ url, Component.parent ∉ moves url ∧ path = Url.outputPath b.config.build.output url

/-- A page is written in the output directory, however much a build has written before. If it
cannot be written, the directories made for it are in the output or on the way to it. -/
theorem differsIn_of_put {text : String} {time : Int} (h : Disk.DiffersIn (b.Touches d) d left)
    (hpath : b.InOutput path) :
    Disk.DiffersIn (b.Touches d) d (Output.put left path text time).2 := by
  obtain ⟨url, hurl, rfl⟩ := hpath
  have hplace := Disk.place_outputPath d b.config.build.output hurl
  have hchanged : ∀ names, left.Opens (Url.outputPath b.config.build.output url) names ∨
      left.place (Url.outputPath b.config.build.output url) <+: names → b.Touches d names := by
    rintro names (⟨hpasses, hmissing⟩ | hbelow)
    · -- Nothing is there yet; unless it is in the output, it was missing at the start too.
      by_contra htouches
      obtain ⟨hroot, more, hmoves, hdown⟩ := Disk.names_of_outputPath b.config.build.output hurl
      have hpasses := (Disk.passes_iff_of_current h.current).mp hpasses
      rw [h.lookAt names htouches] at hmissing
      rcases hpasses.of_below hroot hmoves hdown with houtput | hbelow
      · exact htouches (Or.inr ⟨houtput, hmissing⟩)
      · exact htouches (Or.inl hbelow)
    · rw [Disk.place_eq_of_current h.current] at hbelow
      exact Or.inl (hplace.trans hbelow)
  exact h.trans ((Output.differsIn_put left _ text time).mono hchanged)

theorem differsIn_of_writes (h : Disk.DiffersIn (b.Touches d) d left)
    (hwrites : left.Writes b.InOutput d') : Disk.DiffersIn (b.Touches d) d d' := by
  induction hwrites with
  | refl => exact h
  | step hpath _ ih => exact ih (differsIn_of_put h hpath)

theorem differsIn_of_cleared (h : b.cleared d = .ok left) :
    Disk.DiffersIn (b.Touches d) d left := by
  unfold cleared at h
  split at h
  · exact (Disk.differsIn_clear h).mono fun _ => .inl
  · cases h
    exact .refl _ d

/-- What every unit of a build finds looks like what the build began with, away from the output. -/
theorem differsIn_of_turns [Toolkit] {errors : List LogLine} (hleft : b.cleared d = .ok left)
    (hbuilds : b.Builds left site errors turns t)
    (hurls : ∀ url ∈ b.builtUrls d, Component.parent ∉ moves url) :
    ∀ turn ∈ turns, Disk.DiffersIn (b.Touches d) d turn.before.disk := by
  obtain ⟨cells, -, hturns⟩ := hbuilds.load
  have hpages := hbuilds.pagesAt (P := b.InOutput) hleft fun url hurl => ⟨url, hurls url hurl, rfl⟩
  intro turn hturn
  exact differsIn_of_writes (differsIn_of_cleared hleft)
    ((writes_of_turns hturns hpages).2 turn hturn)

theorem layouts_read_congr (h : d.Alike (b.layoutPath name) d') :
    (b.layouts d).read name = (b.layouts d').read name := h.readTemplate.symm

def Named (b : Builder) (path : String) : Prop :=
  ∀ name, relativeTo? path b.config.build.templates = some name →
    Disk.templatePath b.config.build.templates b.config.build.extension name = path

theorem compile_congr {raw : String}
    (h : ∀ other, Layer.NamedBy (b.layouts d) raw other → d.Alike (b.layoutPath other) d') :
    Document.compile (b.layouts d') name raw true = Document.compile (b.layouts d) name raw true :=
  (Document.compile_congr fun other hother => layouts_read_congr (h other hother)).symm

/-- A unit uses the same layouts on disks that look alike where its file and its layouts are. -/
theorem uses_of_alike (hfile : ∀ path, task.file? = some path → d.Alike path d')
    (hlayouts : ∀ name, task.Uses b d name → d.Alike (b.layoutPath name) d')
    (h : task.Uses b d' name) : task.Uses b d name := by
  have hnamed {path raw : String} (halike : d.Alike path d')
      (hlayouts : ∀ name, (∃ raw, d.readTemplate path = .ok raw ∧
        Layer.NamedBy (b.layouts d) raw name) → d.Alike (b.layoutPath name) d')
      (hraw : d'.readTemplate path = .ok raw) (h : Layer.NamedBy (b.layouts d') raw name) :
      ∃ raw, d.readTemplate path = .ok raw ∧ Layer.NamedBy (b.layouts d) raw name := by
    rw [halike.readTemplate] at hraw
    obtain ⟨start, before, hstart, hwalk⟩ := h
    refine ⟨raw, hraw, start, before, hstart, hwalk.congr fun before other hother => ?_⟩
    exact layouts_read_congr (hlayouts other ⟨raw, hraw, start, before, hstart, hother⟩)
  cases task with
  | template path =>
    obtain ⟨raw, hraw, hname⟩ := h
    exact hnamed (hfile path rfl) hlayouts hraw hname
  | post p =>
    obtain ⟨raw, hraw, hname⟩ := h
    exact hnamed (hfile p.source rfl) hlayouts hraw hname
  | tag tag =>
    obtain ⟨before, hwalk⟩ := h
    exact ⟨before, hwalk.congr fun before other hother =>
      layouts_read_congr (hlayouts other ⟨before, hother⟩)⟩

/-- A unit has the same page on disks that look alike where its file and its layouts are. -/
theorem page_congr [Toolkit] (hnamed : ∀ path, task = .template path → b.Named path)
    (hfile : ∀ path, task.file? = some path → d.Alike path d')
    (hlayouts : ∀ name, task.Uses b d name → d.Alike (b.layoutPath name) d') :
    task.page b site d' = task.page b site d := by
  cases task with
  | template path =>
    have halike := hfile path rfl
    unfold Task.page templatePage
    dsimp only
    cases hname : relativeTo? path b.config.build.templates with
    | none => rfl
    | some name =>
      have hpath := hnamed path rfl name hname
      have hdoc : Document.ofTemplate (b.templates d) (b.layouts d) name true =
          Document.ofTemplate (b.templates d') (b.layouts d') name true := by
        -- The source of templates reads under a name what is at the path of the template.
        have hread (d : Disk) : (b.templates d).read name = d.readTemplate path :=
          congrArg d.readTemplate hpath
        refine Document.ofTemplate_congr ?_ fun raw other hraw hother => ?_
        · rw [hread, hread, halike.readTemplate]
        · exact layouts_read_congr (hlayouts other ⟨raw, hread d ▸ hraw, hother⟩)
      dsimp only
      rw [hdoc]
      congr 1
      funext doc
      rw [halike.dateOf]
  | post p =>
    have halike := hfile p.source rfl
    have hdoc (raw : String) (hraw : d.readTemplate p.source = .ok raw) :
        Document.compile (b.layouts d') p.source raw true =
          Document.compile (b.layouts d) p.source raw true :=
      compile_congr fun other hother => hlayouts other ⟨raw, hraw, hother⟩
    unfold Task.page postPage
    dsimp only
    rw [halike.readTemplate]
    generalize d.readTemplate p.source = r at hdoc ⊢
    cases r with
    | error e =>
      have hstop (f : String → Paging Page) :
          (compiled (.error e) >>= f) = throw (.template e) := rfl
      rw [hstop, hstop]
    | ok raw =>
      have hgo (f : String → Paging Page) : (compiled (.ok raw) >>= f) = f raw := rfl
      rw [hgo, hgo, hdoc raw rfl]
  | tag name =>
    have hdoc : Document.ofLayout (b.layouts d) b.config.build.tagLayout =
        Document.ofLayout (b.layouts d') b.config.build.tagLayout :=
      Document.ofLayout_congr fun before other hwalk =>
        layouts_read_congr (hlayouts other ⟨before, hwalk⟩)
    unfold Task.page tagPage
    rw [hdoc]

end Builder
end LayeredSite
