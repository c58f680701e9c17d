import LayeredSite.Proofs.Cells.Loaded
import LayeredSite.Proofs.Disk.Listing
import LayeredSite.Proofs.Layouts.Agreement
import LayeredSite.Site.Basic
import Mathlib.Data.List.Basic

namespace LayeredSite

open LayeredSite.Path

variable {disk disk' : Disk} {today : Date} {layouts : Source} {settings : Post.Settings}
  {path : String} {cells : Cells} {doc : Document} {e : TemplateError}

namespace Post

def document (disk : Disk) (layouts : Source) (path : String) : Except TemplateError Document := do
  Document.compile layouts path (← disk.readTemplate path) false

theorem document_congr (h : disk.Alike path disk') (layouts layouts' : Source) :
    document disk' layouts' path = document disk layouts path := by
  have hcompile : (fun raw => Document.compile layouts' path raw false) =
      fun raw => Document.compile layouts path raw false :=
    funext fun raw => Document.compile_alone layouts' layouts path raw
  unfold document
  rw [h.readTemplate, hcompile]

theorem unlinked_contentOutcome (pipeline : Pipeline) (doc : Document) (site : Value)
    (cells : Cells) : OutcomeIn (fun _ => False) anything
      (contentOutcome pipeline doc site cells) := by
  unfold contentOutcome
  cases ((contentMarkup pipeline doc site).settle cells).1 with
  | error e => trivial
  | ok html =>
    intro c hc
    exact absurd hc List.not_mem_nil

variable [Toolkit]

def ofDocument (disk : Disk) (today : Date) (settings : Settings) (path : String) (cells : Cells)
    (doc : Document) : Post × Cells :=
  let date := disk.dateOf today path doc.options.date
  let url := Url.ofPost settings.postUrl date (Url.postSlug path)
  let site := contentSite settings.base date url
  (⟨path, doc.options, Url.postSlug path, url, date, cells.length⟩,
    cells ++ [⟨.pending (.outcome (contentOutcome settings.pipeline doc site cells)), 0⟩])

theorem load_eq : load disk today layouts settings path cells =
    (document disk layouts path).map (ofDocument disk today settings path cells) := by
  unfold load document
  cases disk.readTemplate path with
  | error e => simp only [bind, Except.bind, Except.map]
  | ok raw =>
    simp only [bind, Except.bind]
    cases Document.compile layouts path raw false with
    | error e => simp only [Except.map]
    | ok doc => simp only [Except.map, Cells.add, ofDocument, pure, Except.pure]

theorem load_congr (h : disk.Alike path disk') (layouts layouts' : Source) :
    load disk' today layouts' settings path cells =
      load disk today layouts settings path cells := by
  have hpost : ofDocument disk' today settings path cells =
      ofDocument disk today settings path cells := by
    funext doc
    unfold ofDocument
    rw [h.dateOf]
  rw [load_eq, load_eq, document_congr h, hpost]

end Post

namespace Site

variable {config : SiteConfig} {pipeline : Pipeline} {site : Site} {errors : List LogLine}

def postFiles (disk : Disk) (config : SiteConfig) : List String :=
  disk.listFiles config.postsDir config.build.extension false

def document (disk : Disk) (config : SiteConfig) (path : String) :
    Except TemplateError Document :=
  Post.document disk (disk.source config.layoutsDir config.build.extension) path

def failure? (disk : Disk) (config : SiteConfig) (path : String) : Option LogLine :=
  match document disk config path with
  | .ok _ => none
  | .error e => some ⟨"error", path ++ ": " ++ e.message⟩

theorem failure?_eq_none_iff :
    failure? disk config path = none ↔ ∃ doc, document disk config path = .ok doc := by
  unfold failure?
  cases document disk config path with
  | error e => simp
  | ok doc => simp

variable [Toolkit]

theorem loadPost_of_ok (h : Post.document disk layouts path = .ok doc) (l : Loading) :
    loadPost disk today layouts settings l path =
      { l with
        posts := l.posts ++ [(Post.ofDocument disk today settings path l.cells doc).1]
        cells := (Post.ofDocument disk today settings path l.cells doc).2 } := by
  rw [loadPost, Post.load_eq, h]
  rfl

theorem loadPost_of_error (h : Post.document disk layouts path = .error e) (l : Loading) :
    loadPost disk today layouts settings l path =
      { l with errors := l.errors ++ [⟨"error", path ++ ": " ++ e.message⟩] } := by
  rw [loadPost, Post.load_eq, h]
  rfl

structure LoadedFrom (disk : Disk) (config : SiteConfig) (paths : List String) (l : Loading) :
    Prop where
  sources : l.posts.map Post.source = paths.filter fun path => (failure? disk config path).isNone
  errors : l.errors = paths.filterMap (failure? disk config)
  hold : ∃ outcomes, Unlinked outcomes ∧ l.cells.Hold outcomes

theorem loadedFrom_loadPost {paths : List String} {l : Loading} (h : LoadedFrom disk config paths l)
    (today : Date) (settings : Post.Settings) (path : String) :
    LoadedFrom disk config (paths ++ [path]) (loadPost disk today
      (disk.source config.layoutsDir config.build.extension) settings l path) := by
  obtain ⟨hsources, herrors, outcomes, hunlinked, hhold⟩ := h
  cases hdoc : document disk config path with
  | error e =>
    have hfailure : failure? disk config path = some ⟨"error", path ++ ": " ++ e.message⟩ := by
      rw [failure?, hdoc]
    rw [loadPost_of_error hdoc]
    refine ⟨?_, ?_, outcomes, hunlinked, hhold⟩
    · rw [List.filter_append, ← hsources]
      simp [hfailure]
    · rw [List.filterMap_append, ← herrors]
      simp [hfailure]
  | ok doc =>
    have hfailure : failure? disk config path = none := by rw [failure?, hdoc]
    rw [loadPost_of_ok hdoc]
    refine ⟨?_, ?_, _, List.forall_mem_append.mpr ⟨hunlinked, List.forall_mem_singleton.mpr ?_⟩,
      Cells.Hold.add hhold _⟩
    · rw [List.filter_append, ← hsources]
      simp [hfailure, Post.ofDocument]
    · rw [List.filterMap_append, ← herrors]
      simp [hfailure]
    · exact Post.unlinked_contentOutcome _ _ _ _

theorem loadedFrom_loadPosts (disk : Disk) (today : Date) (config : SiteConfig)
    (pipeline : Pipeline) :
    LoadedFrom disk config (postFiles disk config) (loadPosts disk today config pipeline) := by
  unfold loadPosts
  change LoadedFrom disk config (postFiles disk config) ((postFiles disk config).foldl _ _)
  generalize postFiles disk config = paths
  induction paths using List.reverseRecOn with
  | nil =>
    exact ⟨rfl, rfl, [], fun o ho => absurd ho List.not_mem_nil, rfl, fun c o ho => by cases ho⟩
  | append_singleton paths path ih =>
    rw [List.foldl_append]
    exact loadedFrom_loadPost ih today _ path

theorem load_eq (disk : Disk) (today : Date) (config : SiteConfig) (pipeline : Pipeline) :
    load disk today config pipeline =
      let l := loadPosts disk today config pipeline
      (⟨config, Post.sort l.posts, Tags.countAll (tagNames (Post.sort l.posts)), l.errors.length⟩,
        l.cells, l.errors) := rfl

/-- A site is the same on disks with the same posts. -/
theorem load_congr (hfiles : postFiles disk' config = postFiles disk config)
    (h : ∀ path ∈ postFiles disk config, disk.Alike path disk') (today : Date)
    (pipeline : Pipeline) : load disk' today config pipeline = load disk today config pipeline := by
  have hposts : loadPosts disk' today config pipeline = loadPosts disk today config pipeline := by
    unfold loadPosts
    change (postFiles disk' config).foldl _ _ = (postFiles disk config).foldl _ _
    rw [hfiles]
    refine List.foldl_ext _ _ _ fun l path hpath => ?_
    unfold loadPost
    rw [Post.load_congr (h path hpath)]
  rw [load_eq, load_eq, hposts]

section Load

variable (h : load disk today config pipeline = (site, cells, errors))

include h

theorem exists_hold_of_load : ∃ outcomes, Unlinked outcomes ∧ cells.Hold outcomes := by
  obtain ⟨-, hcells⟩ := Prod.mk.inj h
  obtain ⟨rfl, -⟩ := Prod.mk.inj hcells
  exact (loadedFrom_loadPosts disk today config pipeline).hold

/-- The errors of loading are those of the posts that do not compile. -/
theorem errors_of_load : errors = (postFiles disk config).filterMap (failure? disk config) ∧
    site.failed = errors.length := by
  obtain ⟨rfl, hcells⟩ := Prod.mk.inj h
  obtain ⟨-, rfl⟩ := Prod.mk.inj hcells
  exact ⟨(loadedFrom_loadPosts disk today config pipeline).errors, rfl⟩

theorem failed_eq_zero_iff : site.failed = 0 ↔
    ∀ path ∈ postFiles disk config, ∃ doc, document disk config path = .ok doc := by
  obtain ⟨rfl, hfailed⟩ := errors_of_load h
  rw [hfailed, List.length_eq_zero_iff, List.filterMap_eq_nil_iff]
  exact forall₂_congr fun path _ => failure?_eq_none_iff

theorem sources_of_load : (site.posts.map Post.source).Perm
    ((postFiles disk config).filter fun path => (failure? disk config path).isNone) := by
  obtain ⟨rfl, -⟩ := Prod.mk.inj h
  rw [← (loadedFrom_loadPosts disk today config pipeline).sources]
  exact (List.mergeSort_perm _ _).map _

end Load

end Site
end LayeredSite
