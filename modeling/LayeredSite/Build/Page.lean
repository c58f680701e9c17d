import LayeredSite.Build.Error
import LayeredSite.Site.Basic

namespace LayeredSite

structure Page where
  path : String
  text : String
deriving DecidableEq, Repr

structure Builder where
  config : SiteConfig
  pipeline : Pipeline
  clock : Clock

def SiteConfig.pipeline [Toolkit] (c : SiteConfig) : Pipeline :=
  if c.build.markdown then [Markdown.transformer Toolkit.markdown] else []

def Builder.standard [Toolkit] (config : SiteConfig) (clock : Clock) : Builder :=
  ⟨config, config.pipeline, clock⟩

abbrev Paging (α : Type) := ExceptT BuildError (StateM Cells) α

namespace Builder

variable [Toolkit]

def render {α : Type} (x : Rendering α) : Paging α := fun cells =>
  let (r, cells) := x.settle cells
  match r with
  | .ok a => (.ok a, cells)
  | .error e => (.error (.template e), cells)

def compiled {α : Type} (x : Except TemplateError α) : Paging α :=
  match x with
  | .ok a => pure a
  | .error e => throw (.template e)

def templates (b : Builder) (disk : Disk) : Source :=
  disk.source b.config.build.templates b.config.build.extension

def layouts (b : Builder) (disk : Disk) : Source :=
  disk.source b.config.layoutsDir b.config.build.extension

def finish (b : Builder) (path : String) (format : Option Dialect) (html : String) : String :=
  if b.config.build.minify then Markup.compact (Markup.Compaction.ofOutput path format) html
  else html

def page (b : Builder) (doc : Document) (site : Value) (url : String) : Paging Page := do
  let tree ← render (doc.render site [])
  let tree ← render (ExceptT.lift (b.pipeline.transform tree))
  let html ← render (Markup.serialize doc.format? tree)
  let path := Url.outputPath b.config.build.output url
  return ⟨path, b.finish path doc.format? html⟩

def templatePage (b : Builder) (disk : Disk) (site : Site) (path : String) : Paging Page := do
  match Path.relativeTo? path b.config.build.templates with
  | none => throw (.outsideTemplates path)
  | some name =>
    let doc ← compiled (Document.ofTemplate (b.templates disk) (b.layouts disk) name true)
    let date := disk.dateOf b.clock.today path doc.options.date
    b.page doc (site.context date none) (Url.ofTemplate name b.config.build.extension)

def postContext (b : Builder) (site : Site) (post : Post) : Value :=
  mergeSite (site.context post.date none)
    [("post", post.toValue b.config.build.tagUrl), ("url", .str post.url)]

def postPage (b : Builder) (disk : Disk) (site : Site) (post : Post) : Paging Page := do
  let raw ← compiled (disk.readTemplate post.source)
  let doc ← compiled (Document.compile (b.layouts disk) post.source raw true)
  b.page doc (b.postContext site post) post.url

def tagPage (b : Builder) (disk : Disk) (site : Site) (name : String) : Paging Page := do
  if !(Fields.keys site.tags).contains name then throw (.unknownTag name)
  let doc ← compiled (Document.ofLayout (b.layouts disk) b.config.build.tagLayout)
  b.page doc (site.context b.clock.today (some name)) (Url.ofTag b.config.build.tagUrl name)

end Builder
end LayeredSite
