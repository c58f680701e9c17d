import LayeredSite.Config.Basic
import LayeredSite.Disk.Templates
import LayeredSite.Site.Url
import LayeredSite.Template.Document
import LayeredSite.Template.Pipeline

namespace LayeredSite

structure Post where
  source : String
  options : DocumentOptions
  slug : String
  url : String
  date : Date
  content : CellId

namespace Post

variable [Toolkit]

structure Settings where
  postUrl : String
  base : Value
  pipeline : Pipeline

/-- The site value for the content of a post: never the posts themselves. -/
def contentSite (base : Value) (date : Date) (url : String) : Value :=
  .record [("base", base), ("date", .str date.format), ("url", .str url)]

/-- The markup of the transformed body, without any format. -/
def contentMarkup (pipeline : Pipeline) (doc : Document) (site : Value) : Rendering String := do
  let tree ← doc.render site []
  let tree ← pipeline.transform tree
  Markup.serialize none tree

/-- The content of a post: its markup as text, so that it is inert in every page. Cells that the
site value refers to are as given. -/
def contentOutcome (pipeline : Pipeline) (doc : Document) (site : Value) (cells : Cells) :
    Outcome :=
  ((contentMarkup pipeline doc site).settle cells).1.map fun html => .raw (Text.escape html)

def load (disk : Disk) (today : Date) (layouts : Source) (settings : Settings) (path : String)
    (cells : Cells) : Except TemplateError (Post × Cells) := do
  let raw ← disk.readTemplate path
  let doc ← Document.compile layouts path raw false
  let date := disk.dateOf today path doc.options.date
  let slug := Url.postSlug path
  let url := Url.ofPost settings.postUrl date slug
  let outcome := contentOutcome settings.pipeline doc (contentSite settings.base date url) cells
  let (content, cells) := cells.add (.pending (.outcome outcome))
  return (⟨path, doc.options, slug, url, date, content⟩, cells)

def tagValue (tagUrl name : String) : Value :=
  .record [("name", .str name), ("url", .str (Url.ofTag tagUrl name))]

def toValue (p : Post) (tagUrl : String) : Value :=
  .record [("title", .ofString? p.options.title), ("url", .str p.url), ("slug", .str p.slug),
    ("date", .str p.date.format), ("tags", .list (p.options.tags.map (tagValue tagUrl))),
    ("content", .deferred p.content)]

/-- The newest first; posts of one date keep their order. -/
def sort (posts : List Post) : List Post := posts.mergeSort fun a b => b.date.notAfter a.date

end Post
end LayeredSite
