import LayeredSite.Log.Line
import LayeredSite.Site.Tags

namespace LayeredSite

namespace Site

variable [Toolkit]

/-- Posts so far, in the order of their files, with the cells and the errors. -/
structure Loading where
  posts : List Post
  cells : Cells
  errors : List LogLine

def loadPost (disk : Disk) (today : Date) (layouts : Source) (settings : Post.Settings)
    (l : Loading) (path : String) : Loading :=
  match Post.load disk today layouts settings path l.cells with
  | .ok (post, cells) => { l with posts := l.posts ++ [post], cells := cells }
  | .error e => { l with errors := l.errors ++ [⟨"error", path ++ ": " ++ e.message⟩] }

def settings (config : SiteConfig) (pipeline : Pipeline) : Post.Settings :=
  ⟨config.build.postUrl, config.baseValue, pipeline⟩

def loadPosts (disk : Disk) (today : Date) (config : SiteConfig) (pipeline : Pipeline) : Loading :=
  let layouts := disk.source config.layoutsDir config.build.extension
  (disk.listFiles config.postsDir config.build.extension false).foldl
    (loadPost disk today layouts (settings config pipeline)) ⟨[], [], []⟩

/-- Loads every post; those that fail are left out and logged. -/
def load (disk : Disk) (today : Date) (config : SiteConfig) (pipeline : Pipeline) :
    Site × Cells × List LogLine :=
  let l := loadPosts disk today config pipeline
  let posts := Post.sort l.posts
  (⟨config, posts, Tags.countAll (tagNames posts), l.errors.length⟩, l.cells, l.errors)

/-- The site value of a page; a tag page sees only the posts with its tag. -/
def context (s : Site) (date : Date) (tag : Option String) : Value :=
  .record <|
    [("posts", .list ((s.postsWith tag.toList).map (·.toValue s.config.build.tagUrl))),
      ("tags", .list (s.tags.map fun (name, count) => s.tagEntry name count)),
      ("date", .str date.format), ("base", s.config.baseValue), ("extra", s.config.extraValue)] ++
    (tag.map fun t => ("tag-name", Value.str t)).toList

end Site
end LayeredSite
