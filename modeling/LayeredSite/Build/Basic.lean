import LayeredSite.Build.Output
import LayeredSite.Build.Page

namespace LayeredSite

structure Workshop where
  disk : Disk
  cells : Cells
  log : List LogLine

abbrev Building (α : Type) := StateM Workshop α

namespace Building

def say (channel message : String) : Building Unit :=
  modify fun w => { w with log := w.log ++ [⟨channel, message⟩] }

def saying (lines : List LogLine) : Building Unit :=
  modify fun w => { w with log := w.log ++ lines }

end Building

open Building

namespace Builder

variable [Toolkit]

def loadSite (b : Builder) : Building Site := do
  let (site, cells, errors) := Site.load (← get).disk b.clock.today b.config b.pipeline
  modify fun w => { w with cells := cells }
  saying errors
  return site

/-- Computes a page; the cells that it reads are filled for the pages after it. -/
def computed (x : Paging Page) : Building (Except BuildError Page) := do
  let (r, cells) := x.run (← get).cells
  modify fun w => { w with cells := cells }
  return r

def writePage (b : Builder) (page : Page) : Building (Except BuildError Unit) := do
  let (r, disk) := Output.put (← get).disk page.path page.text b.clock.now
  modify fun w => { w with disk := disk }
  return r

def makeUnit (b : Builder) (name : String) (x : Paging Page) : Building Bool := do
  let written ← match ← computed x with
    | .ok page => b.writePage page
    | .error e => pure (.error e)
  match written with
  | .ok () => return true
  | .error e =>
    say "error" (name ++ ": " ++ e.report)
    return false

def makeTemplate (b : Builder) (site : Site) (path : String) : Building Bool := do
  b.makeUnit path (b.templatePage (← get).disk site path)

def makePost (b : Builder) (site : Site) (post : Post) : Building Bool := do
  b.makeUnit post.source (b.postPage (← get).disk site post)

def tagUnit (name : String) : String := "tag " ++ quoted name

def makeTag (b : Builder) (site : Site) (name : String) : Building Bool := do
  b.makeUnit (tagUnit name) (b.tagPage (← get).disk site name)

/-- Makes units one after another, whether or not the ones before succeeded. -/
def makeAll {α : Type} (make : α → Building Bool) : List α → Building Bool
  | [] => return true
  | a :: rest => do
    let ok ← make a
    let more ← makeAll make rest
    return ok && more

def regularTemplates (b : Builder) (disk : Disk) : List String :=
  disk.listFiles b.config.build.templates b.config.build.extension true

def makeTemplates (b : Builder) (site : Site) : Building Bool := do
  let templates := b.regularTemplates (← get).disk
  say "compile"
    (toString templates.length ++ " templates, " ++ toString site.posts.length ++ " posts")
  let templatesOk ← makeAll (b.makeTemplate site) templates
  let postsOk ← makeAll (b.makePost site) site.posts
  return site.failed == 0 && templatesOk && postsOk

/-- Makes the pages of tags; one whose URL an earlier tag has is refused. -/
def makeTagsFrom (b : Builder) (site : Site) : List (String × String) → List String → Building Bool
  | _, [] => return true
  | claimed, name :: rest => do
    let url := Url.ofTag b.config.build.tagUrl name
    match claimed.lookup url with
    | some owner =>
      say "error"
        (tagUnit name ++ ": output " ++ url ++ " already written for tag " ++ quoted owner)
      let _ ← makeTagsFrom b site claimed rest
      return false
    | none =>
      let ok ← b.makeTag site name
      let more ← makeTagsFrom b site ((url, name) :: claimed) rest
      return ok && more

def makeTags (b : Builder) (site : Site) : Building Bool := do
  if site.tags.isEmpty then return true
  say "compile" (toString site.tags.length ++ " tags")
  makeTagsFrom b site [] (Fields.keys site.tags)

def build (b : Builder) : Building (Except BuildError Bool) := do
  let disk := (← get).disk
  match if b.config.build.clean then Output.clear disk b.config.build.output else .ok disk with
  | .error e => return .error e
  | .ok disk =>
    modify fun w => { w with disk := disk }
    if !b.pipeline.isEmpty then
      say "build" (toString b.pipeline.length ++ " transformers registered")
    let site ← b.loadSite
    let templatesOk ← b.makeTemplates site
    let tagsOk ← b.makeTags site
    say "build" (if templatesOk && tagsOk then "done" else "finished with errors")
    return .ok (templatesOk && tagsOk)

/-- Makes one template, or one post if the path is inside the post directory. -/
def compileTemplate (b : Builder) (path : String) : Building Bool := do
  let site ← b.loadSite
  let path := Path.join b.config.build.templates path
  if Path.startsWith path b.config.postsDir then
    match site.posts.find? fun post => Path.same post.source path with
    | some post => b.makeUnit path (b.postPage (← get).disk site post)
    | none => return false
  else b.makeTemplate site path

def compileTag (b : Builder) (name : String) : Building Bool := do
  let site ← b.loadSite
  b.makeTag site name

def compileTemplates (b : Builder) : Building Bool := do b.makeTemplates (← b.loadSite)

def compileTags (b : Builder) : Building Bool := do b.makeTags (← b.loadSite)

def evaluate (b : Builder) (text : String) : Building (Except BuildError String) := do
  match Body.ofExpression text with
  | .error e => return .error (.template e)
  | .ok body =>
    let site ← b.loadSite
    let x : Paging String := do
      let tree ← render (body.render (site.context b.clock.today none) [])
      let tree ← render (ExceptT.lift (b.pipeline.transform tree))
      render (Markup.serialize none tree)
    let (r, cells) := x.run (← get).cells
    modify fun w => { w with cells := cells }
    return r

end Builder
end LayeredSite
