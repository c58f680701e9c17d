import LayeredSite.Path.Basic
import LayeredSite.Template.Value
import LayeredSite.Toml.Document

namespace LayeredSite

structure BaseSettings where
  title : String := ""
  description : String := ""
  author : String := "<YOUR_NAME>"
  email : String := "user@noreply.kasane"
  url : Option String := none
  language : String := "en"
deriving DecidableEq, Repr

structure BuildSettings where
  root : Option String := none
  templates : String := "template"
  layouts : String := "_layouts"
  posts : String := "_posts"
  output : String := "public"
  extension : String := "sx"
  postUrl : String := "/\x7byear\x7d/\x7bmonth\x7d/\x7bslug\x7d.html"
  tagLayout : String := "tag"
  tagUrl : String := "/tag/\x7btag\x7d.html"
  minify : Bool := false
  markdown : Bool := true
  clean : Bool := false
deriving DecidableEq, Repr

structure SiteConfig where
  configPath : String := ""
  base : BaseSettings := {}
  build : BuildSettings := {}
  extra : Fields Toml.Value := []

namespace SiteConfig

def root (c : SiteConfig) : String := c.build.root.getD "./"

/-- Layouts and posts lie below the templates, unless their paths are absolute. -/
def layoutsDir (c : SiteConfig) : String := Path.join c.build.templates c.build.layouts

def postsDir (c : SiteConfig) : String := Path.join c.build.templates c.build.posts

end SiteConfig

namespace Toml

mutual

/-- The template value of a TOML value; dates and times are strings. -/
def Value.toTemplate : Value → LayeredSite.Value
  | .string s => .str s
  | .integer n => .int n
  | .float f => .float f
  | .boolean b => .bool b
  | .datetime t => .str t
  | .array items => .list (itemsToTemplate items)
  | .table entries => .map (entriesToTemplate entries)

def itemsToTemplate : List Value → List LayeredSite.Value
  | [] => []
  | v :: rest => v.toTemplate :: itemsToTemplate rest

def entriesToTemplate : List (String × Value) → List (String × LayeredSite.Value)
  | [] => []
  | (k, v) :: rest => (k, v.toTemplate) :: entriesToTemplate rest

end

end Toml

namespace SiteConfig

/-- The entries of a table; a date counts as one with a single entry. -/
def entriesOf? : Toml.Value → Option (Fields Toml.Value)
  | .table entries => some entries
  | .datetime t => some [("$__toml_private_datetime", .string t)]
  | _ => none

/-- The settings of a section, which an array gives by their order. -/
def settingsOf? (names : List String) : Toml.Value → Option (List (String × Toml.Value))
  | .array items => some (names.zip items)
  | v => entriesOf? v

def baseNames : List String := ["title", "description", "author", "email", "url", "language"]

def buildNames : List String :=
  ["root", "templates", "layouts", "posts", "output", "extension", "post_url", "tag_layout",
    "tag_url", "minify", "markdown", "clean"]

def string? : Toml.Value → Option String
  | .string s => some s
  | _ => none

def bool? : Toml.Value → Option Bool
  | .boolean b => some b
  | _ => none

def setBase (s : BaseSettings) (key : String) (v : Toml.Value) : Option BaseSettings :=
  match key with
  | "title" => (string? v).map fun x => { s with title := x }
  | "description" => (string? v).map fun x => { s with description := x }
  | "author" => (string? v).map fun x => { s with author := x }
  | "email" => (string? v).map fun x => { s with email := x }
  | "url" => (string? v).map fun x => { s with url := some x }
  | "language" => (string? v).map fun x => { s with language := x }
  | _ => none

def setBuild (s : BuildSettings) (key : String) (v : Toml.Value) : Option BuildSettings :=
  match key with
  | "root" => (string? v).map fun x => { s with root := some x }
  | "templates" => (string? v).map fun x => { s with templates := x }
  | "layouts" => (string? v).map fun x => { s with layouts := x }
  | "posts" => (string? v).map fun x => { s with posts := x }
  | "output" => (string? v).map fun x => { s with output := x }
  | "extension" => (string? v).map fun x => { s with extension := x }
  | "post_url" => (string? v).map fun x => { s with postUrl := x }
  | "tag_layout" => (string? v).map fun x => { s with tagLayout := x }
  | "tag_url" => (string? v).map fun x => { s with tagUrl := x }
  | "minify" => (bool? v).map fun x => { s with minify := x }
  | "markdown" => (bool? v).map fun x => { s with markdown := x }
  | "clean" => (bool? v).map fun x => { s with clean := x }
  | _ => none

/-- One section; every other key of the document is refused. -/
def setSection (c : SiteConfig) (key : String) (v : Toml.Value) : Option SiteConfig := do
  match key with
  | "base" =>
    let settings ← settingsOf? baseNames v
    return { c with base := ← settings.foldlM (fun s (k, x) => setBase s k x) {} }
  | "build" =>
    let settings ← settingsOf? buildNames v
    return { c with build := ← settings.foldlM (fun s (k, x) => setBuild s k x) {} }
  | "extra" => return { c with extra := ← entriesOf? v }
  | _ => none

def parse? (text : String) : Option SiteConfig := do
  let entries ← Toml.parse text
  entries.foldlM (fun c (k, v) => setSection c k v) {}

def baseValue (c : SiteConfig) : Value :=
  .record [("title", .str c.base.title), ("description", .str c.base.description),
    ("author", .str c.base.author), ("email", .str c.base.email),
    ("url", .ofString? c.base.url), ("language", .str c.base.language)]

def extraValue (c : SiteConfig) : Value := .map (Toml.entriesToTemplate c.extra)

end SiteConfig
end LayeredSite
