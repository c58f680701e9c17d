import LayeredSite.Date.Text
import LayeredSite.Path.Basic
import LayeredSite.Site.Toolkit
import LayeredSite.Text.Blank

namespace LayeredSite.Url

def forbidden (c : Char) : Bool :=
  ['<', '>', ':', '|', '?', '*', '#', '\\', '(', ')', '[', ']', '\t', '\r', '\n'].contains c

/-- A component of an output path: trimmed, with underscores for blanks. -/
def sanitize (text : String) : String :=
  String.ofList <| ((Text.trim text.toList).filter fun c => !forbidden c).map fun c =>
    if Text.isBlank c then '_' else c

def sanitizePath (path : String) : String :=
  Path.ofTexts ((Path.components path).map fun c => sanitize c.text)

def postSlug [Toolkit] (path : String) : String :=
  Toolkit.slugify (Date.splitStem (Path.stem path)).2

def ofPost (pattern : String) (date : Date) (slug : String) : String :=
  Text.expand pattern
    [("year", toString date.year), ("month", String.ofList (Date.padded 2 date.month)),
      ("day", String.ofList (Date.padded 2 date.day)), ("slug", slug)]

def ofTag [Toolkit] (pattern tag : String) : String :=
  Text.expand pattern [("tag", Toolkit.slugify tag)]

/-- The path without the template extension, or with `.html` where no extension is left. -/
def outputName (path extension : String) : String :=
  let bare := if Path.extension? path == some extension then Path.withExtension path "" else path
  if (Path.extension? bare).isNone then Path.withExtension bare "html" else bare

def ofTemplate (path extension : String) : String :=
  "/" ++ "/".intercalate
    ((Path.components (outputName (sanitizePath path) extension)).map Path.Component.text)

/-- The file of a URL; that of a directory is its index. -/
def outputPath (dir url : String) : String :=
  let relative := String.ofList (url.toList.dropWhile (· == '/'))
  let path := Path.join dir relative
  if relative.isEmpty || url.toList.getLast? == some '/' then Path.join path "index.html" else path

end LayeredSite.Url
