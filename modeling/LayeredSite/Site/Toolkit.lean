import LayeredSite.Markup.Dialect
import LayeredSite.Path.Basic
import LayeredSite.Text.Blank

namespace LayeredSite

/-- What a site takes from other libraries. Nothing is asked of what they compute. -/
class Toolkit where
  /-- A text as a part of a URL. -/
  slugify : String → String
  /-- The markup of a Markdown text. -/
  markdown : String → String
  /-- The compact text of an HTML page. -/
  compactPage : String → String

namespace Markup

inductive Compaction
  | html | xml
deriving DecidableEq, Repr

/-- XML files, and pages in XHTML, are XML. -/
def Compaction.ofOutput (path : String) (format : Option Dialect) : Compaction :=
  if Path.extension? path == some "xml" || format == some .xhtml then .xml else .html

/-- XML loses the blanks around its lines, and its line ends. -/
def compactXml (cs : List Char) : List Char :=
  ((Text.lines cs).map fun line => Text.trim (Text.lineText line)).flatten

def compact [Toolkit] (kind : Compaction) (s : String) : String :=
  match kind with
  | .xml => String.ofList (compactXml s.toList)
  | .html => Toolkit.compactPage s

end Markup
end LayeredSite
