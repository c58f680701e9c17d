import LayeredSite.Markdown.Document
import LayeredSite.Text.Escape

namespace LayeredSite.Markdown

def isAddressChar (c : Char) : Bool :=
  c.isAlpha || c.isDigit || "!#$%()*+,-./:;=?@^_~".toList.contains c

def hexDigit (n : Nat) : Char := (Nat.digitChar n).toUpper

def percentByte (b : UInt8) : List Char :=
  ['%', hexDigit (b.toNat / 16), hexDigit (b.toNat % 16)]

def addressChar (c : Char) : List Char :=
  if isAddressChar c then [c]
  else if c = '&' then "&amp;".toList
  else if c = '\'' then "&#x27;".toList
  else (String.utf8EncodeChar c).flatMap percentByte

def addressText (cs : List Char) : List Char := cs.flatMap addressChar

structure Writer where
  /-- Pieces, latest first. -/
  pieces : List String := []
  /-- Nothing stands on the current line yet. -/
  atStart : Bool := true
  /-- Labels of footnotes in the order of their numbers. -/
  labels : List (List Char) := []

abbrev Writing := StateM Writer Unit

namespace Writer

def write (text : String) : Writing :=
  if text.isEmpty then pure ()
  else modify fun w => { w with pieces := text :: w.pieces, atStart := text.endsWith "\n" }

def chars (cs : List Char) : Writing := write (String.ofList cs)

def escaped (cs : List Char) : Writing := chars (Text.escapeChars cs)

def freshLine : Writing := do
  if !(← get).atStart then write "\n"

/-- The number of a footnote, which its first mention fixes. -/
def numberOf (label : List Char) : StateM Writer Nat := do
  let w ← get
  match w.labels.idxOf? label with
  | some i => return i + 1
  | none =>
    set { w with labels := w.labels ++ [label] }
    return w.labels.length + 1

end Writer

open Writer

def Emphasis.tag : Emphasis → String
  | emphasis => "em"
  | strong => "strong"
  | strikethrough => "del"

def writeTitle (title : List Char) : Writing := do
  if !title.isEmpty then
    write "\" title=\""
    escaped title

mutual

def writePlain : Element → Writing
  | .text cs => escaped cs
  | .code cs => escaped cs
  | .html cs => escaped cs
  | .softBreak => write " "
  | .hardBreak => write " "
  | .emphasized _ content => writePlainAll content
  | .link _ _ content => writePlainAll content
  | .image _ _ content => writePlainAll content
  | .reference label => do write ("[" ++ toString (← numberOf label) ++ "]")
  | .paragraph content => writePlainAll content
  | .heading _ content => writePlainAll content
  | .rule => write " "
  | .codeBlock _ text => escaped text
  | .table _ head rows => do
    writePlainLine head
    writePlainLines rows
  | .quote content => writePlainAll content
  | .list _ items => writePlainAll items
  | .item content => writePlainAll content
  | .footnote _ content => writePlainAll content

def writePlainAll : List Element → Writing
  | [] => pure ()
  | x :: rest => do
    writePlain x
    writePlainAll rest

def writePlainLine : List (List Element) → Writing
  | [] => pure ()
  | cell :: rest => do
    writePlainAll cell
    writePlainLine rest

def writePlainLines : List (List (List Element)) → Writing
  | [] => pure ()
  | line :: rest => do
    writePlainLine line
    writePlainLines rest

end

def Alignment.attribute : Alignment → String
  | none => ""
  | left => " style=\"text-align: left\""
  | center => " style=\"text-align: center\""
  | right => " style=\"text-align: right\""

/-- The first word behind a fence names the language of the code. -/
def writeCode (info text : List Char) : Writing := do
  let language := info.takeWhile (· != ' ')
  freshLine
  if language.isEmpty then write "<pre><code>"
  else
    write "<pre><code class=\"language-"
    escaped language
    write "\">"
  escaped text
  write "</code></pre>\n"

mutual

def writeElement : Element → Writing
  | .text cs => escaped cs
  | .code cs => do
    write "<code>"
    escaped cs
    write "</code>"
  | .html cs => chars cs
  | .softBreak => write "\n"
  | .hardBreak => write "<br />\n"
  | .emphasized kind content => do
    write ("<" ++ kind.tag ++ ">")
    writeContent content
    write ("</" ++ kind.tag ++ ">")
  | .link destination title content => do
    write "<a href=\""
    chars (addressText destination)
    writeTitle title
    write "\">"
    writeContent content
    write "</a>"
  | .image source title content => do
    write "<img src=\""
    chars (addressText source)
    write "\" alt=\""
    writePlainAll content
    writeTitle title
    write "\" />"
  | .reference label => do
    write "<sup class=\"footnote-reference\"><a href=\"#"
    escaped label
    write ("\">" ++ toString (← numberOf label) ++ "</a></sup>")
  | .paragraph content => do
    freshLine
    write "<p>"
    writeContent content
    write "</p>\n"
  | .heading level content => do
    freshLine
    write ("<h" ++ toString level ++ ">")
    writeContent content
    write ("</h" ++ toString level ++ ">\n")
  | .rule => do
    freshLine
    write "<hr />\n"
  | .codeBlock info text => writeCode info text
  | .table alignments head rows => do
    write "<table><thead><tr>"
    writeCells "th" alignments head
    write "</tr></thead><tbody>\n"
    writeRows alignments rows
    write "</tbody></table>\n"
  | .quote content => do
    freshLine
    write "<blockquote>\n"
    writeContent content
    write "</blockquote>\n"
  | .list start items => do
    freshLine
    write (match start with
      | none => "<ul>\n"
      | some 1 => "<ol>\n"
      | some n => "<ol start=\"" ++ toString n ++ "\">\n")
    writeContent items
    write (if start.isSome then "</ol>\n" else "</ul>\n")
  | .item content => do
    freshLine
    write "<li>"
    writeContent content
    write "</li>\n"
  | .footnote label content => do
    freshLine
    write "<div class=\"footnote-definition\" id=\""
    escaped label
    let number ← numberOf label
    write ("\"><sup class=\"footnote-definition-label\">" ++ toString number ++ "</sup>")
    writeContent content
    write "</div>\n"

def writeContent : List Element → Writing
  | [] => pure ()
  | x :: rest => do
    writeElement x
    writeContent rest

/-- Cells of a line, of which those beyond the columns have no alignment. -/
def writeCells (tag : String) (alignments : List Alignment) : List (List Element) → Writing
  | [] => pure ()
  | cell :: rest => do
    write ("<" ++ tag ++ (alignments.head?.getD .none).attribute ++ ">")
    writeContent cell
    write ("</" ++ tag ++ ">")
    writeCells tag (alignments.drop 1) rest

def writeRows (alignments : List Alignment) : List (List (List Element)) → Writing
  | [] => pure ()
  | row :: rest => do
    write "<tr>"
    writeCells "td" alignments row
    write "</tr>\n"
    writeRows alignments rest

end

def render (source : String) : String :=
  String.join ((writeContent (readDocument source.toList)).run {}).2.pieces.reverse

end LayeredSite.Markdown
