import LayeredSite.Template.Value
import LayeredSite.Markup.Dialect
import LayeredSite.Date.Text

namespace LayeredSite

structure DocumentOptions where
  layout : Option String := none
  title : Option String := none
  tags : List String := []
  format : Option Dialect := none
  date : Option Date := none
deriving DecidableEq, Repr

namespace DocumentOptions

def hasTag (o : DocumentOptions) (name : String) : Bool := o.tags.contains name

def tagValue (name : String) : Value := .record [("name", .str name)]

/-- The options as templates see them; absent ones have no entry. -/
def toFields (o : DocumentOptions) : Fields Value :=
  Fields.ofList <|
    (o.layout.map fun s => ("layout", Value.str s)).toList ++
    (o.title.map fun s => ("title", Value.str s)).toList ++
    (if o.tags.isEmpty then [] else [("tags", Value.list (o.tags.map tagValue))]) ++
    (o.format.map fun f => ("format", Value.str f.name)).toList

def tagNames (value : List Char) : List String :=
  ((Text.splitOn (fun c => c == ',' || Text.isBlank c) value).filter (!·.isEmpty)).map String.ofList

/-- One option. A later layout or title replaces the earlier one and tags add up; a format or
date that cannot be read takes the earlier one away. -/
def set (o : DocumentOptions) (key : String) (value : List Char) : DocumentOptions :=
  match key with
  | "layout" => if value.isEmpty then o else { o with layout := some (String.ofList value) }
  | "title" => { o with title := some (String.ofList value) }
  | "tag" => { o with tags := o.tags ++ tagNames value }
  | "tags" => { o with tags := o.tags ++ tagNames value }
  | "format" => { o with format := Dialect.ofName? (String.ofList (value.map Char.toLower)) }
  | "date" => { o with date := Date.parseChars value }
  | _ => o

end DocumentOptions

namespace Header

def isHeaderLine (line : List Char) : Bool :=
  match Text.trim line with
  | [] => true
  | c :: _ => c == ';'

def setting? (line : List Char) : Option (String × List Char) :=
  match Text.splitAtFirst ':' (Text.trim ((Text.trim line).dropWhile (· == ';'))) with
  | none => none
  | some (k, v) =>
    let key := Text.trim k
    if key.isEmpty || key.any Text.isBlank then none
    else some (String.ofList key, Text.trim v)

def applyLine (o : DocumentOptions) (line : List Char) : DocumentOptions :=
  match setting? line with
  | some (key, value) => o.set key value
  | none => o

def headerLines (raw : List Char) : List (List Char) := (Text.lines raw).takeWhile isHeaderLine

def headerChars (raw : List Char) : List Char := (headerLines raw).flatten

def bodyChars (raw : List Char) : List Char := ((Text.lines raw).dropWhile isHeaderLine).flatten

def optionsOf (raw : List Char) : DocumentOptions := (headerLines raw).foldl applyLine {}

def parse (raw : String) : DocumentOptions × String :=
  (optionsOf raw.toList, String.ofList (bodyChars raw.toList))

theorem header_append_body (raw : List Char) : headerChars raw ++ bodyChars raw = raw := by
  rw [headerChars, bodyChars, headerLines, ← List.flatten_append,
    List.takeWhile_append_dropWhile, Text.lines_flatten]

end Header
end LayeredSite
